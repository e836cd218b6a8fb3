import Typescribe.Text.Blank
/-!
# Single-quoted literals

`quoted` writes a text as a TypeScript literal in single quotes that stays on one line and
reads back as the text: the backslash, the quote, the line terminators and every other control
character are written as escapes, and all else as itself.
-/
set_option autoImplicit false

namespace Typescribe.Text

def escaped (letter : Char) : List Char :=
  if letter = '\\' then ['\\', '\\']
  else if letter = '\'' then ['\\', '\'']
  else if letter = '\n' then ['\\', 'n']
  else if letter = '\r' then ['\\', 'r']
  else if letter = '\t' then ['\\', 't']
  else if letter = '\u2028' then "\\u2028".toList
  else if letter = '\u2029' then "\\u2029".toList
  else if isControl letter then
    '\\' :: 'u' :: '\x7b' :: (Nat.toDigits 16 letter.toNat ++ ['\x7d'])
  else [letter]

def quoted (text : List Char) : List Char :=
  '\'' :: (text.flatMap escaped ++ ['\''])

def quotedString (text : String) : String :=
  String.ofList (quoted text.toList)

end Typescribe.Text
