import Typescribe.Toml.Basic
/-!
# Space between the parts of a document

Spaces and tabs separate the parts of a line. A line ends with a line feed, or with a carriage
return and a line feed, and a comment runs to the end of its line.
-/
set_option autoImplicit false

namespace Typescribe.Toml

def isSpace (letter : Char) : Bool := letter = ' ' || letter = '\t'

def afterSpace (input : List Char) : List Char := input.dropWhile isSpace

/-- All but the control characters up to U+001F, except the tab, and U+007F. -/
def isPlain (letter : Char) : Bool :=
  letter = '\t' || (' ' ≤ letter && letter ≠ '\x7f')

def afterLineEnd? : List Char → Option (List Char)
  | '\n' :: rest => some rest
  | '\r' :: '\n' :: rest => some rest
  | _ => none

/-- Nothing but space and a comment may be left of the present line. -/
def nextLine? (input : List Char) : Option (List Char) :=
  let rest :=
    match afterSpace input with
    | '#' :: comment => comment.dropWhile isPlain
    | rest => rest
  if rest.isEmpty then some [] else afterLineEnd? rest

def afterGap? (inComment : Bool) : List Char → Option (List Char)
  | [] => some []
  | '\n' :: rest => afterGap? false rest
  | '\r' :: '\n' :: rest => afterGap? false rest
  | letter :: rest =>
    if inComment then
      if isPlain letter then afterGap? true rest else none
    else if letter = '#' then afterGap? true rest
    else if isSpace letter then afterGap? false rest
    else some (letter :: rest)

end Typescribe.Toml
