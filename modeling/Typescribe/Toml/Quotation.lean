import Typescribe.Text.Digits
import Typescribe.Toml.Space
/-!
# Quoted texts

A text stands between quotation marks, where a backslash begins an escape, or between
apostrophes, where every character stands for itself. Three marks at either end allow line
ends in between, of which one directly behind the opening marks does not count.
-/
set_option autoImplicit false

namespace Typescribe.Toml

def codePoint? (digits : List Char) : Option Char :=
  (Text.numberOfDigits? 16 digits).bind fun code =>
    if code.isValidChar then some (Char.ofNat code) else none

def escapeOf? (letter : Char) : Option Char :=
  [('b', '\x08'), ('t', '\t'), ('n', '\n'), ('f', '\x0c'), ('r', '\r'), ('"', '"'),
    ('\\', '\\')].lookup letter

def unescaped? : List Char → Option (List Char)
  | [] => some []
  | '\\' :: 'u' :: a :: b :: c :: d :: rest => do
    return (← codePoint? [a, b, c, d]) :: (← unescaped? rest)
  | '\\' :: 'U' :: a :: b :: c :: d :: e :: f :: g :: h :: rest => do
    return (← codePoint? [a, b, c, d, e, f, g, h]) :: (← unescaped? rest)
  | '\\' :: letter :: rest => do
    return (← escapeOf? letter) :: (← unescaped? rest)
  | letter :: rest =>
    if letter = '\\' then none else (unescaped? rest).map fun letters => letter :: letters

def putBefore (letters : List Char) (read : List Char × List Char) : List Char × List Char :=
  (letters ++ read.1, read.2)

/-! ## On one line -/

/-- With escapes, a backslash keeps the character behind it from closing. -/
def lineExtent? (mark : Char) (escapes : Bool) : List Char → Option (List Char × List Char)
  | [] => none
  | letter :: rest =>
    if letter = mark then some ([], rest)
    else if !isPlain letter then none
    else if letter = '\\' && escapes then
      match rest with
      | [] => none
      | next :: rest => (lineExtent? mark escapes rest).map (putBefore [letter, next])
    else (lineExtent? mark escapes rest).map (putBefore [letter])

def lineText? : List Char → Option (String × List Char)
  | '"' :: rest => do
    let (extent, rest) ← lineExtent? '"' true rest
    return (String.ofList (← unescaped? extent), rest)
  | '\'' :: rest => (lineExtent? '\'' false rest).map fun (extent, rest) =>
    (String.ofList extent, rest)
  | _ => none

/-! ## On several lines -/

/-- Up to two more marks in front of the closing ones belong to the text. -/
def closing? (mark : Char) (input : List Char) : Option (List Char × List Char) :=
  let marks := (input.takeWhile (· = mark)).length
  if marks < 3 then none
  else
    let own := min (marks - 3) 2
    some (List.replicate own mark, input.drop (own + 3))

def linesExtent? (mark : Char) (escapes : Bool) : List Char → Option (List Char × List Char)
  | [] => none
  | '\r' :: '\n' :: rest => (linesExtent? mark escapes rest).map (putBefore ['\r', '\n'])
  | letter :: rest =>
    match closing? mark (letter :: rest) with
    | some closed => some closed
    | none =>
      if letter = '\\' && escapes then
        match rest with
        | [] => none
        | next :: rest => (linesExtent? mark escapes rest).map (putBefore [letter, next])
      else if isPlain letter || letter = '\n' then
        (linesExtent? mark escapes rest).map (putBefore [letter])
      else none

/-- A backslash in front of a line end takes away the space up to the next character; `joining` says
whether one is in force. -/
def joinedLines (joining : Bool) : List Char → List Char
  | [] => []
  | '\\' :: '\\' :: rest => '\\' :: '\\' :: joinedLines false rest
  | letter :: rest =>
    if letter = '\\' && (afterLineEnd? (afterSpace rest)).isSome then joinedLines true rest
    else if joining && (isSpace letter || letter = '\n' || letter = '\r') then
      joinedLines true rest
    else letter :: joinedLines false rest

def linesText? (mark : Char) (escapes : Bool) (input : List Char) :
    Option (String × List Char) := do
  let (extent, rest) ← linesExtent? mark escapes ((afterLineEnd? input).getD input)
  let letters ← if escapes then unescaped? (joinedLines false extent) else some extent
  return (String.ofList letters, rest)

def quoted? : List Char → Option (String × List Char)
  | '"' :: '"' :: '"' :: rest => linesText? '"' true rest
  | '\'' :: '\'' :: '\'' :: rest => linesText? '\'' false rest
  | input => lineText? input

end Typescribe.Toml
