import Typescribe.Toml.Moment
import Typescribe.Toml.Number
import Typescribe.Toml.Quotation
import Typescribe.Toml.Table
/-!
# Keys and values

Keys, with or without dots, and values of every kind. A key has up to eighty parts, and brackets
and braces nest up to eighty levels. A reader takes a key or a value from the front of the input
and leaves what follows it.
-/
set_option autoImplicit false

namespace Typescribe.Toml

/-! ## Keys -/

def isKeyLetter (letter : Char) : Bool :=
  letter.isAlphanum || letter = '_' || letter = '-'

def keyPart? (input : List Char) : Option (String × List Char) :=
  match input.takeWhile isKeyLetter with
  | [] => lineText? input
  | name => some (String.ofList name, input.dropWhile isKeyLetter)

def keyParts? : Nat → List Char → Option (List String × List Char)
  | 0, _ => none
  | limit + 1, input => do
    let (part, rest) ← keyPart? (afterSpace input)
    match afterSpace rest with
    | '.' :: rest =>
      let (parts, rest) ← keyParts? limit rest
      return (part :: parts, rest)
    | rest => return ([part], rest)

/-- How many parts a key may have, and how deep brackets and braces may nest. -/
def maxDepth : Nat := 80

def key? : List Char → Option (List String × List Char) := keyParts? maxDepth

/-! ## Values -/

def isScalarLetter (letter : Char) : Bool :=
  letter.isAlphanum || letter = '_' || letter = '-' || letter = '+' || letter = '.' || letter = ':'

def scalarText? (text : List Char) : Option Toml :=
  if text = "true".toList then some (.bool true)
  else if text = "false".toList then some (.bool false)
  else if isMoment text then some .moment
  else number? text

/-- One space may stand between a date and a time of day. -/
def scalar? (input : List Char) : Option (Toml × List Char) :=
  let first := input.takeWhile isScalarLetter
  let rest := input.dropWhile isScalarLetter
  let (written, rest) :=
    match rest with
    | ' ' :: digit :: more =>
      if isDate first && digit.isDigit then
        (first ++ ' ' :: digit :: more.takeWhile isScalarLetter, more.dropWhile isScalarLetter)
      else (first, rest)
    | _ => (first, rest)
  (scalarText? written).map fun value => (value, rest)

def items? (value? : List Char → Option (Toml × List Char)) (input : List Char) :
    Option (List Toml × List Char) := do
  match ← afterGap? false input with
  | ']' :: rest => return ([], rest)
  | start =>
    let (item, rest) ← value? start
    match ← afterGap? false rest with
    | ']' :: rest => return ([item], rest)
    | ',' :: rest =>
      if rest.length < input.length then
        let (items, rest) ← items? value? rest
        return (item :: items, rest)
      else none
    | _ => none
termination_by input.length

def keyValue? (value? : List Char → Option (Toml × List Char)) (input : List Char) :
    Option (List String × Toml × List Char) := do
  let (key, rest) ← key? input
  match rest with
  | '=' :: rest =>
    let (value, rest) ← value? (afterSpace rest)
    return (key, value, afterSpace rest)
  | _ => none

def fields? (value? : List Char → Option (Toml × List Char)) (before : Fields)
    (input : List Char) : Option (Fields × List Char) := do
  let (key, value, rest) ← keyValue? value? input
  let fields ← before.define? value key
  match rest with
  | '\x7d' :: rest => return (fields, rest)
  | ',' :: rest =>
    if rest.length < input.length then fields? value? fields rest else none
  | _ => none
termination_by input.length

/-- `depth` says how deep brackets and braces may still nest. -/
def value? (depth : Nat) (input : List Char) : Option (Toml × List Char) :=
  match input with
  | '[' :: rest =>
    match depth with
    | 0 => none
    | depth + 1 => (items? (value? depth) rest).map fun (items, rest) => (.list items, rest)
  | '\x7b' :: rest =>
    match depth with
    | 0 => none
    | depth + 1 =>
      match afterSpace rest with
      | '\x7d' :: rest => some (.table .inline [], rest)
      | start => (fields? (value? depth) [] start).map fun (fields, rest) =>
        (.table .inline fields, rest)
  | '"' :: _ | '\'' :: _ => (quoted? input).map fun read => (.text read.1, read.2)
  | _ => scalar? input

end Typescribe.Toml
