import Typescribe.Decimal.Reading
import Typescribe.Text.Digits
import Typescribe.Text.Split
import Typescribe.Toml.Basic
/-!
# Numbers

Integers in four bases and reals. Single underscores may stand between digits. An integer of
more than 128 bits and a real beyond the range of 64-bit floating point are oversized.
-/
set_option autoImplicit false

namespace Typescribe.Toml

def digits? (base : Nat) (text : List Char) : Option (List Char) :=
  let pieces := text.splitOn '_'
  if pieces.all fun piece => (Text.numberOfDigits? base piece).isSome then some pieces.flatten
  else none

/-- A whole number has no leading zeros. -/
def wholeDigits? (text : List Char) : Option (List Char) :=
  match digits? 10 text with
  | some ('0' :: _ :: _) => none
  | digits => digits

def integerText? : List Char → Option Int
  | '0' :: 'x' :: digits => natural 16 digits
  | '0' :: 'o' :: digits => natural 8 digits
  | '0' :: 'b' :: digits => natural 2 digits
  | written =>
    let (negative, digits) := readSign written
    (wholeDigits? digits).map (signedNumber negative)
where
  natural (base : Nat) (digits : List Char) : Option Int :=
    ((digits? base digits).bind (Text.numberOfDigits? base)).map fun number => (number : Int)

def ofInteger (number : Int) : Toml :=
  if -Int.pow 2 127 ≤ number ∧ number < Int.pow 2 128 then .integer number else .oversized

def cutAt (isCut : Char → Bool) (text : List Char) : List Char × Option (List Char) :=
  (text.takeWhile fun letter => !isCut letter,
    match text.dropWhile fun letter => !isCut letter with
    | [] => none
    | _ :: rest => some rest)

def exponent? : Option (List Char) → Option Int
  | none => some 0
  | some written =>
    let (negative, digits) := readSign written
    (digits? 10 digits).map (signedNumber negative)

def realDigits? (negative : Bool) (text : List Char) : Option Binary64 := do
  let (mantissa, exponentText) := cutAt (fun letter => letter = 'e' || letter = 'E') text
  let (whole, fractionText) := cutAt (· = '.') mantissa
  if exponentText.isNone && fractionText.isNone then none
  let whole ← wholeDigits? whole
  let fraction ← match fractionText with
    | none => some []
    | some digits => digits? 10 digits
  let exponent ← exponent? exponentText
  let size := Nat.ofDigitChars 10 (whole ++ fraction) 0
  return .ofDecimal negative size (exponent - fraction.length)

def ofReal : Binary64 → Toml
  | .infinite _ => .oversized
  | number => .real number

def realWord? (written : List Char) : Option Binary64 :=
  let (negative, word) := readSign written
  if word = ['i', 'n', 'f'] then some (.infinite negative)
  else if word = ['n', 'a', 'n'] then some .nan
  else none

def number? (written : List Char) : Option Toml :=
  match integerText? written, realWord? written with
  | some number, _ => some (ofInteger number)
  | none, some number => some (.real number)
  | none, none =>
    let (negative, digits) := readSign written
    (realDigits? negative digits).map ofReal

end Typescribe.Toml
