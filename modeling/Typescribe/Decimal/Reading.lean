import Typescribe.Decimal.Binary64
/-!
# Reading a real number

A real number is written as an optional sign and either a word (`inf`, `infinity`, `nan` in
any case) or digits with at most one point and an optional exponent. A point may stand at
either end of the digits, but not alone. The value is the nearest one of 64 bits; numbers too
large for it are infinite.
-/
set_option autoImplicit false

namespace Typescribe

def readSign : List Char → Bool × List Char
  | '-' :: rest => (true, rest)
  | '+' :: rest => (false, rest)
  | rest => (false, rest)

def signedNumber (negative : Bool) (digits : List Char) : Int :=
  let size := Nat.ofDigitChars 10 digits 0
  if negative then -(size : Int) else size

def readExponent? : List Char → Option Int
  | [] => some 0
  | mark :: rest =>
    if mark = 'e' ∨ mark = 'E' then
      let (negative, digits) := readSign rest
      if digits ≠ [] ∧ digits.all Char.isDigit then some (signedNumber negative digits) else none
    else none

/-- Above `10 ^ 400` and below `10 ^ -400` the digits do not matter, so no larger power is
computed. -/
def Binary64.ofDecimal (negative : Bool) (digits : Nat) (exponent : Int) : Binary64 :=
  if digits = 0 then Binary64.zero negative
  else
    let leading := ((Nat.toDigits 10 digits).length : Int) + exponent
    if 400 < leading then .infinite negative
    else if leading < -400 then Binary64.zero negative
    else if 0 ≤ exponent then Binary64.nearest negative (digits * Nat.pow 10 exponent.toNat) 1
    else Binary64.nearest negative digits (Nat.pow 10 (-exponent).toNat)

def readNumber? (negative : Bool) (text : List Char) : Option Binary64 :=
  let whole := text.takeWhile Char.isDigit
  let rest := text.dropWhile Char.isDigit
  let (fraction, rest) :=
    match rest with
    | '.' :: after => (after.takeWhile Char.isDigit, after.dropWhile Char.isDigit)
    | _ => ([], rest)
  if whole = [] ∧ fraction = [] then none
  else (readExponent? rest).map fun exponent =>
    Binary64.ofDecimal negative (Nat.ofDigitChars 10 (whole ++ fraction) 0)
      (exponent - fraction.length)

def Binary64.ofText? (text : String) : Option Binary64 :=
  let (negative, rest) := readSign text.toList
  let word := String.ofList (rest.map Char.toLower)
  if word = "inf" ∨ word = "infinity" then some (.infinite negative)
  else if word = "nan" then some .nan
  else readNumber? negative rest

end Typescribe
