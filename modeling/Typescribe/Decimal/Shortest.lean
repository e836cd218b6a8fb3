import Typescribe.Decimal.Binary64
/-!
# Shortest decimal text

The text of a binary floating-point value has the fewest decimal digits that read back as the
same value; of several such numbers it is the one nearest to the value, and of two equally
near ones the larger in magnitude. It is written positionally, without an exponent, and a
whole number has no point.
-/
set_option autoImplicit false

namespace Typescribe

/-- The number `digits * 10 ^ exponent`. -/
structure Decimal where
  digits : Nat
  exponent : Int
  deriving DecidableEq, Repr

namespace Decimal

def powerFraction (base : Nat) (exponent : Int) : Nat × Nat :=
  if 0 ≤ exponent then (base.pow exponent.toNat, 1) else (1, base.pow (-exponent).toNat)

/-- The factor `10 ^ 400` makes every positive value an integer of at least one digit. -/
def leadingExponent (significand : Nat) (exponent : Int) : Int :=
  let (top, bottom) := powerFraction 2 exponent
  ((Nat.toDigits 10 (significand * Nat.pow 10 400 * top / bottom)).length : Int) - 401

/-- The nearer multiple of `10 ^ place` that reads back: one within half a unit of the last bit, a
quarter below a power of two, bounds included if the significand is even. -/
def onGrid? (size : Nat) (exponent place : Int) : Option Decimal :=
  let (top, bottom) := powerFraction 2 (exponent - 2)
  let (gridTop, gridBottom) := powerFraction 10 place
  let unit := top * gridBottom
  let step := gridTop * bottom
  let value := 4 * size * unit
  let narrow := size = Nat.pow 2 52 ∧ exponent ≠ Binary64.minExponent
  let low := (4 * size - if narrow then 1 else 2) * unit
  let high := (4 * size + 2) * unit
  let readsBack (point : Nat) : Bool :=
    if size % 2 = 0 then low ≤ point * step && point * step ≤ high
    else low < point * step && point * step < high
  let below := value / step
  let above := below + 1
  let aboveNearer := above * step - value ≤ value - below * step
  match readsBack below, readsBack above with
  | false, false => none
  | true, false => some ⟨below, place⟩
  | false, true => some ⟨above, place⟩
  | true, true => some ⟨if aboveNearer then above else below, place⟩

/-- Seventeen digits always suffice. -/
def shortest (significand : Nat) (exponent : Int) : Decimal :=
  let leading := leadingExponent significand exponent
  let found := (List.range 17).findSome? fun (count : Nat) =>
    onGrid? significand exponent (leading - count)
  found.getD ⟨0, 0⟩

def fractionDigits (places fraction : Nat) : List Char :=
  let digits := Nat.toDigits 10 fraction
  let padded := List.replicate (places - digits.length) '0' ++ digits
  (padded.reverse.dropWhile (· = '0')).reverse

def positional (number : Decimal) : List Char :=
  if 0 ≤ number.exponent then
    Nat.toDigits 10 (number.digits * Nat.pow 10 number.exponent.toNat)
  else
    let places := (-number.exponent).toNat
    let whole := Nat.toDigits 10 (number.digits / Nat.pow 10 places)
    match fractionDigits places (number.digits % Nat.pow 10 places) with
    | [] => whole
    | fraction => whole ++ '.' :: fraction

end Decimal

/-- A zero keeps its sign and a NaN has none. -/
def Binary64.text : Binary64 → String
  | .nan => "NaN"
  | .infinite negative => if negative then "-Infinity" else "Infinity"
  | .finite negative significand exponent =>
    let digits :=
      if significand = 0 then ['0']
      else (Decimal.shortest significand exponent).positional
    String.ofList (if negative then '-' :: digits else digits)

end Typescribe
