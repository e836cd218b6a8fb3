/-!
# Digits

The digits `0` to `9` and the letters of either case write numbers in any base up to sixteen
and beyond.
-/
set_option autoImplicit false

namespace Typescribe.Text

def digitValue? (base : Nat) (digit : Char) : Option Nat :=
  let value :=
    if '0' ≤ digit ∧ digit ≤ '9' then some (digit.toNat - '0'.toNat)
    else if 'a' ≤ digit ∧ digit ≤ 'z' then some (digit.toNat - 'a'.toNat + 10)
    else if 'A' ≤ digit ∧ digit ≤ 'Z' then some (digit.toNat - 'A'.toNat + 10)
    else none
  value.filter fun value => value < base

/-- The most significant digit comes first. -/
def numberOfDigits? (base : Nat) (digits : List Char) : Option Nat :=
  if digits.isEmpty then none
  else (digits.mapM (digitValue? base)).map fun values =>
    values.foldl (fun number value => number * base + value) 0

end Typescribe.Text
