import Typescribe.Text.Digits
/-!
# Digits read back

The digits of a number stand for the number in every base up to sixteen. They are letters for
single digits, so what holds of those holds of all that numbers are written with.
-/
set_option autoImplicit false

namespace Typescribe.Text

variable {base : Nat}

theorem digitValue_digitChar (small : base ≤ 16) {digit : Nat} (isDigit : digit < base) :
    digitValue? base digit.digitChar = some digit := by
  have values : ∀ base < 17, ∀ digit < base, digitValue? base digit.digitChar = some digit := by
    decide
  exact values base (by omega) digit isDigit

theorem numberOfDigits_append {front : List Char} {last : Char} {number digit : Nat}
    (isNumber : numberOfDigits? base front = some number)
    (isDigit : digitValue? base last = some digit) :
    numberOfDigits? base (front ++ [last]) = some (number * base + digit) := by
  have notEmpty : front.isEmpty = false := by
    cases front with
    | nil => simp [numberOfDigits?] at isNumber
    | cons letter front => rfl
  rw [numberOfDigits?, notEmpty, if_neg nofun] at isNumber
  obtain ⟨values, areValues, total⟩ := Option.map_eq_some_iff.mp isNumber
  simp [numberOfDigits?, List.mapM_append, areValues, isDigit, total]

theorem numberOfDigits_toDigits (large : 1 < base) (small : base ≤ 16) (number : Nat) :
    numberOfDigits? base (Nat.toDigits base number) = some number := by
  induction number using Nat.base_induction base large with
  | single digit isDigit =>
    simp [Nat.toDigits_of_lt_base isDigit, numberOfDigits?, digitValue_digitChar small isDigit]
  | digit front last isDigit positive ih =>
    rw [← Nat.toDigits_append_toDigits large positive isDigit, Nat.toDigits_of_lt_base isDigit,
      numberOfDigits_append ih (digitValue_digitChar small isDigit), Nat.mul_comm]

theorem forall_mem_toDigits {holds : Char → Prop} (large : 1 < base)
    (each : ∀ digit < base, holds digit.digitChar) (number : Nat) :
    ∀ letter ∈ Nat.toDigits base number, holds letter := by
  induction number using Nat.base_induction base large with
  | single digit isDigit =>
    rw [Nat.toDigits_of_lt_base isDigit, List.forall_mem_singleton]
    exact each digit isDigit
  | digit front last isDigit positive ih =>
    rw [← Nat.toDigits_append_toDigits large positive isDigit, Nat.toDigits_of_lt_base isDigit,
      List.forall_mem_append, List.forall_mem_singleton]
    exact ⟨ih, each last isDigit⟩

end Typescribe.Text
