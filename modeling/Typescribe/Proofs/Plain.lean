import Typescribe.Proofs.Avoiding
import Typescribe.Proofs.Casing
import Typescribe.Proofs.Digits
/-!
# Texts without marks

What a writer makes of values and names on its own: numbers, escapes and the aliases of modules.
None of it brings a bracket or a line feed into the output, but for the braces of an escape, which
it closes.
-/
set_option autoImplicit false

namespace Typescribe

/-! ## Numbers -/

theorem plain_of_mem_toDigits {base : Nat} (large : 1 < base) (small : base ≤ 16)
    (number : Nat) : ∀ letter ∈ Nat.toDigits base number, isBracket letter = false := by
  have plain : ∀ digit < 16, isBracket digit.digitChar = false := by decide
  exact Text.forall_mem_toDigits large (fun digit isDigit => plain digit (by omega)) number

theorem isDigit_of_mem_toString {value : Int} {letter : Char}
    (member : letter ∈ (toString value).toList) : letter.isDigit = true ∨ letter = '-' := by
  have digits (size : Nat) : ∀ digit ∈ (Nat.repr size).toList, digit.isDigit = true := by
    intro digit inside
    rw [Nat.toList_repr] at inside
    exact Nat.isDigit_of_mem_toDigits (by decide) (by decide) inside
  cases value with
  | ofNat size => exact .inl (digits size letter member)
  | negSucc size =>
    have parts : letter ∈ ("-" ++ Nat.repr (size + 1)).toList := member
    rw [String.toList_append, List.mem_append] at parts
    exact parts.symm.imp (digits _ letter) fun sign => by simpa using sign

theorem avoids_toString (value : Int) : Avoids marks (toString value) := by
  intro letter member isMark
  have noDigit : marks.any Char.isDigit = false := by decide
  rcases isDigit_of_mem_toString member with isDigit | rfl
  · exact List.any_eq_false.mp noDigit letter isMark isDigit
  · exact absurd isMark (by decide)

theorem bracketFree_iff_avoids {text : String} : BracketFree text ↔ Avoids brackets text := by
  simp [BracketFree, Avoids, isBracket]

theorem bracketFree_toString (value : Int) : BracketFree (toString value) :=
  bracketFree_iff_avoids.mpr ((avoids_toString value).mono (List.subset_cons_self _ _))

theorem plain_of_mem_fractionDigits {places value : Nat} {letter : Char}
    (member : letter ∈ Decimal.fractionDigits places value) : isBracket letter = false := by
  simp only [Decimal.fractionDigits, List.mem_reverse] at member
  have inDigits := (List.dropWhile_sublist _).mem member
  rcases List.mem_append.mp (List.mem_reverse.mp inDigits) with zero | digit
  · rw [List.eq_of_mem_replicate zero]
    rfl
  · exact plain_of_mem_toDigits (by decide) (by decide) _ _ digit

theorem plain_of_mem_positional {number : Decimal} {letter : Char}
    (member : letter ∈ number.positional) : isBracket letter = false := by
  rw [Decimal.positional] at member
  by_cases isWhole : 0 ≤ number.exponent
  · rw [if_pos isWhole] at member
    exact plain_of_mem_toDigits (by decide) (by decide) _ _ member
  · rw [if_neg isWhole] at member
    dsimp only at member
    split at member
    · exact plain_of_mem_toDigits (by decide) (by decide) _ _ member
    · rcases List.mem_append.mp member with whole | rest
      · exact plain_of_mem_toDigits (by decide) (by decide) _ _ whole
      · rcases List.mem_cons.mp rest with point | digit
        · rw [point]
          decide
        · exact plain_of_mem_fractionDigits digit

theorem bracketFree_binary64 (value : Binary64) : BracketFree value.text := by
  cases value with
  | nan => decide
  | infinite negative => cases negative <;> decide
  | finite negative significand exponent =>
    intro letter member
    rw [Binary64.text, String.toList_ofList] at member
    have plain : ∀ digit ∈ (if significand = 0 then ['0']
        else (Decimal.shortest significand exponent).positional), isBracket digit = false := by
      intro digit isDigit
      split at isDigit
      · rw [List.mem_singleton.mp isDigit]
        rfl
      · exact plain_of_mem_positional isDigit
    split at member
    · rcases List.mem_cons.mp member with sign | digit
      · rw [sign]
        rfl
      · exact plain letter digit
    · exact plain letter member

/-! ## Literals -/

/-- An escape counts as the character that it stands for: its own braces are balanced. -/
theorem due_escaped (letter : Char) (stack : List Char) :
    due stack (Text.escaped letter) = owe stack letter := by
  rw [Text.escaped]
  -- Seven characters have an escape of their own, which holds no bracket.
  iterate 7
    split
    · next same => rw [same]; rfl
  split
  · next control =>
    have digits := due_of_plain
      (plain_of_mem_toDigits (by decide) (Nat.le_refl 16) letter.toNat) ('\x7d' :: stack)
    have opened : due stack
          ('\\' :: 'u' :: '\x7b' :: (Nat.toDigits 16 letter.toNat ++ ['\x7d'])) =
        due ('\x7d' :: stack) (Nat.toDigits 16 letter.toNat ++ ['\x7d']) := rfl
    rw [owe_of_not_bracket (plain_of_class (by decide) control), opened, due_append, digits]
    rfl
  · rw [due]
    cases owe stack letter <;> rfl

theorem Balanced.quotedString {text : String} (balanced : Balanced text) :
    Balanced (Text.quotedString text) := by
  have escapes (letters stack : List Char) :
      due stack (letters.flatMap Text.escaped) = due stack letters := by
    induction letters generalizing stack with
    | nil => rfl
    | cons letter rest ih =>
      rw [List.flatMap_cons, due_append, due_escaped, due]
      simp only [ih]
  intro stack
  have opened : due stack (Text.quoted text.toList) =
      due stack (text.toList.flatMap Text.escaped ++ ['\'']) := rfl
  have inside : due stack text.toList = some stack := balanced stack
  rw [Text.quotedString, String.toList_ofList, List.nil_append, opened, due_append, escapes,
    inside]
  rfl

/-! ## Names of modules -/

theorem casingAvoids_marks : Text.CasingAvoids marks :=
  ⟨by decide, by decide, by decide, by decide, by decide⟩

theorem mem_or_not_mark_of_pascal {name : List Char} {letter : Char}
    (member : letter ∈ Text.pascal name) : letter ∈ name ∨ letter ∉ marks :=
  (casingAvoids_marks.pascal member).imp_left fun ⟨_, isWord, inWord⟩ =>
    Text.mem_of_mem_splitOnP isWord inWord

theorem mem_or_not_mark_of_camel {name : List Char} {letter : Char}
    (member : letter ∈ Text.camel name) : letter ∈ name ∨ letter ∉ marks :=
  (casingAvoids_marks.camel member).imp_left fun ⟨_, isWord, inWord⟩ =>
    Text.mem_of_mem_splitOnP isWord inWord

theorem mem_or_not_mark_of_moduleAlias {name : List Char} {letter : Char}
    (member : letter ∈ Text.moduleAlias name) : letter ∈ name ∨ letter ∉ marks := by
  have inName : ∀ other ∈ Text.withoutScopeMark name, other ∈ name := by
    intro other inside
    unfold Text.withoutScopeMark at inside
    split at inside
    · exact List.mem_cons_of_mem _ inside
    · exact inside
  have ofSegment {segment : List Char}
      (isSegment : segment ∈ (Text.withoutScopeMark name).splitOn '/') :
      ∀ other ∈ segment, other ∈ name := fun other inside =>
    inName other (Text.mem_of_mem_splitOnP isSegment inside)
  rw [Text.moduleAlias] at member
  split at member
  · next first second others segments =>
    rcases List.mem_append.mp member with inFirst | inOthers
    · exact (mem_or_not_mark_of_camel inFirst).imp_left (ofSegment (by simp [segments]) letter)
    · obtain ⟨segment, isSegment, inSegment⟩ := List.mem_flatMap.mp inOthers
      exact (mem_or_not_mark_of_pascal inSegment).imp_left
        (ofSegment (by rw [segments]; exact List.mem_cons_of_mem _ isSegment) letter)
  · exact .inl (inName letter member)

namespace Avoids

variable {stops : List Char} {name : String}

theorem modulePath (few : stops ⊆ marks) (avoids : Avoids stops name) :
    Avoids stops (modulePath name) := by
  intro letter member
  rw [Typescribe.modulePath, String.toList_ofList, Text.replaced] at member
  obtain ⟨old, isOld, rfl⟩ := List.mem_map.mp member
  split
  · exact fun isStop => absurd (few isStop) (by decide)
  · exact avoids old isOld

theorem importAlias (few : stops ⊆ marks) (avoids : Avoids stops name) {given : Option String}
    (givenAvoids : ∀ text ∈ given, Avoids stops text) : Avoids stops (importAlias name given) := by
  have derived : Avoids stops (importAlias.derived name) := by
    intro letter member
    rw [importAlias.derived, String.toList_ofList] at member
    rcases mem_or_not_mark_of_moduleAlias member with inPath | noMark
    · exact avoids.modulePath few letter inPath
    · exact fun isStop => noMark (few isStop)
  unfold Typescribe.importAlias
  split
  · next text =>
    split
    · exact derived
    · exact givenAvoids text rfl
  · exact derived

end Avoids

end Typescribe
