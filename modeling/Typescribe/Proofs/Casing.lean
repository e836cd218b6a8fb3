import Typescribe.Proofs.GreedyFill
import Typescribe.Text.Casing
/-!
# Names in Pascal case and in camel case

A change of case makes no separator, no slash and no bracket, and it leaves something of every
word. So such a character in the result stands in a word of the name, and the result is empty only
if the name has no words.
-/
set_option autoImplicit false

namespace Typescribe.Text

/-! ## Changes of case -/

def CaseRun.avoids (stops : List Char) (run : CaseRun) : Bool :=
  (stops.map Char.toNat).all fun code =>
    code < run.image || run.image + (run.last - run.first) < code

def runsAvoid (stops : List Char) (runs : List CaseRun) : Bool :=
  runs.all (CaseRun.avoids stops)

def severalAvoid (stops : List Char) (several : List (Nat × List Nat)) : Bool :=
  several.all fun entry => entry.2.all fun code => Char.ofNat code ∉ stops

/-- Characters that no other character becomes by a change of its case. -/
structure CasingAvoids (stops : List Char) : Prop where
  /-- It stands for the code points that are no characters. -/
  noNull : '\x00' ∉ stops
  upperRuns : runsAvoid stops upperRuns = true
  upperSeveral : severalAvoid stops upperSeveral = true
  lowerRuns : runsAvoid stops lowerRuns = true
  lowerSeveral : severalAvoid stops lowerSeveral = true

theorem toNat_ofNat (code : Nat) : (Char.ofNat code).toNat = code ∨ Char.ofNat code = '\x00' := by
  by_cases valid : code.isValidChar
  · left
    rw [Char.ofNat, dif_pos valid]
    rfl
  · right
    rw [Char.ofNat, dif_neg valid]
    rfl

section Stops

variable {stops : List Char}

theorem code_of_mem (noNull : '\x00' ∉ stops) {code : Nat} (isStop : Char.ofNat code ∈ stops) :
    code ∈ stops.map Char.toNat := by
  rcases toNat_ofNat code with isCode | noCode
  · exact List.mem_map.mpr ⟨_, isStop, isCode⟩
  · exact absurd (noCode ▸ isStop) noNull

theorem CaseRun.not_mem_of_map? (noNull : '\x00' ∉ stops) {run : CaseRun}
    (avoids : run.avoids stops = true) {code image : Nat} (mapped : run.map? code = some image) :
    Char.ofNat image ∉ stops := by
  intro isStop
  have apart := List.all_eq_true.mp avoids image (code_of_mem noNull isStop)
  simp only [Bool.or_eq_true, decide_eq_true_eq] at apart
  simp only [map?, Bool.and_eq_true, decide_eq_true_eq, beq_iff_eq, Option.ite_none_right_eq_some,
    Option.some.injEq] at mapped
  omega

theorem eq_or_not_mem_of_mapCase (noNull : '\x00' ∉ stops) {several : List (Nat × List Nat)}
    (severalAvoids : severalAvoid stops several = true) {runs : List CaseRun}
    (runsAvoids : runsAvoid stops runs = true) {letter image : Char}
    (member : image ∈ mapCase several runs letter) : image = letter ∨ image ∉ stops := by
  rw [mapCase] at member
  split at member
  · next codes found =>
    obtain ⟨code, isCode, rfl⟩ := List.mem_map.mp member
    obtain ⟨front, rest, table, -⟩ := List.lookup_eq_some_iff.mp found
    have entry := List.all_eq_true.mp severalAvoids (letter.toNat, codes) (by simp [table])
    exact .inr (of_decide_eq_true (List.all_eq_true.mp entry code isCode))
  · split at member
    · next code found =>
      obtain ⟨run, isRun, mapped⟩ := List.exists_of_findSome?_eq_some found
      rw [List.mem_singleton.mp member]
      exact .inr (run.not_mem_of_map? noNull (List.all_eq_true.mp runsAvoids run isRun) mapped)
    · exact .inl (List.mem_singleton.mp member)

namespace CasingAvoids

variable (avoids : CasingAvoids stops)
include avoids

theorem upper {letter image : Char} (member : image ∈ upper letter) :
    image = letter ∨ image ∉ stops :=
  eq_or_not_mem_of_mapCase avoids.noNull avoids.upperSeveral avoids.upperRuns member

theorem lower {letter image : Char} (member : image ∈ lower letter) :
    image = letter ∨ image ∉ stops :=
  eq_or_not_mem_of_mapCase avoids.noNull avoids.lowerSeveral avoids.lowerRuns member

theorem pascal {name : List Char} {letter : Char} (member : letter ∈ pascal name) :
    (∃ word ∈ name.splitOnP isSeparator, letter ∈ word) ∨ letter ∉ stops := by
  obtain ⟨word, isWord, inWord⟩ := List.mem_flatMap.mp member
  cases word with
  | nil => simp [upperFirst] at inWord
  | cons first rest =>
    rcases List.mem_append.mp inWord with inFirst | inRest
    · exact (avoids.upper inFirst).imp_left fun same => ⟨_, isWord, by simp [same]⟩
    · exact .inl ⟨_, isWord, List.mem_cons_of_mem _ inRest⟩

theorem camel {name : List Char} {letter : Char} (member : letter ∈ camel name) :
    (∃ word ∈ name.splitOnP isSeparator, letter ∈ word) ∨ letter ∉ stops := by
  have inPascal : ∀ other ∈ Text.pascal name,
      (∃ word ∈ name.splitOnP isSeparator, other ∈ word) ∨ other ∉ stops :=
    fun other inside => avoids.pascal inside
  rw [Text.camel] at member
  cases joined : Text.pascal name with
  | nil => simp [joined, lowerFirst] at member
  | cons first rest =>
    rw [joined] at member inPascal
    rcases List.mem_append.mp member with inFirst | inRest
    · rcases avoids.lower inFirst with rfl | noStop
      · exact inPascal _ (by simp)
      · exact .inr noStop
    · exact inPascal letter (by simp [inRest])

end CasingAvoids

end Stops

theorem casingAvoids_separators : CasingAvoids ['/', '-', '_', '.'] :=
  ⟨by decide, by decide, by decide, by decide, by decide⟩

theorem mapCase_ne_nil {several : List (Nat × List Nat)}
    (noEmptyEntry : (several.all fun entry => !entry.2.isEmpty) = true) (runs : List CaseRun)
    (letter : Char) : mapCase several runs letter ≠ [] := by
  rw [mapCase]
  split
  · next codes found =>
    obtain ⟨front, rest, table, -⟩ := List.lookup_eq_some_iff.mp found
    have entry := List.all_eq_true.mp noEmptyEntry (letter.toNat, codes) (by simp [table])
    simpa using entry
  · split <;> exact List.cons_ne_nil _ _

theorem upper_ne_nil (letter : Char) : upper letter ≠ [] := mapCase_ne_nil (by decide) _ letter

theorem upperFirst_eq_nil_iff {word : List Char} : upperFirst word = [] ↔ word = [] := by
  cases word with
  | nil => rfl
  | cons first rest => simp [upperFirst, upper_ne_nil]

theorem lowerFirst_eq_nil_iff {word : List Char} : lowerFirst word = [] ↔ word = [] := by
  cases word with
  | nil => rfl
  | cons first rest =>
    have notEmpty : lower first ≠ [] := mapCase_ne_nil (by decide) _ first
    simp [lowerFirst, notEmpty]

theorem lowerFirst_append {front : List Char} (notEmpty : front ≠ []) (rest : List Char) :
    lowerFirst (front ++ rest) = lowerFirst front ++ rest := by
  obtain ⟨first, others, rfl⟩ := List.exists_cons_of_ne_nil notEmpty
  simp [lowerFirst]

/-! ## Words -/

theorem pascal_eq_nil_iff {name : List Char} :
    pascal name = [] ↔ ∀ letter ∈ name, isSeparator letter = true := by
  have noWord : pascal name = [] ↔ (name.splitOnP isSeparator).flatten = [] := by
    rw [pascal, List.flatMap_eq_nil_iff, List.flatten_eq_nil_iff]
    simp only [upperFirst_eq_nil_iff]
  rw [noWord, flatten_splitOnP]
  simp

theorem camel_eq_nil_iff {name : List Char} :
    camel name = [] ↔ ∀ letter ∈ name, isSeparator letter = true :=
  lowerFirst_eq_nil_iff.trans pascal_eq_nil_iff

end Typescribe.Text
