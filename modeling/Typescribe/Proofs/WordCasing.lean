import Typescribe.Proofs.Casing
/-!
# Pascal case, word by word

Pascal case runs the words of a name together. A separator leaves nothing, wherever it stands, and
what is made of a name is one word, which is left alone when it is cased again. An upper case of
several characters does not stand in the way, since the first of them has no other upper case.
-/
set_option autoImplicit false

namespace Typescribe.Text

/-! ## Characters that keep their case

Whether the characters that a case table gives are changed by it again is a question about all
pairs of its entries. It is decided at once, with sets of code points as the bits of a number. -/

/-- The bits that are set for one of the items. -/
def unionOf {α : Type} (bits : α → Nat) (items : List α) : Nat :=
  items.foldr (fun item others => bits item ||| others) 0

theorem testBit_unionOf {α : Type} {bits : α → Nat} {items : List α} {code : Nat} :
    (unionOf bits items).testBit code = true ↔
      ∃ item ∈ items, (bits item).testBit code = true := by
  induction items with
  | nil => simp [unionOf]
  | cons item items ih =>
    rw [unionOf, List.foldr_cons, ← unionOf, Nat.testBit_or, Bool.or_eq_true, ih]
    simp only [List.mem_cons, exists_eq_or_imp]

/-- The code points from `start` on, at the distances that the codes of a run have. -/
def CaseRun.codesFrom (start : Nat) (run : CaseRun) : Nat :=
  unionOf (1 <<< ·) (List.range' start ((run.last - run.first) / run.step + 1) run.step)

def changedCodes (several : List (Nat × List Nat)) (runs : List CaseRun) : Nat :=
  unionOf (fun entry => 1 <<< entry.1) several |||
    unionOf (fun run => run.codesFrom run.first) runs

/-- The null character stands for the codes of no character. -/
def leadingCodes (several : List (Nat × List Nat)) (runs : List CaseRun) : Nat :=
  1 ||| (unionOf (fun entry => 1 <<< entry.2.headD 0) several |||
    unionOf (fun run => run.codesFrom run.image) runs)

theorem CaseRun.testBit_codesFrom_of_map? {run : CaseRun} {code image : Nat}
    (mapped : run.map? code = some image) :
    (run.codesFrom run.first).testBit code = true ∧
      (run.codesFrom run.image).testBit image = true := by
  simp only [map?, Bool.and_eq_true, decide_eq_true_eq, beq_iff_eq, Option.ite_none_right_eq_some,
    Option.some.injEq] at mapped
  obtain ⟨⟨⟨fromFirst, toLast⟩, inStep⟩, rfl⟩ := mapped
  have distance : code - run.first = run.step * ((code - run.first) / run.step) :=
    (Nat.mul_div_cancel' (Nat.dvd_of_mod_eq_zero inStep)).symm
  have inside : (code - run.first) / run.step < (run.last - run.first) / run.step + 1 :=
    Nat.lt_succ_of_le (Nat.div_le_div_right (Nat.sub_le_sub_right toLast _))
  have isCode (start : Nat) :
      (run.codesFrom start).testBit (start + (code - run.first)) = true := by
    refine testBit_unionOf.mpr ⟨_, List.mem_range'.mpr ⟨_, inside, rfl⟩, ?_⟩
    rw [← distance]
    simp
  exact ⟨Nat.add_sub_cancel' fromFirst ▸ isCode run.first, isCode run.image⟩

section Tables

variable {several : List (Nat × List Nat)} {runs : List CaseRun}

theorem testBit_leadingCodes_ofNat {code : Nat}
    (leads : (leadingCodes several runs).testBit code = true) :
    (leadingCodes several runs).testBit (Char.ofNat code).toNat = true := by
  rcases toNat_ofNat code with isCode | noCode
  · rwa [isCode]
  · rw [noCode, leadingCodes, Nat.testBit_or]
    rfl

theorem changed_and_leads_of_mapCase {letter first : Char} {rest : List Char}
    (mapped : mapCase several runs letter = first :: rest) :
    first = letter ∧ rest = [] ∨
      (changedCodes several runs).testBit letter.toNat = true ∧
        (leadingCodes several runs).testBit first.toNat = true := by
  rw [mapCase] at mapped
  split at mapped
  · next codes found =>
    obtain ⟨code, more, rfl, rfl, -⟩ := List.map_eq_cons_iff.mp mapped
    obtain ⟨front, others, table, -⟩ := List.lookup_eq_some_iff.mp found
    have isEntry : (letter.toNat, code :: more) ∈ several := by simp [table]
    refine .inr ⟨?_, testBit_leadingCodes_ofNat ?_⟩
    · simp only [changedCodes, Nat.testBit_or, Bool.or_eq_true, testBit_unionOf]
      exact .inl ⟨_, isEntry, by simp⟩
    · simp only [leadingCodes, Nat.testBit_or, Bool.or_eq_true, testBit_unionOf]
      exact .inr (.inl ⟨_, isEntry, by simp⟩)
  · split at mapped
    · next code found =>
      obtain ⟨rfl, -⟩ := List.cons.inj mapped
      obtain ⟨run, isRun, isImage⟩ := List.exists_of_findSome?_eq_some found
      obtain ⟨inRun, inImage⟩ := run.testBit_codesFrom_of_map? isImage
      refine .inr ⟨?_, testBit_leadingCodes_ofNat ?_⟩
      · simp only [changedCodes, Nat.testBit_or, Bool.or_eq_true, testBit_unionOf]
        exact .inr ⟨run, isRun, inRun⟩
      · simp only [leadingCodes, Nat.testBit_or, Bool.or_eq_true, testBit_unionOf]
        exact .inr (.inr ⟨run, isRun, inImage⟩)
    · obtain ⟨rfl, rfl⟩ := List.cons.inj mapped
      exact .inl ⟨rfl, rfl⟩

theorem mapCase_of_mapCase_eq_cons
    (apart : changedCodes several runs &&& leadingCodes several runs = 0)
    (noEmptyEntry : several.all (fun entry => !entry.2.isEmpty) = true) {letter first : Char}
    {rest : List Char} (mapped : mapCase several runs letter = first :: rest) :
    mapCase several runs first = [first] := by
  rcases changed_and_leads_of_mapCase mapped with ⟨rfl, rfl⟩ | ⟨-, leads⟩
  · exact mapped
  -- What leads an entry has none itself, so the second change can only be none.
  · obtain ⟨image, others, again⟩ :=
      List.exists_cons_of_ne_nil (mapCase_ne_nil noEmptyEntry runs first)
    rcases changed_and_leads_of_mapCase again with ⟨rfl, rfl⟩ | ⟨changed, -⟩
    · exact again
    · have both := Nat.testBit_and (changedCodes several runs) (leadingCodes several runs)
        first.toNat
      rw [apart, changed, leads, Nat.zero_testBit] at both
      exact absurd both (by decide)

end Tables

theorem upper_of_upper_eq_cons {letter first : Char} {rest : List Char}
    (isUpper : upper letter = first :: rest) : upper first = [first] :=
  mapCase_of_mapCase_eq_cons (by decide +kernel) (by decide) isUpper

/-! ## First characters -/

theorem upperFirst_append {front : List Char} (notEmpty : front ≠ []) (rest : List Char) :
    upperFirst (front ++ rest) = upperFirst front ++ rest := by
  obtain ⟨first, others, rfl⟩ := List.exists_cons_of_ne_nil notEmpty
  simp [upperFirst]

theorem upperFirst_upperFirst (word : List Char) :
    upperFirst (upperFirst word) = upperFirst word := by
  cases word with
  | nil => rfl
  | cons letter others =>
    obtain ⟨first, rest, isUpper⟩ := List.exists_cons_of_ne_nil (upper_ne_nil letter)
    have capital : upperFirst (letter :: others) = first :: (rest ++ others) := by
      rw [upperFirst, isUpper, List.cons_append]
    rw [capital, upperFirst, upper_of_upper_eq_cons isUpper, List.singleton_append]

theorem upperFirst_flatMap_upperFirst (words : List (List Char)) :
    upperFirst (words.flatMap upperFirst) = words.flatMap upperFirst := by
  induction words with
  | nil => rfl
  | cons word words ih =>
    rw [List.flatMap_cons]
    -- An empty piece has no first character, so the one of the pieces behind it counts.
    by_cases noWord : upperFirst word = []
    · rw [noWord, List.nil_append, ih]
    · rw [upperFirst_append noWord, upperFirst_upperFirst]

/-! ## Words -/

def separators : List Char := ['-', '_', '.']

theorem isSeparator_iff {letter : Char} : isSeparator letter = true ↔ letter ∈ separators := by
  simp [isSeparator, separators, or_assoc]

theorem isSeparator_eq_false_iff {letter : Char} :
    isSeparator letter = false ↔ letter ∉ separators := by
  rw [← isSeparator_iff, Bool.not_eq_true]

theorem pascal_append {separator : Char} (cuts : separator ∈ separators) (front back : List Char) :
    pascal (front ++ separator :: back) = pascal front ++ pascal back := by
  rw [pascal, List.splitOnP_append_cons front back (isSeparator_iff.mpr cuts), List.flatMap_append]
  rfl

theorem pascal_of_word {word : List Char} (isWord : ∀ letter ∈ word, letter ∉ separators) :
    pascal word = upperFirst word := by
  have free : ∀ letter ∈ word, isSeparator letter = false :=
    fun letter member => isSeparator_eq_false_iff.mpr (isWord letter member)
  rw [pascal, List.splitOnP_eq_singleton free, List.flatMap_singleton]

theorem not_separator_of_mem_pascal {name : List Char} {letter : Char}
    (member : letter ∈ pascal name) : letter ∉ separators := by
  rcases casingAvoids_separators.pascal member with ⟨word, isWord, inWord⟩ | noStop
  · exact isSeparator_eq_false_iff.mp (not_cut_of_mem_splitOnP isWord inWord)
  · exact List.not_mem_of_not_mem_cons noStop

theorem pascal_pascal (name : List Char) : pascal (pascal name) = pascal name := by
  calc pascal (pascal name) = upperFirst (pascal name) :=
        pascal_of_word fun _ => not_separator_of_mem_pascal
    _ = pascal name := upperFirst_flatMap_upperFirst _

theorem camel_pascal (name : List Char) : camel (pascal name) = camel name := by
  rw [camel, pascal_pascal, camel]

/-- A casing of names that goes word by word. -/
structure CasesWords (cased : List Char → List Char) : Prop where
  /-- Nothing is left of a separator, nor of a run of them at either end. -/
  joins : ∀ separator ∈ separators, ∀ front back,
    cased (front ++ separator :: back) = cased front ++ cased back
  word : ∀ word, (∀ letter ∈ word, letter ∉ separators) → cased word = upperFirst word
  plain : ∀ name, ∀ letter ∈ cased name, letter ∉ separators
  settled : ∀ name, cased (cased name) = cased name

/-- Pascal case goes word by word and keeps its own results, and camel case does not tell whether it
came before. -/
theorem pascal_cases_words : CasesWords pascal ∧ ∀ name, camel (pascal name) = camel name :=
  ⟨⟨fun _ cuts => pascal_append cuts, fun _ => pascal_of_word,
    fun _ _ => not_separator_of_mem_pascal, pascal_pascal⟩, camel_pascal⟩

theorem longer_capitals_are_joined :
    let front := "._\u00dfa-".toList
    let back := "_\u0149b.\u01c6".toList
    '-' ∈ separators ∧ pascal (front ++ '-' :: back) = "SSa\u02bcNb\u01c4".toList ∧
      pascal (front ++ '-' :: back) = pascal front ++ pascal back ∧
      (∀ letter ∈ ['\u00df'], letter ∉ separators) ∧ pascal ['\u00df'] = upperFirst ['\u00df'] ∧
      'N' ∈ pascal back ∧ 'N' ∉ separators ∧
      pascal (pascal back) = pascal back ∧ camel (pascal front) = camel front := by
  intro front back
  have cuts : '-' ∈ separators := by decide
  have isWord : ∀ letter ∈ ['\u00df'], letter ∉ separators := by simp [separators]
  have inBack : 'N' ∈ pascal back := by decide
  obtain ⟨laws, camelLaw⟩ := pascal_cases_words
  exact ⟨cuts, by decide, laws.joins '-' cuts front back, isWord, laws.word _ isWord, inBack,
    laws.plain back 'N' inBack, laws.settled back, camelLaw front⟩

end Typescribe.Text
