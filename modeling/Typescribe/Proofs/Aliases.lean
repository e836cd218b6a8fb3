import Typescribe.Proofs.Casing
/-!
# Aliases of nested modules

The alias of a module of several segments is made segment by segment, but it is the whole path in
camel case, with hyphens for slashes. Only a first segment without words is an exception, since
then there is nothing in it to lower: the path is written in Pascal case.
-/
set_option autoImplicit false

namespace Typescribe.Text

theorem pascal_replaced (path : List Char) :
    pascal (replaced '/' '-' path) = (path.splitOn '/').flatMap pascal := by
  rw [pascal, splitOnP_replaced '/' rfl, List.flatMap_assoc]
  rfl

def hyphenated (path : List Char) : List Char := replaced '/' '-' path

def firstSegment (path : List Char) : List Char := path.takeWhile (· ≠ '/')

/-- What is made of the path of a module with several segments. -/
structure JoinsWords (path made : List Char) : Prop where
  camel : (∃ letter ∈ firstSegment path, isSeparator letter = false) →
    made = camel (hyphenated path)
  pascal : (∀ letter ∈ firstSegment path, isSeparator letter = true) →
    made = pascal (hyphenated path)
  plain : ∀ letter ∈ made, letter ∉ ['/', '-', '_', '.']
  empty : made = [] ↔
    ∀ segment ∈ path.splitOn '/', ∀ letter ∈ segment, isSeparator letter = true

theorem plain_of_word {path : List Char} {letter : Char}
    (inWord : ∃ word ∈ (hyphenated path).splitOnP isSeparator, letter ∈ word) :
    letter ∉ ['/', '-', '_', '.'] := by
  obtain ⟨word, isWord, member⟩ := inWord
  have noSeparator := not_cut_of_mem_splitOnP isWord member
  have noSlash : letter ≠ '/' := by
    obtain ⟨old, -, rfl⟩ := List.mem_map.mp (mem_of_mem_splitOnP isWord member)
    split
    · decide
    · next other => exact other
  simpa [isSeparator, noSlash, and_assoc] using noSeparator

theorem pascal_hyphenated_eq_nil_iff {path : List Char} : pascal (hyphenated path) = [] ↔
    ∀ segment ∈ path.splitOn '/', ∀ letter ∈ segment, isSeparator letter = true := by
  rw [hyphenated, pascal_replaced, List.flatMap_eq_nil_iff]
  simp only [pascal_eq_nil_iff]

/-! ## Segments -/

theorem exists_behind_firstSegment {path : List Char} (nested : '/' ∈ path) :
    ∃ behind, path = firstSegment path ++ '/' :: behind ∧ '/' ∉ firstSegment path := by
  obtain ⟨front, behind, rfl, noSlash⟩ := List.eq_append_cons_of_mem nested
  have inFront : ∀ letter ∈ front, decide (letter ≠ '/') = true := by
    intro letter member
    exact decide_eq_true fun isSlash => noSlash (isSlash ▸ member)
  have isFirst : firstSegment (front ++ '/' :: behind) = front :=
    (run_stops inFront (by simp)).1
  exact ⟨behind, by rw [isFirst], by rwa [isFirst]⟩

variable {name : List Char}

/-- The alias and the path in Pascal case differ at most in their first segment. -/
theorem moduleAlias_of_nested (nested : '/' ∈ withoutScopeMark name) : ∃ others,
    moduleAlias name = camel (firstSegment (withoutScopeMark name)) ++ others ∧
      pascal (hyphenated (withoutScopeMark name)) =
        pascal (firstSegment (withoutScopeMark name)) ++ others := by
  obtain ⟨behind, isPath, noSlash⟩ := exists_behind_firstSegment nested
  obtain ⟨segment, segments, isSplit⟩ :=
    List.exists_cons_of_ne_nil (List.splitOn_ne_nil '/' behind)
  have pieces : (withoutScopeMark name).splitOn '/' =
      firstSegment (withoutScopeMark name) :: segment :: segments := by
    rw [← isSplit, ← List.splitOn_append_cons_self_of_not_mem noSlash, ← isPath]
  refine ⟨(segment :: segments).flatMap pascal, ?_, ?_⟩
  · rw [moduleAlias, pieces]
  · rw [hyphenated, pascal_replaced, pieces, List.flatMap_cons]

theorem moduleAlias_eq_camel (nested : '/' ∈ withoutScopeMark name)
    (words : ∃ letter ∈ firstSegment (withoutScopeMark name), isSeparator letter = false) :
    moduleAlias name = camel (hyphenated (withoutScopeMark name)) := by
  obtain ⟨others, made, joined⟩ := moduleAlias_of_nested nested
  have notEmpty : pascal (firstSegment (withoutScopeMark name)) ≠ [] := by
    rw [ne_eq, pascal_eq_nil_iff]
    obtain ⟨letter, member, noSeparator⟩ := words
    exact fun all => absurd (all letter member) (by simp [noSeparator])
  rw [made, camel, camel, joined, lowerFirst_append notEmpty]

theorem moduleAlias_eq_pascal (nested : '/' ∈ withoutScopeMark name)
    (noWord : ∀ letter ∈ firstSegment (withoutScopeMark name), isSeparator letter = true) :
    moduleAlias name = pascal (hyphenated (withoutScopeMark name)) := by
  obtain ⟨others, made, joined⟩ := moduleAlias_of_nested nested
  rw [made, joined, camel_eq_nil_iff.mpr noWord, pascal_eq_nil_iff.mpr noWord]

theorem joinsWords_moduleAlias (nested : '/' ∈ withoutScopeMark name) :
    JoinsWords (withoutScopeMark name) (moduleAlias name) := by
  have either : moduleAlias name = camel (hyphenated (withoutScopeMark name)) ∨
      moduleAlias name = pascal (hyphenated (withoutScopeMark name)) := by
    by_cases noWord : ∀ letter ∈ firstSegment (withoutScopeMark name), isSeparator letter = true
    · exact .inr (moduleAlias_eq_pascal nested noWord)
    · exact .inl (moduleAlias_eq_camel nested (by simpa using noWord))
  refine ⟨moduleAlias_eq_camel nested, moduleAlias_eq_pascal nested, fun letter member => ?_, ?_⟩
  · rcases either with isCamel | isPascal
    · rw [isCamel] at member
      exact (casingAvoids_separators.camel member).elim plain_of_word id
    · rw [isPascal] at member
      exact (casingAvoids_separators.pascal member).elim plain_of_word id
  · rcases either with isCamel | isPascal
    · rw [isCamel, camel, lowerFirst_eq_nil_iff, pascal_hyphenated_eq_nil_iff]
    · rw [isPascal, pascal_hyphenated_eq_nil_iff]

theorem moduleAlias_scoped {path : List Char} (noMark : path.head? ≠ some '@') :
    moduleAlias ('@' :: path) = moduleAlias path := by
  have unmarked : withoutScopeMark path = path := by
    rw [withoutScopeMark.eq_2]
    rintro rest rfl
    exact noMark rfl
  rw [moduleAlias, moduleAlias, unmarked]
  rfl

/-- An alias of several segments is the path in camel case, or in Pascal case if its first segment
has no word. It has no separators and is empty only without words. -/
theorem nested_alias_joins_words (nested : '/' ∈ withoutScopeMark name) :
    JoinsWords (withoutScopeMark name) (moduleAlias name) ∧
      ((withoutScopeMark name).head? ≠ some '@' →
        moduleAlias ('@' :: withoutScopeMark name) = moduleAlias (withoutScopeMark name)) :=
  ⟨joinsWords_moduleAlias nested, moduleAlias_scoped⟩

/-- A first character that is lowered again, a segment without words, and a ligature. -/
theorem scoped_path_joins_words :
    let name := "@\u01c6_ab/-/\u00df.c".toList
    let path := withoutScopeMark name
    '/' ∈ path ∧ path.head? ≠ some '@' ∧ moduleAlias name = "\u01c6AbSSC".toList ∧
      JoinsWords path (moduleAlias name) ∧ moduleAlias ('@' :: path) = moduleAlias path := by
  intro name path
  have nested : '/' ∈ path := by decide
  have noMark : path.head? ≠ some '@' := by decide
  obtain ⟨joins, sameAlias⟩ := nested_alias_joins_words nested
  exact ⟨nested, noMark, by decide, joins, sameAlias noMark⟩

example : moduleAlias "-._/ab/".toList = "Ab".toList := by decide

end Typescribe.Text
