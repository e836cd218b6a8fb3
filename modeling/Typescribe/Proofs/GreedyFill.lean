import Mathlib.Data.List.Chain
import Typescribe.Proofs.Filling
/-!
# The greedy fill

Line filling is known by what it yields. Its lines hold the words of the text, in order and with
single spaces between them; a line keeps to the width or is one word; and a line ends only where
the next word would not fit on it. Only one list of lines is like that, so the words of a text
alone decide about its lines.
-/
set_option autoImplicit false

namespace Typescribe.Text

/-! ## Words of lines -/

theorem words_append_blank (front : List Char) {blank : Char} (isBlank : isBlank blank = true)
    (rest : List Char) : words (front ++ blank :: rest) = words front ++ words rest := by
  rw [words, List.splitOnP_append_cons front rest isBlank, List.filter_append]
  rfl

theorem words_append_blanks (front : List Char) {blanks : List Char} (notEmpty : blanks ≠ [])
    (areBlank : ∀ letter ∈ blanks, isBlank letter = true) (rest : List Char) :
    words (front ++ blanks ++ rest) = words front ++ words rest := by
  have behind (blanks : List Char) (areBlank : ∀ letter ∈ blanks, isBlank letter = true) :
      words (blanks ++ rest) = words rest := by
    induction blanks with
    | nil => rfl
    | cons blank blanks ih =>
      have first := words_append_blank [] (areBlank blank (by simp)) (blanks ++ rest)
      exact first.trans (ih fun letter member => areBlank letter (by simp [member]))
  obtain ⟨blank, others, rfl⟩ := List.exists_cons_of_ne_nil notEmpty
  rw [List.append_assoc, List.cons_append, words_append_blank front (areBlank blank (by simp)),
    behind others fun letter member => areBlank letter (by simp [member])]

theorem words_intercalate {blanks : List Char} (notEmpty : blanks ≠ [])
    (areBlank : ∀ letter ∈ blanks, isBlank letter = true) (lines : List (List Char)) :
    words (blanks.intercalate lines) = lines.flatMap words := by
  match lines with
  | [] => rfl
  | [line] => simp
  | line :: next :: rest =>
    rw [List.intercalate_cons_cons, words_append_blanks line notEmpty areBlank,
      words_intercalate notEmpty areBlank (next :: rest), ← List.flatMap_cons]

structure IsWord (word : List Char) : Prop where
  notEmpty : word ≠ []
  noBlank : ∀ letter ∈ word, isBlank letter = false

theorem isWord_of_mem_words {text word : List Char} (member : word ∈ words text) :
    IsWord word where
  notEmpty := by simpa using (List.mem_filter.mp member).2
  noBlank _ inWord := not_blank_of_mem_words member inWord

theorem IsWord.words_eq {word : List Char} (isWord : IsWord word) : words word = [word] := by
  rw [words, List.splitOnP_eq_singleton isWord.noBlank]
  simp [isWord.notEmpty]

theorem words_spaced {row : List (List Char)} (areWords : ∀ word ∈ row, IsWord word) :
    words (spaced row) = row := by
  have blank : ∀ letter ∈ [' '], isBlank letter = true := List.forall_mem_singleton.mpr rfl
  rw [spaced, words_intercalate (by simp) blank]
  induction row with
  | nil => rfl
  | cons word row ih =>
    rw [List.flatMap_cons, (areWords word (by simp)).words_eq,
      ih fun other member => areWords other (by simp [member])]
    rfl

/-! ## Rows that are filled -/

/-- Groups of the words, each of at most the width or a single word. -/
structure IsCut (width : Nat) (given : List (List Char)) (groups : List (List (List Char))) :
    Prop where
  deals : groups.flatten = given
  filled : ∀ group ∈ groups, group ≠ []
  fits : ∀ group ∈ groups, Fits width group

/-- The first word of the next row does not fit on the row before it. -/
def EndsLate (width : Nat) (row next : List (List Char)) : Prop :=
  ∀ word ∈ next.head?, width < (spaced row).length + 1 + word.length

structure IsFill (width : Nat) (given : List (List Char)) (groups : List (List (List Char))) :
    Prop extends IsCut width given groups where
  endsLate : groups.IsChain (EndsLate width)

theorem length_spaced_le_append (row more : List (List Char)) :
    (spaced row).length ≤ (spaced (row ++ more)).length := by
  match row, more with
  | [], more => exact Nat.zero_le _
  | row, [] => rw [List.append_nil]
  | [word], next :: more =>
    rw [List.singleton_append, spaced_cons_cons, spaced_singleton, List.length_append]
    exact Nat.le_add_right _ _
  | word :: next :: rest, more =>
    have shorter := length_spaced_le_append (next :: rest) more
    rw [List.cons_append] at shorter
    simp only [List.cons_append, spaced_cons_cons, List.length_append, List.length_cons]
    omega

theorem rows_endLate (width : Nat) (words : List (List Char)) {line : List (List Char)}
    (notEmpty : line ≠ []) :
    ∃ first others, rows width (spaced line).length words = first :: others ∧
      (∀ row ∈ others, row ≠ []) ∧ ((line ++ first) :: others).IsChain (EndsLate width) := by
  induction words generalizing line with
  | nil => exact ⟨[], [], rfl, by simp, by simp⟩
  | cons word rest ih =>
    rw [rows]
    split
    · have longer := length_spaced_append notEmpty word
      obtain ⟨first, others, dealt, filled, endLate⟩ :=
        ih (List.append_ne_nil_of_right_ne_nil line (List.cons_ne_nil word []))
      rw [longer] at dealt
      refine ⟨word :: first, others, by rw [dealt]; rfl, filled, ?_⟩
      rwa [List.append_cons]
    · next noRoom =>
      obtain ⟨first, others, dealt, filled, endLate⟩ := ih (List.cons_ne_nil word [])
      rw [spaced_singleton] at dealt
      refine ⟨[], (word :: first) :: others, by rw [dealt]; rfl, ?_, ?_⟩
      · exact List.forall_mem_cons.mpr ⟨List.cons_ne_nil word first, filled⟩
      · rw [List.append_nil]
        refine List.isChain_cons_cons.mpr ⟨?_, endLate⟩
        rintro _ ⟨⟩
        omega

theorem isFill_rows (width : Nat) (word : List Char) (rest : List (List Char)) :
    IsFill width (word :: rest) ((rows width word.length rest).modifyHead (word :: ·)) := by
  have notEmpty : [word] ≠ [] := List.cons_ne_nil word []
  have alone : Fits width [word] := .inr (Nat.le_refl 1)
  obtain ⟨first, others, dealt, firstFits, othersFit⟩ := rows_fit rest notEmpty alone
  obtain ⟨sameFirst, sameOthers, same, filled, endLate⟩ := rows_endLate width rest notEmpty
  obtain ⟨rfl, rfl⟩ := List.cons_eq_cons.mp (dealt.symm.trans same)
  rw [spaced_singleton] at dealt
  have deals : ((rows width word.length rest).modifyHead (word :: ·)).flatten = word :: rest := by
    rw [flatten_modifyHead_cons word (rows_ne_nil _ _ _), flatten_rows]
  rw [dealt] at deals ⊢
  exact {
    deals
    filled := List.forall_mem_cons.mpr ⟨List.cons_ne_nil word first, filled⟩
    fits := List.forall_mem_cons.mpr ⟨firstFits, othersFit⟩
    endsLate := endLate }

theorem IsFill.behind {width : Nat} {given group : List (List Char)}
    {groups : List (List (List Char))} (isFill : IsFill width given (group :: groups)) :
    IsFill width groups.flatten groups where
  deals := rfl
  filled := (List.forall_mem_cons.mp isFill.filled).2
  fits := (List.forall_mem_cons.mp isFill.fits).2
  endsLate := isFill.endsLate.of_cons

theorem Fits.room {width : Nat} {line more : List (List Char)} {word : List Char}
    (notEmpty : line ≠ []) (fits : Fits width (line ++ word :: more)) :
    (spaced line).length + 1 + word.length ≤ width := by
  have begins := length_spaced_le_append (line ++ [word]) more
  rw [← List.append_cons, length_spaced_append notEmpty] at begins
  have atLeastTwo : ¬ (line ++ word :: more).length ≤ 1 := by
    have positive := List.length_pos_iff.mpr notEmpty
    simp only [List.length_append, List.length_cons]
    omega
  have short := fits.resolve_right atLeastTwo
  omega

/-- The next word stands on the current line if and only if it fits. -/
theorem rows_of_isFill {width : Nat} {words line first : List (List Char)}
    {others : List (List (List Char))} (notEmpty : line ≠ [])
    (isFill : IsFill width (line ++ words) ((line ++ first) :: others)) :
    rows width (spaced line).length words = first :: others := by
  induction words generalizing line first others with
  | nil =>
    have noWord : first = [] ∧ others.flatten = [] := by
      simpa [List.append_assoc] using isFill.deals
    cases others with
    | nil => rw [noWord.1, rows]
    | cons row others =>
      have filled := isFill.behind.filled row (by simp)
      exact absurd (List.append_eq_nil_iff.mp noWord.2).1 filled
  | cons word rest ih =>
    have deals : first ++ others.flatten = word :: rest := by
      have both := isFill.deals
      rw [List.flatten_cons, List.append_assoc] at both
      exact List.append_cancel_left both
    cases first with
    | nil =>
      -- The word begins the next row, so it did not fit on the line.
      cases others with
      | nil => cases deals
      | cons next others =>
        obtain ⟨head, tail, rfl⟩ := List.exists_cons_of_ne_nil (isFill.behind.filled next (by simp))
        obtain ⟨rfl, dealtBehind⟩ : head = word ∧ tail ++ others.flatten = rest :=
          List.cons_eq_cons.mp deals
        have noRoom : width < (spaced line).length + 1 + head.length := by
          have endsLate := (List.isChain_cons_cons.mp isFill.endsLate).1
          rw [List.append_nil] at endsLate
          exact endsLate head rfl
        have behind : IsFill width ([head] ++ rest) (([head] ++ tail) :: others) := by
          have filled := isFill.behind
          rwa [List.flatten_cons, List.cons_append, dealtBehind] at filled
        have dealt := ih (List.cons_ne_nil head []) behind
        rw [spaced_singleton] at dealt
        rw [rows, if_neg (Nat.not_le.mpr noRoom), dealt]
        rfl
    | cons head tail =>
      -- The word stands on the line, so it fits there.
      obtain ⟨rfl, -⟩ := List.cons_eq_cons.mp deals
      have room := (isFill.fits (line ++ head :: tail) (by simp)).room notEmpty
      rw [List.append_cons line head rest, List.append_cons line head tail] at isFill
      have dealt := ih (List.append_ne_nil_of_right_ne_nil line (List.cons_ne_nil head [])) isFill
      rw [length_spaced_append notEmpty] at dealt
      rw [rows, if_pos room, dealt]
      rfl

theorem IsFill.eq_rows {width : Nat} {word : List Char} {rest : List (List Char)}
    {groups : List (List (List Char))} (isFill : IsFill width (word :: rest) groups) :
    groups = (rows width word.length rest).modifyHead (word :: ·) := by
  match groups with
  | [] => cases isFill.deals
  | [] :: others => exact absurd rfl (isFill.filled [] (by simp))
  | (head :: first) :: others =>
    obtain ⟨rfl, -⟩ : head = word ∧ _ := List.cons_eq_cons.mp isFill.deals
    have dealt := rows_of_isFill (List.cons_ne_nil head []) isFill
    rw [spaced_singleton] at dealt
    rw [dealt]
    rfl

/-! ## Lines -/

/-- The lines of a greedy fill, as they are read: word by word. -/
structure IsGreedyFill (width : Nat) (given : List (List Char)) (lines : List (List Char)) :
    Prop where
  keepsWords : lines.flatMap words = given
  isSpaced : ∀ line ∈ lines, line = spaced (words line)
  fits : ∀ line ∈ lines, line.length ≤ width ∨ words line = [line]
  endsLate : lines.IsChain fun line next =>
    ∀ word ∈ (words next).head?, width < line.length + 1 + word.length
  noEmptyLine : given ≠ [] → [] ∉ lines
  emptyLine : given = [] → lines = [[]]

theorem isGreedyFill_empty (width : Nat) : IsGreedyFill width [] [[]] where
  keepsWords := rfl
  isSpaced := by simp [words]
  fits := by simp
  endsLate := List.isChain_singleton []
  noEmptyLine notEmpty := absurd rfl notEmpty
  emptyLine _ := rfl

theorem IsFill.isGreedyFill {width : Nat} {given : List (List Char)}
    {rows : List (List (List Char))} (areWords : ∀ word ∈ given, IsWord word)
    (notEmpty : given ≠ []) (isFill : IsFill width given rows) :
    IsGreedyFill width given (rows.map spaced) := by
  have readsBack : ∀ row ∈ rows, words (spaced row) = row := by
    intro row isRow
    refine words_spaced fun word inRow => areWords word ?_
    rw [← isFill.deals]
    exact List.mem_flatten.mpr ⟨row, isRow, inRow⟩
  constructor
  · rw [List.flatMap_map, List.flatMap_congr readsBack, List.flatMap_id', isFill.deals]
  · rw [List.forall_mem_map]
    intro row isRow
    rw [readsBack row isRow]
  · rw [List.forall_mem_map]
    intro row isRow
    rw [readsBack row isRow]
    refine (isFill.fits row isRow).imp_right fun single => ?_
    match row, isFill.filled row isRow, single with
    | [word], _, _ => rw [spaced_singleton]
  · rw [List.isChain_map]
    refine isFill.endsLate.imp_of_mem_imp fun row next _ isNext endsLate word => ?_
    rw [readsBack next isNext]
    exact endsLate word
  · intro _ isEmpty
    obtain ⟨row, isRow, noText⟩ := List.mem_map.mp isEmpty
    have noWord : words (spaced row) = [] := by rw [noText]; rfl
    rw [readsBack row isRow] at noWord
    exact isFill.filled row isRow noWord
  · intro isEmpty
    exact absurd isEmpty notEmpty

theorem IsGreedyFill.isFill {width : Nat} {given : List (List Char)} {lines : List (List Char)}
    (notEmpty : given ≠ []) (isFill : IsGreedyFill width given lines) :
    IsFill width given (lines.map words) := by
  constructor
  · constructor
    · rw [← List.flatMap_def, isFill.keepsWords]
    · rw [List.forall_mem_map]
      intro line isLine noWord
      have isEmpty := isFill.isSpaced line isLine
      rw [noWord, spaced_nil] at isEmpty
      exact isFill.noEmptyLine notEmpty (isEmpty ▸ isLine)
    · rw [List.forall_mem_map]
      intro line isLine
      obtain short | single := isFill.fits line isLine
      · rw [isFill.isSpaced line isLine] at short
        exact .inl short
      · exact .inr (by rw [single, List.length_singleton])
  · rw [List.isChain_map]
    refine isFill.endsLate.imp_of_mem_imp fun line next isLine _ endsLate word isFirst => ?_
    rw [← isFill.isSpaced line isLine]
    exact endsLate word isFirst

/-- A text is wrapped into the lines of the greedy fill of its words. -/
theorem isGreedyFill_wrapped {width : Nat} (wraps : width ≠ 0) (text : List Char) :
    IsGreedyFill width (words text) (wrapped width text) := by
  have areWords : ∀ word ∈ words text, IsWord word := fun word => isWord_of_mem_words
  rw [wrapped, if_neg wraps]
  split
  · next noWord =>
    rw [noWord]
    exact isGreedyFill_empty width
  · next word rest isWords =>
    rw [isWords] at areWords ⊢
    exact (isFill_rows width word rest).isGreedyFill areWords (List.cons_ne_nil word rest)

/-- No other lines are a greedy fill of the words. -/
theorem IsGreedyFill.eq_wrapped {width : Nat} (wraps : width ≠ 0) {text : List Char}
    {lines : List (List Char)} (isFill : IsGreedyFill width (words text) lines) :
    lines = wrapped width text := by
  rw [wrapped, if_neg wraps]
  split
  · next noWord => exact isFill.emptyLine noWord
  · next word rest isWords =>
    rw [isWords] at isFill
    have sameRows : lines.map words = (rows width word.length rest).modifyHead (word :: ·) :=
      (isFill.isFill (List.cons_ne_nil word rest)).eq_rows
    have sameLines : lines.map (spaced ∘ words) = lines.map id :=
      List.map_congr_left fun line isLine => (isFill.isSpaced line isLine).symm
    rw [← sameRows, List.map_map, sameLines, List.map_id]

theorem wrapped_congr {width : Nat} (wraps : width ≠ 0) {first second : List Char}
    (same : words first = words second) : wrapped width first = wrapped width second := by
  rw [wrapped, wrapped, if_neg wraps, if_neg wraps, same]

/-- Wrapping yields the one greedy fill of the words of a text, so lines that are joined with blanks
and wrapped again give the lines at the new width. -/
theorem wrapped_is_greedy_fill {width : Nat} (wraps : width ≠ 0) (text : List Char) :
    IsGreedyFill width (words text) (wrapped width text) ∧
    (∀ lines, IsGreedyFill width (words text) lines → lines = wrapped width text) ∧
    (∀ other, words other = words text → wrapped width other = wrapped width text) ∧
    ∀ blanks, blanks ≠ [] → (∀ letter ∈ blanks, isBlank letter = true) → ∀ again, again ≠ 0 →
      wrapped again (blanks.intercalate (wrapped width text)) = wrapped again text := by
  have isFill := isGreedyFill_wrapped wraps text
  refine ⟨isFill, ?_, ?_, ?_⟩
  · intro lines isOther
    exact isOther.eq_wrapped wraps
  · intro other sameWords
    exact wrapped_congr wraps sameWords
  · intro blanks notEmpty areBlank again wrapsAgain
    apply wrapped_congr wrapsAgain
    rw [words_intercalate notEmpty areBlank, isFill.keepsWords]

theorem oversized_word_is_greedy_fill :
    let text := " the  ¿quick?\tsupercalifragilistic\u00a0word on ".toList
    let lines :=
      ["the ¿quick?".toList, "supercalifragilistic".toList, "word on".toList]
    11 ≠ 0 ∧ wrapped 11 text = lines ∧ IsGreedyFill 11 (words text) lines ∧
      wrapped 6 (['\r', '\n'].intercalate lines) = wrapped 6 text ∧
      wrapped 6 text = ["the".toList, "¿quick?".toList, "supercalifragilistic".toList,
        "word".toList, "on".toList] := by
  intro text lines
  have wraps : 11 ≠ 0 := by decide
  have isWrapped : wrapped 11 text = lines := by decide
  obtain ⟨isFill, -, -, again⟩ := wrapped_is_greedy_fill wraps text
  rw [isWrapped] at isFill again
  have blank : ∀ letter ∈ ['\r', '\n'], isBlank letter = true :=
    List.forall_mem_cons.mpr ⟨rfl, List.forall_mem_singleton.mpr rfl⟩
  exact ⟨wraps, isWrapped, isFill, again ['\r', '\n'] (by simp) blank 6 (by decide), by decide⟩

end Typescribe.Text
