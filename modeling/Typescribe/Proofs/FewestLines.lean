import Typescribe.Proofs.GreedyFill
/-!
# The fewest lines

No way of cutting the words of a text into lines that keep to the width needs fewer lines than the
greedy fill. A fuller current line never saves a line, and breaking a line early costs one line at
the most; so the greedy fill is never behind at the end of a group of another cut.
-/
set_option autoImplicit false

namespace Typescribe.Text

/-! ## How many rows -/

theorem length_rows_cons (width used : Nat) (word : List Char) (rest : List (List Char)) :
    (rows width used (word :: rest)).length =
      if used + 1 + word.length ≤ width then (rows width (used + 1 + word.length) rest).length
      else (rows width word.length rest).length + 1 := by
  rw [rows]
  split
  · exact List.length_modifyHead
  · rw [List.length_cons, List.length_modifyHead]

/-- A line that is less full needs no more rows, and no line needs two rows more than another. -/
theorem length_rows_le (width : Nat) (words : List (List Char)) :
    (∀ used more, used ≤ more →
      (rows width used words).length ≤ (rows width more words).length) ∧
    ∀ used other, (rows width used words).length ≤ (rows width other words).length + 1 := by
  -- Each fact carries the other: where a word fits on only one of two lines, the lines behind it
  -- are those of the other fact.
  induction words with
  | nil => exact ⟨fun _ _ _ => Nat.le_refl 1, fun _ _ => Nat.le_succ 1⟩
  | cons word rest ih =>
    obtain ⟨lessFull, oneMore⟩ := ih
    constructor
    · intro used more less
      rw [length_rows_cons, length_rows_cons]
      by_cases room : more + 1 + word.length ≤ width
      · have roomBefore : used + 1 + word.length ≤ width := by omega
        rw [if_pos room, if_pos roomBefore]
        apply lessFull
        omega
      · rw [if_neg room]
        split
        · exact oneMore _ _
        · exact Nat.le_refl _
    · intro used other
      rw [length_rows_cons, length_rows_cons]
      by_cases room : other + 1 + word.length ≤ width
      · rw [if_pos room]
        split
        · exact oneMore _ _
        · apply Nat.succ_le_succ
          apply lessFull
          omega
      · rw [if_neg room]
        split
        · exact Nat.le_trans (oneMore _ _) (Nat.le_succ _)
        · exact Nat.le_succ _

theorem length_rows_le_broken (width used : Nat) (word : List Char) (rest : List (List Char)) :
    (rows width used (word :: rest)).length ≤ (rows width word.length rest).length + 1 := by
  rw [length_rows_cons]
  split
  · exact (length_rows_le width rest).2 _ _
  · exact Nat.le_refl _

theorem length_rows_append {width : Nat} {line : List (List Char)} (notEmpty : line ≠ [])
    (more rest : List (List Char)) (fits : more = [] ∨ (spaced (line ++ more)).length ≤ width) :
    (rows width (spaced line).length (more ++ rest)).length =
      (rows width (spaced (line ++ more)).length rest).length := by
  induction more generalizing line with
  | nil => rw [List.nil_append, List.append_nil]
  | cons word more ih =>
    have short := fits.resolve_left (List.cons_ne_nil word more)
    have begins := length_spaced_le_append (line ++ [word]) more
    have longer := length_spaced_append notEmpty word
    rw [List.append_cons] at short
    have room : (spaced line).length + 1 + word.length ≤ width := by omega
    have longerSome : line ++ [word] ≠ [] :=
      List.append_ne_nil_of_right_ne_nil line (List.cons_ne_nil word [])
    rw [List.cons_append, length_rows_cons, if_pos room, ← longer, ih longerSome (.inr short),
      ← List.append_cons]

/-! ## Cuts -/

theorem IsCut.behind {width : Nat} {given group : List (List Char)}
    {groups : List (List (List Char))} (isCut : IsCut width given (group :: groups)) :
    IsCut width groups.flatten groups where
  deals := rfl
  filled := (List.forall_mem_cons.mp isCut.filled).2
  fits := (List.forall_mem_cons.mp isCut.fits).2

theorem IsCut.widen {width wider : Nat} (isWider : width ≤ wider) {given : List (List Char)}
    {groups : List (List (List Char))} (isCut : IsCut width given groups) :
    IsCut wider given groups where
  deals := isCut.deals
  filled := isCut.filled
  fits group member := (isCut.fits group member).imp_left fun short => Nat.le_trans short isWider

theorem IsCut.length_rows {width : Nat} {given more : List (List Char)} {word : List Char}
    {groups : List (List (List Char))} (isCut : IsCut width given ((word :: more) :: groups))
    (rest : List (List Char)) :
    (rows width word.length (more ++ rest)).length =
      (rows width (spaced (word :: more)).length rest).length := by
  have fits : more = [] ∨ (spaced ([word] ++ more)).length ≤ width := by
    refine (isCut.fits (word :: more) (by simp)).symm.imp_left fun single => ?_
    rw [List.length_cons] at single
    exact List.eq_nil_of_length_eq_zero (by omega)
  have dealt := length_rows_append (List.cons_ne_nil word []) more rest fits
  rwa [spaced_singleton] at dealt

/-- The greedy fill stays ahead of any cut, group by group. -/
theorem IsCut.length_rows_le {width : Nat} {given more : List (List Char)} {word : List Char}
    {groups : List (List (List Char))} (isCut : IsCut width given ((word :: more) :: groups)) :
    (rows width word.length (more ++ groups.flatten)).length ≤ groups.length + 1 := by
  rw [isCut.length_rows]
  induction groups generalizing word more given with
  | nil => exact Nat.le_refl 1
  | cons next groups ih =>
    have behind := isCut.behind
    obtain ⟨head, tail, rfl⟩ := List.exists_cons_of_ne_nil (behind.filled next (by simp))
    have broken : (rows width (spaced (word :: more)).length
        (head :: (tail ++ groups.flatten))).length ≤
          (rows width head.length (tail ++ groups.flatten)).length + 1 :=
      length_rows_le_broken width _ head _
    have left := ih behind
    rw [← behind.length_rows] at left
    rw [List.flatten_cons, List.cons_append, List.length_cons]
    omega

/-- Wrapping is no worse than any cut. -/
theorem IsCut.length_wrapped_le {width : Nat} (wraps : width ≠ 0) {text : List Char}
    (hasWords : words text ≠ []) {groups : List (List (List Char))}
    (isCut : IsCut width (words text) groups) : (wrapped width text).length ≤ groups.length := by
  match groups with
  | [] => exact absurd isCut.deals.symm hasWords
  | [] :: groups => exact absurd rfl (isCut.filled [] (by simp))
  | (word :: more) :: groups =>
    have isWords : words text = word :: (more ++ groups.flatten) := isCut.deals.symm
    rw [wrapped, if_neg wraps, isWords, List.length_map, List.length_modifyHead]
    exact isCut.length_rows_le

theorem isCut_wrapped {width : Nat} (wraps : width ≠ 0) {text : List Char}
    (hasWords : words text ≠ []) : IsCut width (words text) ((wrapped width text).map words) :=
  ((isGreedyFill_wrapped wraps text).isFill hasWords).toIsCut

/-- Wrapping takes the fewest lines that a cut of the words can have, and a greater width never
needs more. -/
theorem wrapped_has_fewest_lines {width : Nat} (wraps : width ≠ 0) {text : List Char}
    (hasWords : words text ≠ []) :
    (∃ groups, IsCut width (words text) groups ∧ groups.length = (wrapped width text).length) ∧
    (∀ groups, IsCut width (words text) groups → (wrapped width text).length ≤ groups.length) ∧
    ∀ wider, width ≤ wider → (wrapped wider text).length ≤ (wrapped width text).length := by
  have isCut := isCut_wrapped wraps hasWords
  refine ⟨⟨_, isCut, List.length_map _⟩, ?_, ?_⟩
  · intro groups isOther
    exact isOther.length_wrapped_le wraps hasWords
  · intro wider isWider
    have wrapsWider : wider ≠ 0 := by omega
    have fewer := (isCut.widen isWider).length_wrapped_le wrapsWider hasWords
    rwa [List.length_map] at fewer

theorem even_cut_has_no_fewer_lines :
    let text := "to be or\nnot-to-be at all".toList
    let even := [["to"], ["be", "or"], ["not-to-be"], ["at", "all"]].map (·.map String.toList)
    6 ≠ 0 ∧ words text ≠ [] ∧ 6 ≤ 8 ∧
      wrapped 6 text = ["to be", "or", "not-to-be", "at all"].map String.toList ∧
      IsCut 6 (words text) even ∧ (wrapped 6 text).length ≤ even.length ∧
      wrapped 8 text = ["to be or", "not-to-be", "at all"].map String.toList ∧
      (wrapped 8 text).length ≤ (wrapped 6 text).length := by
  intro text even
  have wraps : 6 ≠ 0 := by decide
  have hasWords : words text ≠ [] := by decide
  have isWider : 6 ≤ 8 := by decide
  have isCut : IsCut 6 (words text) even := ⟨by decide, by decide, by decide⟩
  obtain ⟨-, fewest, fewer⟩ := wrapped_has_fewest_lines wraps hasWords
  exact ⟨wraps, hasWords, isWider, by decide, isCut, fewest even isCut, by decide, fewer 8 isWider⟩

end Typescribe.Text
