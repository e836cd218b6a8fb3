/-!
# Pieces of texts

A text is cut at all characters of a class, and empty pieces are kept. The pieces hold the other
characters, in order and none left out. `replaced` exchanges one character for another.
-/
set_option autoImplicit false

namespace Typescribe.Text

def replaced (old new : Char) (text : List Char) : List Char :=
  text.map fun letter => if letter = old then new else letter

section Pieces

variable {α : Type} {cut : α → Bool} {items piece : List α} {item : α}

theorem flatten_modifyHead_cons (item : α) {pieces : List (List α)} (notEmpty : pieces ≠ []) :
    (pieces.modifyHead (item :: ·)).flatten = item :: pieces.flatten := by
  obtain ⟨first, others, rfl⟩ := List.exists_cons_of_ne_nil notEmpty
  rfl

theorem flatten_splitOnP (cut : α → Bool) (items : List α) :
    (items.splitOnP cut).flatten = items.filter fun item => !cut item := by
  induction items with
  | nil => rfl
  | cons item rest ih =>
    rw [List.splitOnP_cons_eq_if_modifyHead]
    cases isCut : cut item with
    | true => simp [isCut, ih]
    | false => simp [isCut, flatten_modifyHead_cons, ih]

theorem mem_of_mem_splitOnP (isPiece : piece ∈ items.splitOnP cut) (member : item ∈ piece) :
    item ∈ items := by
  have inPieces : item ∈ (items.splitOnP cut).flatten :=
    List.mem_flatten.mpr ⟨piece, isPiece, member⟩
  rw [flatten_splitOnP] at inPieces
  exact (List.mem_filter.mp inPieces).1

theorem not_cut_of_mem_splitOnP (isPiece : piece ∈ items.splitOnP cut) (member : item ∈ piece) :
    cut item = false := by
  have inPieces : item ∈ (items.splitOnP cut).flatten :=
    List.mem_flatten.mpr ⟨piece, isPiece, member⟩
  rw [flatten_splitOnP] at inPieces
  simpa using (List.mem_filter.mp inPieces).2

/-- The first piece begins the text, and every other one stands somewhere behind it. -/
theorem head_prefix_tail_infix_splitOnP (cut : α → Bool) (items : List α) :
    ∃ first others, items.splitOnP cut = first :: others ∧ first <+: items ∧
      ∀ piece ∈ others, piece <:+: items := by
  induction items with
  | nil => exact ⟨[], [], rfl, List.prefix_refl _, by simp⟩
  | cons item rest ih =>
    obtain ⟨first, others, pieces, begins, inside⟩ := ih
    have behind (piece : List α) (inRest : piece <:+: rest) : piece <:+: item :: rest :=
      inRest.trans (List.suffix_cons item rest).isInfix
    rw [List.splitOnP_cons_eq_if_modifyHead, pieces]
    cases cut item with
    | true =>
      refine ⟨[], first :: others, rfl, List.nil_prefix, fun piece member => ?_⟩
      rcases List.mem_cons.mp member with rfl | isOther
      · exact behind _ begins.isInfix
      · exact behind _ (inside piece isOther)
    | false =>
      refine ⟨item :: first, others, rfl, ?_, fun piece isOther => ?_⟩
      · exact List.cons_prefix_cons.mpr ⟨rfl, begins⟩
      · exact behind _ (inside piece isOther)

theorem run_stops {inRun : α → Bool} {front rest : List α}
    (all : ∀ item ∈ front, inRun item = true)
    (stops : ∀ item ∈ rest.head?, inRun item = false) :
    (front ++ rest).takeWhile inRun = front ∧ (front ++ rest).dropWhile inRun = rest := by
  rw [List.takeWhile_append_of_pos all, List.dropWhile_append_of_pos all]
  cases rest with
  | nil => simp
  | cons item tail => simp [stops item rfl]

end Pieces

theorem splitOnP_replaced {cut : Char → Bool} (old : Char) {new : Char} (cuts : cut new = true)
    (text : List Char) :
    (replaced old new text).splitOnP cut = (text.splitOn old).flatMap (·.splitOnP cut) := by
  induction text with
  | nil => rfl
  | cons letter rest ih =>
    obtain ⟨piece, pieces, isSplit⟩ := List.exists_cons_of_ne_nil (List.splitOn_ne_nil old rest)
    rw [isSplit, List.flatMap_cons] at ih
    by_cases isOld : letter = old
    · have first : replaced old new (letter :: rest) = new :: replaced old new rest := by
        simp [replaced, isOld]
      rw [first, List.splitOnP_cons_eq_if_modifyHead, if_pos cuts,
        List.splitOn_cons_eq_if_modifyHead, if_pos (beq_iff_eq.mpr isOld), ih, isSplit]
      rfl
    · have first : replaced old new (letter :: rest) = letter :: replaced old new rest := by
        simp [replaced, isOld]
      have piecesOfBoth : (letter :: rest).splitOn old = (letter :: piece) :: pieces := by
        rw [List.splitOn_cons_eq_if_modifyHead, if_neg (by simpa using isOld), isSplit]
        rfl
      obtain ⟨head, tail, headOfBoth⟩ :=
        List.exists_cons_of_ne_nil (List.splitOnP_ne_nil cut piece)
      rw [first, piecesOfBoth, List.flatMap_cons, List.splitOnP_cons_eq_if_modifyHead,
        List.splitOnP_cons_eq_if_modifyHead, ih, headOfBoth]
      split <;> rfl

end Typescribe.Text
