import Typescribe.Text.Wrap
/-!
# What line filling keeps

Line filling deals the words of a text into rows, in order and none left out. So the characters
that are not blanks stay in order, and a line holds nothing but words of the text with blanks
between them. A row is only filled as long as it keeps to the width, so a line that does not is
one word.
-/
set_option autoImplicit false

namespace Typescribe.Text

/-! ## Words -/

theorem infix_of_mem_words {text word : List Char} (member : word ∈ words text) :
    word <:+: text := by
  obtain ⟨first, others, pieces, begins, inside⟩ :=
    head_prefix_tail_infix_splitOnP isBlank text
  have isPiece : word ∈ text.splitOnP isBlank := (List.mem_filter.mp member).1
  rw [pieces] at isPiece
  rcases List.mem_cons.mp isPiece with rfl | isOther
  · exact begins.isInfix
  · exact inside word isOther

theorem not_blank_of_mem_words {text word : List Char} {letter : Char}
    (isWord : word ∈ words text) (member : letter ∈ word) : isBlank letter = false :=
  not_cut_of_mem_splitOnP (List.mem_filter.mp isWord).1 member

theorem flatten_words (text : List Char) :
    (words text).flatten = text.filter fun letter => !isBlank letter := by
  rw [← flatten_splitOnP, words]
  induction text.splitOnP isBlank with
  | nil => rfl
  | cons piece pieces ih => cases piece <;> simp_all

/-! ## Rows -/

theorem rows_ne_nil (width used : Nat) (words : List (List Char)) :
    rows width used words ≠ [] := by
  cases words with
  | nil => exact List.cons_ne_nil [] []
  | cons word rest =>
    rw [rows]
    split
    · rw [ne_eq, List.modifyHead_eq_nil_iff]
      exact rows_ne_nil width _ rest
    · exact List.cons_ne_nil [] _

theorem flatten_rows (width used : Nat) (words : List (List Char)) :
    (rows width used words).flatten = words := by
  induction words generalizing used with
  | nil => rfl
  | cons word rest ih =>
    rw [rows]
    split
    · rw [flatten_modifyHead_cons word (rows_ne_nil _ _ _), ih]
    · rw [List.flatten_cons, flatten_modifyHead_cons word (rows_ne_nil _ _ _), ih, List.nil_append]

/-! ## Widths -/

/-- A row keeps to the width, unless it is a single word. -/
def Fits (width : Nat) (row : List (List Char)) : Prop :=
  (spaced row).length ≤ width ∨ row.length ≤ 1

instance (width : Nat) (row : List (List Char)) : Decidable (Fits width row) :=
  inferInstanceAs (Decidable ((spaced row).length ≤ width ∨ row.length ≤ 1))

theorem length_spaced_append {row : List (List Char)} (filled : row ≠ []) (word : List Char) :
    (spaced (row ++ [word])).length = (spaced row).length + 1 + word.length := by
  match row with
  | [single] => simp [spaced_cons_cons]; omega
  | first :: next :: rest =>
    have shorter := length_spaced_append (List.cons_ne_nil next rest) word
    rw [List.cons_append] at shorter
    simp only [List.cons_append, spaced_cons_cons, List.length_append, List.length_cons, shorter]
    omega

/-- Words are dealt behind those that the current line holds. -/
theorem rows_fit {width : Nat} (words : List (List Char)) {line : List (List Char)}
    (filled : line ≠ []) (fits : Fits width line) :
    ∃ first others, rows width (spaced line).length words = first :: others ∧
      Fits width (line ++ first) ∧ ∀ row ∈ others, Fits width row := by
  induction words generalizing line with
  | nil => exact ⟨[], [], rfl, by rwa [List.append_nil], by simp⟩
  | cons word rest ih =>
    rw [rows]
    split
    · next room =>
      have longer := length_spaced_append filled word
      have longerFits : Fits width (line ++ [word]) := .inl (by rwa [longer])
      obtain ⟨first, others, dealt, lineFits, othersFit⟩ :=
        ih (List.append_ne_nil_of_right_ne_nil line (List.cons_ne_nil word [])) longerFits
      rw [longer] at dealt
      refine ⟨word :: first, others, by rw [dealt]; rfl, ?_, othersFit⟩
      rwa [← List.append_cons] at lineFits
    · have alone : Fits width [word] := .inr (Nat.le_refl 1)
      obtain ⟨first, others, dealt, lineFits, othersFit⟩ := ih (List.cons_ne_nil word []) alone
      rw [spaced_singleton] at dealt
      refine ⟨[], (word :: first) :: others, by rw [dealt]; rfl, by rwa [List.append_nil], ?_⟩
      exact List.forall_mem_cons.mpr ⟨lineFits, othersFit⟩

theorem row_of_wrapped {width : Nat} (wraps : width ≠ 0) {text line : List Char}
    (member : line ∈ wrapped width text) :
    ∃ row : List (List Char), (∀ word ∈ row, word ∈ words text) ∧ Fits width row ∧
      line = spaced row := by
  rw [wrapped, if_neg wraps] at member
  split at member
  · exact ⟨[], by simp, .inr (by simp), List.mem_singleton.mp member⟩
  · next word rest isWords =>
    obtain ⟨row, isRow, rfl⟩ := List.mem_map.mp member
    refine ⟨row, fun inRow isWord => ?_, ?_, rfl⟩
    · have dealt :
          ((rows width word.length rest).modifyHead (word :: ·)).flatten = words text := by
        rw [flatten_modifyHead_cons word (rows_ne_nil _ _ _), flatten_rows, isWords]
      rw [← dealt]
      exact List.mem_flatten.mpr ⟨row, isRow, isWord⟩
    · have alone : Fits width [word] := .inr (Nat.le_refl 1)
      obtain ⟨first, others, dealt, firstFits, othersFit⟩ :=
        rows_fit rest (List.cons_ne_nil word []) alone
      rw [spaced_singleton] at dealt
      rw [dealt] at isRow
      rcases List.mem_cons.mp isRow with rfl | isOther
      · exact firstFits
      · exact othersFit row isOther

theorem line_of_wrapped {width : Nat} {text line : List Char}
    (member : line ∈ wrapped width text) :
    line = text ∨
      ∃ row : List (List Char), (∀ word ∈ row, word ∈ words text) ∧ line = spaced row := by
  by_cases wraps : width = 0
  · rw [wrapped, if_pos wraps] at member
    exact .inl (List.mem_singleton.mp member)
  · obtain ⟨row, inText, -, isLine⟩ := row_of_wrapped wraps member
    exact .inr ⟨row, inText, isLine⟩

/-! ## Characters -/

theorem filter_spaced {keep : Char → Bool} (drops : keep ' ' = false) (row : List (List Char)) :
    (spaced row).filter keep = row.flatten.filter keep := by
  match row with
  | [] => rfl
  | [word] => simp
  | word :: next :: rest =>
    have shorter := filter_spaced drops (next :: rest)
    rw [spaced_cons_cons, List.filter_append, List.filter_cons_of_neg (by simp [drops]), shorter,
      ← List.filter_append, ← List.flatten_cons]

theorem filter_flatten_wrapped {keep : Char → Bool}
    (drops : ∀ letter, isBlank letter = true → keep letter = false) (width : Nat)
    (text : List Char) : (wrapped width text).flatten.filter keep = text.filter keep := by
  have inWords : text.filter keep = (words text).flatten.filter keep := by
    rw [flatten_words, List.filter_filter]
    refine List.filter_congr fun letter _ => ?_
    cases blank : isBlank letter with
    | true => simp [drops letter blank]
    | false => simp
  have lines (dealt : List (List (List Char))) :
      (dealt.map spaced).flatten.filter keep = dealt.flatten.flatten.filter keep := by
    induction dealt with
    | nil => rfl
    | cons row rest ih =>
      rw [List.map_cons, List.flatten_cons, List.filter_append, ih,
        filter_spaced (drops ' ' (by decide)), List.flatten_cons, List.flatten_append,
        List.filter_append]
  rw [wrapped]
  split
  · simp
  · split
    · next noWords => rw [inWords, noWords]; rfl
    · next word rest isWords =>
      rw [lines, flatten_modifyHead_cons word (rows_ne_nil _ _ _), flatten_rows, inWords, isWords]

end Typescribe.Text
