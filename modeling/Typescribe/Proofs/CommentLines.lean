import Typescribe.Proofs.Unbroken
/-!
# Lines of doc comments

Between the first and the last line of a doc comment, a line is a star at the margin, alone or in
front of a text that keeps to the width of comments or is one word. Wrapping sees to that, with
all line feeds in a long text. A text that is short enough is set down as it is, though: what
stands behind a line feed in it begins a line of the output without a margin and a star.
-/
set_option autoImplicit false

namespace Typescribe

namespace Docs

/-- A star, and behind it nothing or a text that keeps to the width or holds no blank. -/
inductive IsLaidOut (margin : String) (width : Nat) : String → Prop
  | empty : IsLaidOut margin width (margin ++ "*")
  | text {content : String}
      (fits : content.length ≤ width ∨ ∀ letter ∈ content.toList, Text.isBlank letter = false) :
      IsLaidOut margin width (margin ++ "* " ++ content)

/-- A piece between line feeds in a text that is not wrapped. -/
def RunsOn (width : Nat) (contents : List String) (row : String) : Prop :=
  ∃ content ∈ contents, (guarded content.toList).length ≤ width ∧
    row.toList ∈ ((guarded content.toList).splitOn '\n').tail

/-- The lines between the first and the last one of a doc comment. -/
structure CommentRows (margin : String) (width : Nat) (contents rows : List String) : Prop where
  unbroken : ∀ row ∈ rows, Unbroken row
  shapes : ∀ row ∈ rows, IsLaidOut margin width row ∨ RunsOn width contents row

theorem IsLaidOut.exists_star {margin : String} {width : Nat} {row : String}
    (laidOut : IsLaidOut margin width row) :
    ∃ rest, row.toList = margin.toList ++ '*' :: rest := by
  cases laidOut with
  | empty => exact ⟨[], by simp⟩
  | text => exact ⟨_, by simp; rfl⟩

theorem CommentRows.laidOut {margin : String} {width : Nat} {contents rows : List String}
    (shape : CommentRows margin width contents rows)
    (long : ∀ content ∈ contents, '\n' ∈ content.toList →
      width < (guarded content.toList).length) :
    ∀ row ∈ rows, IsLaidOut margin width row := by
  intro row member
  refine (shape.shapes row member).resolve_right ?_
  rintro ⟨content, isContent, short, isPiece⟩
  have noBreak : '\n' ∉ guarded content.toList := by
    intro inText
    have inContent := (mem_of_mem_guarded inText).resolve_right (by decide)
    have tooLong := long content isContent inContent
    omega
  rw [List.splitOn_eq_singleton noBreak] at isPiece
  cases isPiece

/-! ## Rows of one text -/

theorem eq_space_of_mem_spaced {text : List Char} {row : List (List Char)}
    (inText : ∀ word ∈ row, word ∈ Text.words text) {letter : Char}
    (member : letter ∈ Text.spaced row) (blank : Text.isBlank letter = true) : letter = ' ' := by
  obtain ⟨word, isWord, inWord⟩ | isSpace := Text.mem_of_mem_spaced member
  · rw [Text.not_blank_of_mem_words (inText word isWord) inWord] at blank
    cases blank
  · exact isSpace

theorem commentRows_of_wrapped {margin : String} (marginUnbroken : Unbroken margin) {width : Nat}
    (wraps : width ≠ 0) {content : String} {part : List Char}
    (isPart : part ∈ Text.wrapped width (guarded content.toList)) :
    CommentRows margin width [content] [margin ++ "* " ++ String.ofList part] := by
  obtain ⟨row, inText, fits, rfl⟩ := Text.row_of_wrapped wraps isPart
  constructor
  · refine List.forall_mem_singleton.mpr
      ((marginUnbroken.append (by decide)).append fun letter member isBreak => ?_)
    rw [String.toList_ofList, List.mem_singleton.mp isBreak] at member
    exact absurd (eq_space_of_mem_spaced inText member (by decide)) (by decide)
  · refine List.forall_mem_singleton.mpr (.inl (.text (fits.imp (fun short => ?_) ?_)))
    · simpa using short
    · intro single letter member
      rw [String.toList_ofList] at member
      match row, single with
      | [], _ => simp at member
      | [word], _ =>
        rw [Text.spaced_singleton] at member
        exact Text.not_blank_of_mem_words (inText word (by simp)) member

theorem exists_pieces (front : String) (text : List Char) :
    ∃ first others, text.splitOn '\n' = first :: others ∧
      front ++ String.ofList text ++ "\n" =
        linesText "" ((front ++ String.ofList first) :: others.map String.ofList) := by
  induction text generalizing front with
  | nil => exact ⟨[], [], rfl, by simp [linesText, lineText]⟩
  | cons letter rest ih =>
    rw [List.splitOn_cons_eq_if_modifyHead, String.ofList_cons]
    by_cases isBreak : letter = '\n'
    · obtain ⟨first, others, pieces, text⟩ := ih ""
      refine ⟨[], first :: others, by simp [isBreak, pieces], ?_⟩
      have lineFeed : String.singleton '\n' = "\n" := rfl
      rw [String.empty_append, String.empty_append] at text
      rw [isBreak, lineFeed, String.append_assoc, String.append_assoc, text]
      simp [linesText, lineText, String.append_assoc]
    · obtain ⟨first, others, pieces, text⟩ := ih (front ++ String.singleton letter)
      refine ⟨letter :: first, others, by simp [isBreak, pieces], ?_⟩
      rw [String.ofList_cons, ← String.append_assoc, ← String.append_assoc, text]

theorem commentRows_of_short {margin : String} (marginUnbroken : Unbroken margin) {width : Nat}
    {content : String} (short : (guarded content.toList).length ≤ width) :
    ∃ rows, lineText margin ("* " ++ String.ofList (guarded content.toList)) = linesText "" rows ∧
      CommentRows margin width [content] rows := by
  obtain ⟨first, others, pieces, text⟩ := exists_pieces (margin ++ "* ") (guarded content.toList)
  have unbrokenPiece (piece : List Char) (isPiece : piece ∈ first :: others) :
      Unbroken (String.ofList piece) := by
    intro letter member isBreak
    rw [String.toList_ofList] at member
    rw [← pieces] at isPiece
    have noBreak := Text.not_cut_of_mem_splitOnP isPiece member
    simp [List.mem_singleton.mp isBreak] at noBreak
  have firstFits : first.length ≤ width := by
    obtain ⟨begin, tail, samePieces, begins, -⟩ :=
      Text.head_prefix_tail_infix_splitOnP (· == '\n') (guarded content.toList)
    rw [← List.splitOn_eq_splitOnP, pieces] at samePieces
    obtain ⟨rfl, -⟩ := List.cons_eq_cons.mp samePieces
    exact Nat.le_trans begins.length_le short
  refine ⟨_, by rw [← text, lineText, ← String.append_assoc], ?_, ?_⟩
  · rw [List.forall_mem_cons, List.forall_mem_map]
    refine ⟨(marginUnbroken.append (by decide)).append (unbrokenPiece first (by simp)), ?_⟩
    exact fun piece member => unbrokenPiece piece (List.mem_cons_of_mem _ member)
  · rw [List.forall_mem_cons, List.forall_mem_map]
    refine ⟨.inl (.text (.inl (by simpa using firstFits))), fun piece member => ?_⟩
    refine .inr ⟨content, by simp, short, ?_⟩
    rw [pieces, String.toList_ofList]
    exact member

theorem exists_rows_of_shown {margin : String} (marginUnbroken : Unbroken margin) {width : Nat}
    (wraps : width ≠ 0) {content line : String} (isShown : line ∈ shown width content) :
    ∃ rows, lineText margin line = linesText "" rows ∧ CommentRows margin width [content] rows := by
  have oneRow (row : String) : lineText margin row = linesText "" [margin ++ row] := by
    simp [linesText, lineText]
  rw [shown] at isShown
  split at isShown
  · rw [List.mem_singleton.mp isShown]
    refine ⟨[margin ++ "*"], oneRow "*", ?_, ?_⟩
    · exact List.forall_mem_singleton.mpr (marginUnbroken.append (by decide))
    · exact List.forall_mem_singleton.mpr (.inl .empty)
  · obtain ⟨part, isPart, rfl⟩ := List.mem_map.mp isShown
    rw [laidOut] at isPart
    split at isPart
    · refine ⟨[margin ++ "* " ++ String.ofList part], ?_,
        commentRows_of_wrapped marginUnbroken wraps isPart⟩
      rw [oneRow, String.append_assoc]
    · rw [List.mem_singleton.mp isPart]
      exact commentRows_of_short marginUnbroken (by omega)

/-! ## Comments -/

theorem exists_rows_of_lines {margin : String} {holds : String → Prop} {contents : List String}
    (each : ∀ content ∈ contents, ∃ rows, lineText margin content = linesText "" rows ∧
      ∀ row ∈ rows, holds row) :
    ∃ rows, linesText margin contents = linesText "" rows ∧ ∀ row ∈ rows, holds row := by
  induction contents with
  | nil => exact ⟨[], rfl, by simp⟩
  | cons content contents ih =>
    obtain ⟨first, firstText, firstHolds⟩ := each content (by simp)
    obtain ⟨others, othersText, othersHold⟩ := ih fun other member => each other (by simp [member])
    refine ⟨first ++ others, ?_, List.forall_mem_append.mpr ⟨firstHolds, othersHold⟩⟩
    rw [linesText, firstText, othersText, linesText_append]

theorem exists_rows_of_docText {margin : String} (isMargin : IsMargin margin) {width : UInt64}
    (wraps : width ≠ 0) {contents : List String} (notEmpty : contents ≠ []) :
    ∃ rows, docText margin width contents =
        linesText "" ((margin ++ "/**") :: rows ++ [margin ++ "*/"]) ∧
      CommentRows margin width.toNat contents rows := by
  have marginUnbroken : Unbroken margin := Avoids.margin isMargin (by decide) (by decide)
  have isWidth : width.toNat ≠ 0 := fun zero => wraps (UInt64.toNat_inj.mp zero)
  have each : ∀ line ∈ contents.flatMap (shown width.toNat), ∃ rows,
      lineText margin line = linesText "" rows ∧ ∀ row ∈ rows, Unbroken row ∧
        (IsLaidOut margin width.toNat row ∨ RunsOn width.toNat contents row) := by
    intro line member
    obtain ⟨content, isContent, isShown⟩ := List.mem_flatMap.mp member
    obtain ⟨rows, text, shape⟩ := exists_rows_of_shown marginUnbroken isWidth isShown
    refine ⟨rows, text, fun row isRow => ⟨shape.unbroken row isRow, ?_⟩⟩
    refine (shape.shapes row isRow).imp_right ?_
    rintro ⟨_, same, short, isPiece⟩
    rw [List.mem_singleton.mp same] at short isPiece
    exact ⟨content, isContent, short, isPiece⟩
  obtain ⟨rows, text, holds⟩ := exists_rows_of_lines each
  refine ⟨rows, ?_, fun row isRow => (holds row isRow).1, fun row isRow => (holds row isRow).2⟩
  rw [docText_of_ne_nil notEmpty, text]
  simp [linesText, linesText_append, lineText, String.append_assoc]

end Docs

/-! ## Steps -/

def Step.commentLines? : Step → Option (List String)
  | .docLines lines => some lines
  | .docParagraphs paragraphs => some (Docs.paragraphLines paragraphs)
  | .docComments comments => some (Docs.paragraphLines (commentBodies comments))
  | _ => none

theorem Step.text_of_commentLines {step : Step} {contents : List String}
    (writes : step.commentLines? = some contents) (writer : Writer) :
    (step.perform writer).writer.text =
      writer.text ++ docText writer.margin writer.commentWidth contents := by
  have asWritten (performed : (step.perform writer).writer = writer.docLines contents) :
      (step.perform writer).writer.text =
        writer.text ++ docText writer.margin writer.commentWidth contents := by
    rw [performed, Writer.docLines_eq_write, Writer.text_write]
  cases step with
  | docLines lines | docParagraphs paragraphs | docComments comments =>
    cases writes
    exact asWritten rfl
  | _ => cases writes

/-- A wrapped comment holds stars with texts that keep to the width or are one word, and texts that
run on behind a line feed of their own; none of these if every text with a line feed is longer than
the width. -/
theorem comment_lines_keep_to_width {step : Step} {contents : List String}
    (writes : step.commentLines? = some contents) {writer : Writer}
    (wraps : writer.commentWidth ≠ 0) :
    (contents = [] ∧ (step.perform writer).writer.text = writer.text) ∨
    ∃ rows, (step.perform writer).writer.text = writer.text ++
        linesText "" ((writer.margin ++ "/**") :: rows ++ [writer.margin ++ "*/"]) ∧
      Docs.CommentRows writer.margin writer.commentWidth.toNat contents rows ∧
      ((∀ content ∈ contents, '\n' ∈ content.toList →
          writer.commentWidth.toNat < (Docs.guarded content.toList).length) →
        ∀ row ∈ rows, Docs.IsLaidOut writer.margin writer.commentWidth.toNat row) := by
  rw [Step.text_of_commentLines writes]
  by_cases noLines : contents = []
  · subst noLines
    exact .inl ⟨rfl, by rw [docText_nil, String.append_empty]⟩
  · have isMargin : IsMargin writer.margin := isMargin_copies _ _
    obtain ⟨rows, text, shape⟩ := Docs.exists_rows_of_docText isMargin wraps noLines
    exact .inr ⟨rows, by rw [text], shape, shape.laidOut⟩

theorem wrapped_comment_keeps_to_width :
    let step := Step.docComments [⟨"to\nbe */ wrapped-up now"⟩, ⟨""⟩, ⟨"short"⟩]
    let writer : Writer := { sheet := { level := 1 }, commentWidth := 8 }
    writer.commentWidth ≠ 0 ∧
      (step.perform writer).writer.text =
        "  /**\n  * to be\n  * *\\/\n  * wrapped-up\n  * now\n  *\n  * short\n  */\n" ∧
      ∃ rows, (step.perform writer).writer.text = writer.text ++
          linesText "" ((writer.margin ++ "/**") :: rows ++ [writer.margin ++ "*/"]) ∧
        ∀ row ∈ rows, Docs.IsLaidOut writer.margin writer.commentWidth.toNat row := by
  intro step writer
  have wraps : writer.commentWidth ≠ 0 := by decide
  have writes : step.commentLines? = some ["to\nbe */ wrapped-up now", "", "short"] := rfl
  obtain ⟨noLines, -⟩ | ⟨rows, text, -, laidOut⟩ := comment_lines_keep_to_width writes wraps
  · cases noLines
  · exact ⟨wraps, by decide, rows, text, laidOut (by decide)⟩

/-- The line behind a copied line feed has no margin and no star. -/
theorem short_text_runs_on :
    let writer : Writer := { sheet := { level := 1 } }
    (Step.perform (.docLines ["a\nb"]) writer).writer.text = "  /**\n  * a\nb\n  */\n" ∧
      ¬ Docs.IsLaidOut writer.margin writer.commentWidth.toNat "b" := by
  intro writer
  have margin : writer.margin = "  " := by decide
  refine ⟨by decide, fun laidOut => ?_⟩
  obtain ⟨rest, starred⟩ := laidOut.exists_star
  simp [margin] at starred

end Typescribe
