import Typescribe.Proofs.Filling
import Typescribe.Proofs.Lines
/-!
# Where a doc comment ends

A block comment ends at the first `*/` behind its opening. The guard leaves none in a text, and
neither wrapping nor the marks at the margin bring one back, so a doc comment ends at its own
last line.
-/
set_option autoImplicit false

namespace Typescribe

/-- The text behind the first end of a block comment. -/
def afterComment : List Char → Option (List Char)
  | '*' :: '/' :: rest => some rest
  | _ :: rest => afterComment rest
  | [] => none

/-- Read from behind its `/**`, a doc comment ends in its own last line. -/
def IsDocComment (margin comment : String) : Prop :=
  ∃ interior, comment = margin ++ "/**\n" ++ interior ++ margin ++ "*/\n" ∧
    ∀ rest, afterComment (("\n" ++ interior ++ margin ++ "*/\n").toList ++ rest) =
      some ('\n' :: rest)

/-! ## Ends of comments -/

theorem afterComment_tail {letter : Char} {rest : List Char}
    (noEnd : afterComment (letter :: rest) = none) : afterComment rest = none := by
  by_cases ends : ∃ tail, letter = '*' ∧ rest = '/' :: tail
  · obtain ⟨tail, rfl, rfl⟩ := ends
    simp [afterComment] at noEnd
  · rwa [afterComment.eq_2 _ _ fun tail star slash => ends ⟨tail, star, slash⟩] at noEnd

theorem afterComment_of_append_right {front rest : List Char}
    (noEnd : afterComment (front ++ rest) = none) : afterComment rest = none := by
  induction front with
  | nil => exact noEnd
  | cons letter front ih => exact ih (afterComment_tail noEnd)

theorem afterComment_of_append_left {front rest : List Char}
    (noEnd : afterComment (front ++ rest) = none) : afterComment front = none := by
  fun_induction afterComment front with
  | case1 tail => simp [afterComment] at noEnd
  | case2 letter tail notHere ih => exact ih (afterComment_tail noEnd)
  | case3 => rfl

theorem afterComment_of_infix {piece text : List Char} (inside : piece <:+: text)
    (noEnd : afterComment text = none) : afterComment piece = none := by
  obtain ⟨front, rest, rfl⟩ := inside
  exact afterComment_of_append_right (afterComment_of_append_left noEnd)

/-- The search goes on behind a text without an end, unless a slash could complete one. -/
theorem afterComment_append {front rest : List Char} (noEnd : afterComment front = none)
    (noSlash : ∀ tail, rest ≠ '/' :: tail) :
    afterComment (front ++ rest) = afterComment rest := by
  fun_induction afterComment front with
  | case1 tail => simp at noEnd
  | case2 letter tail notHere ih =>
    rw [List.cons_append, afterComment.eq_2, ih noEnd]
    intro behind star slash
    cases tail with
    | nil => exact noSlash behind slash
    | cons next tail =>
      obtain ⟨rfl, -⟩ := List.cons_eq_cons.mp slash
      exact notHere tail star rfl
  | case3 => rfl

/-! ## The guard and the layout -/

theorem slash_of_guarded {text tail : List Char} (slash : Docs.guarded text = '/' :: tail) :
    ∃ rest, text = '/' :: rest := by
  fun_cases Docs.guarded text with
  | case1 rest => simp [Docs.guarded] at slash
  | case2 letter rest notHere =>
    rw [Docs.guarded.eq_2 _ _ notHere] at slash
    obtain ⟨rfl, -⟩ := List.cons_eq_cons.mp slash
    exact ⟨rest, rfl⟩
  | case3 => simp [Docs.guarded] at slash

theorem afterComment_guarded (text : List Char) : afterComment (Docs.guarded text) = none := by
  fun_induction Docs.guarded text with
  | case1 rest ih => simpa [afterComment] using ih
  | case2 letter rest notHere ih =>
    rw [afterComment.eq_2, ih]
    intro tail star slash
    obtain ⟨behind, rfl⟩ := slash_of_guarded slash
    exact notHere behind star rfl
  | case3 => rfl

theorem Docs.guarded_ne_nil {text : List Char} (isText : text ≠ []) : guarded text ≠ [] := by
  fun_cases guarded text with
  | case1 rest => simp
  | case2 letter rest notHere => simp
  | case3 => exact absurd rfl isText

theorem afterComment_spaced {row : List (List Char)}
    (noEnd : ∀ word ∈ row, afterComment word = none) :
    afterComment (Text.spaced row) = none := by
  match row with
  | [] => rfl
  | [word] => simpa using noEnd word (by simp)
  | word :: next :: rest =>
    have shorter : afterComment (Text.spaced (next :: rest)) = none :=
      afterComment_spaced fun other member => noEnd other (List.mem_cons_of_mem _ member)
    rw [Text.spaced_cons_cons, afterComment_append (noEnd word (by simp)) (by simp)]
    simpa [afterComment] using shorter

theorem afterComment_of_laidOut {width : Nat} {text line : List Char}
    (noEnd : afterComment text = none) (member : line ∈ Docs.laidOut width text) :
    afterComment line = none := by
  rw [Docs.laidOut] at member
  split at member
  · rcases Text.line_of_wrapped member with rfl | ⟨row, inText, rfl⟩
    · exact noEnd
    · exact afterComment_spaced fun word isWord =>
        afterComment_of_infix (Text.infix_of_mem_words (inText word isWord)) noEnd
  · rwa [List.mem_singleton.mp member]

def IsInnerLine (content : String) : Prop :=
  afterComment content.toList = none ∧ ∃ tail, content.toList = '*' :: tail

theorem isInnerLine_of_shown {width : Nat} {line content : String}
    (member : content ∈ Docs.shown width line) : IsInnerLine content := by
  have noEnd := afterComment_guarded line.toList
  rw [Docs.shown] at member
  split at member
  · rw [List.mem_singleton.mp member]
    exact ⟨rfl, [], rfl⟩
  · obtain ⟨part, isPart, rfl⟩ := List.mem_map.mp member
    have partNoEnd := afterComment_of_laidOut noEnd isPart
    refine ⟨?_, ' ' :: part, by simp⟩
    simpa [afterComment] using partNoEnd

/-! ## Margins and blocks -/

def IsMargin (margin : String) : Prop := ∀ letter ∈ margin.toList, letter = ' ' ∨ letter = '\t'

theorem isMargin_copies (level : Nat) (indent : Indent) :
    IsMargin (copies level indent.unit) := by
  have unit : ∀ letter ∈ indent.unit.toList, letter = ' ' ∨ letter = '\t' := by
    cases indent with
    | tab => simp [Indent.unit]
    | spaces width =>
      rw [Indent.unit]
      split
      · simp
      · split <;> simp
  induction level with
  | zero => intro letter member; simp [copies] at member
  | succ level ih =>
    intro letter member
    rw [copies, String.toList_append, List.mem_append] at member
    exact member.elim (unit letter) (ih letter)

theorem afterComment_margin {margin : String} (isMargin : IsMargin margin) (rest : List Char) :
    afterComment (margin.toList ++ rest) = afterComment rest := by
  unfold IsMargin at isMargin
  generalize margin.toList = blanks at isMargin
  induction blanks with
  | nil => rfl
  | cons letter blanks ih =>
    have blank := isMargin letter (by simp)
    have others : ∀ other ∈ blanks, other = ' ' ∨ other = '\t' := fun other member =>
      isMargin other (by simp [member])
    rw [List.cons_append, afterComment.eq_2, ih others]
    rintro tail rfl
    simp at blank

theorem afterComment_linesText {margin : String} (isMargin : IsMargin margin)
    {contents : List String} (inner : ∀ content ∈ contents, IsInnerLine content)
    (rest : List Char) :
    afterComment ((linesText margin contents).toList ++ rest) = afterComment rest := by
  induction contents with
  | nil => rfl
  | cons content contents ih =>
    obtain ⟨noEnd, -⟩ := inner content (by simp)
    rw [linesText, lineText, String.toList_append, String.toList_append, String.toList_append,
      List.append_assoc, List.append_assoc, List.append_assoc, afterComment_margin isMargin,
      afterComment_append noEnd (by simp)]
    simpa [afterComment] using ih fun other member => inner other (by simp [member])

theorem linesText_append (margin : String) (first second : List String) :
    linesText margin (first ++ second) = linesText margin first ++ linesText margin second := by
  induction first with
  | nil => simp [linesText]
  | cons content contents ih => simp only [List.cons_append, linesText, ih, String.append_assoc]

theorem docText_nil (margin : String) (width : UInt64) : docText margin width [] = "" := rfl

theorem docText_of_ne_nil {contents : List String} (notEmpty : contents ≠ []) (margin : String)
    (width : UInt64) :
    docText margin width contents = lineText margin "/**"
      ++ linesText margin (contents.flatMap (Docs.shown width.toNat)) ++ lineText margin "*/" := by
  have isBlock : Docs.block width.toNat contents =
      "/**" :: (contents.flatMap (Docs.shown width.toNat) ++ ["*/"]) := by
    rw [Docs.block, if_neg (by simpa using notEmpty)]
  simp [docText, isBlock, linesText, linesText_append, String.append_assoc]

/-- Whatever its lines say, a doc comment is absent or ends at its own last line. -/
theorem isDocComment_docText {margin : String} (isMargin : IsMargin margin) (width : UInt64)
    (contents : List String) :
    docText margin width contents = "" ∨ IsDocComment margin (docText margin width contents) := by
  by_cases noLines : contents = []
  · rw [noLines]
    exact .inl (docText_nil margin width)
  · rw [docText_of_ne_nil noLines]
    refine .inr ⟨linesText margin (contents.flatMap (Docs.shown width.toNat)), ?_, fun rest => ?_⟩
    · simp [lineText, String.append_assoc]
    · have inner : ∀ content ∈ contents.flatMap (Docs.shown width.toNat), IsInnerLine content := by
        intro content member
        obtain ⟨line, -, isShown⟩ := List.mem_flatMap.mp member
        exact isInnerLine_of_shown isShown
      simp only [String.toList_append, List.append_assoc]
      have opened (tail : List Char) : afterComment ('\n' :: tail) = afterComment tail :=
        afterComment.eq_2 _ _ (by simp)
      rw [show "\n".toList = ['\n'] from rfl, List.singleton_append, opened,
        afterComment_linesText isMargin inner, afterComment_margin isMargin]
      rfl

end Typescribe
