import Typescribe.Proofs.CommentLines
import Typescribe.Proofs.GreedyFill
import Typescribe.Proofs.Lossless
import Typescribe.Proofs.Shifting
/-!
# Paragraphs read back

Between any two paragraphs of a doc comment stands a line that is a star alone. No other line is:
the lines of a paragraph have a blank behind the star, even if no word follows. So a reader that
cuts a comment at the stars alone gets a group of lines for each paragraph, and from the group the
words of the paragraph in order, or the paragraph as it is if it was short enough.
-/
set_option autoImplicit false

namespace Typescribe

namespace Docs

/-! ## Reading -/

/-- The lines of a text, if a line feed ends each of them. -/
def endedLines? (text : String) : Option (List String) :=
  let pieces := text.toList.splitOn '\n'
  if pieces.getLast? = some [] then some (pieces.dropLast.map String.ofList) else none

def interior? (margin text : String) : Option (List String) :=
  (endedLines? text).bind fun lines =>
    if lines.head? = some (margin ++ "/**") ∧ lines.tail.getLast? = some (margin ++ "*/") then
      some lines.tail.dropLast
    else none

def behindStar? (margin line : String) : Option String :=
  ((margin ++ "* ").toList.isPrefixOf? line.toList).map String.ofList

/-- The texts of the lines of a doc comment, in the groups that stars alone separate. -/
def paragraphs? (margin text : String) : Option (List (List String)) :=
  (interior? margin text).bind fun lines =>
    (lines.splitOn (margin ++ "*")).mapM (List.mapM (behindStar? margin))

theorem splitOn_linesText {rows : List String} (unbroken : ∀ row ∈ rows, Unbroken row) :
    (linesText "" rows).toList.splitOn '\n' = rows.map String.toList ++ [[]] := by
  induction rows with
  | nil => rfl
  | cons row rows ih =>
    have letters : (linesText "" (row :: rows)).toList =
        row.toList ++ '\n' :: (linesText "" rows).toList := by
      simp [linesText, lineText]
    have inRow : '\n' ∉ row.toList := fun member => unbroken row (by simp) '\n' member (by simp)
    have others := ih fun other member => unbroken other (List.mem_cons_of_mem _ member)
    rw [letters, List.splitOn_append_cons_self_of_not_mem inRow, others]
    rfl

theorem endedLines_linesText {rows : List String} (unbroken : ∀ row ∈ rows, Unbroken row) :
    endedLines? (linesText "" rows) = some rows := by
  rw [endedLines?, splitOn_linesText unbroken]
  simp [Function.comp_def]

theorem interior_linesText {margin : String} (marginUnbroken : Unbroken margin)
    {rows : List String} (unbroken : ∀ row ∈ rows, Unbroken row) :
    interior? margin (linesText "" ((margin ++ "/**") :: rows ++ [margin ++ "*/"])) =
      some rows := by
  have all : ∀ row ∈ (margin ++ "/**") :: rows ++ [margin ++ "*/"], Unbroken row := by
    simp only [List.forall_mem_append, List.forall_mem_cons]
    exact ⟨⟨marginUnbroken.append (by decide), unbroken⟩, marginUnbroken.append (by decide),
      by simp⟩
  rw [interior?, endedLines_linesText all]
  simp

theorem behindStar_append (margin text : String) :
    behindStar? margin (margin ++ ("* " ++ text)) = some text := by
  have isFront : (margin ++ "* ").toList.isPrefixOf? (margin ++ ("* " ++ text)).toList =
      some text.toList :=
    List.isPrefixOf?_eq_some_iff_append_eq.mpr (by simp)
  rw [behindStar?, isFront, Option.map_some, String.ofList_toList]

theorem append_ne_star (margin text : String) : margin ++ "*" ≠ margin ++ ("* " ++ text) := by
  intro same
  have behind := congrArg String.toList ((String.append_right_inj margin).mp same)
  simp at behind

/-! ## Groups of lines -/

theorem flatMap_intersperse {α β : Type} (shows : α → List β) (separator : α) (items : List α) :
    (items.intersperse separator).flatMap shows =
      List.intercalate (shows separator) (items.map shows) := by
  match items with
  | [] => rfl
  | [item] => simp
  | item :: next :: items =>
    have others := flatMap_intersperse shows separator (next :: items)
    rw [List.intersperse_cons_cons, List.flatMap_cons, List.flatMap_cons, others]
    simp only [List.map_cons, List.intercalate_cons_cons, List.append_assoc]

def group (width : Nat) (paragraph : String) : List String :=
  (laidOut width (guarded paragraph.toList)).map String.ofList

theorem shown_of_ne_empty (width : Nat) {paragraph : String} (isText : paragraph ≠ "") :
    shown width paragraph = (group width paragraph).map fun text => "* " ++ text := by
  have notEmpty : guarded paragraph.toList ≠ [] :=
    guarded_ne_nil fun isEmpty => isText (String.toList_eq_nil_iff.mp isEmpty)
  rw [shown, group, List.map_map]
  split
  · next isEmpty => exact absurd isEmpty notEmpty
  · rfl

/-- A group has the words of its paragraph or, if no line is wrapped, is the paragraph itself, with
the ends of comments broken up. -/
structure ShowsParagraph (width : Nat) (paragraph : String) (group : List String) : Prop where
  notEmpty : group ≠ []
  words : (group.flatMap fun line => Text.words line.toList) =
    Text.words (guarded paragraph.toList)
  verbatim : width = 0 ∨ (guarded paragraph.toList).length ≤ width →
    group = [String.ofList (guarded paragraph.toList)]

theorem showsParagraph_group (width : Nat) (paragraph : String) :
    ShowsParagraph width paragraph (group width paragraph) := by
  have lines (parts : List (List Char)) :
      (parts.map String.ofList).flatMap (fun line => Text.words line.toList) =
        parts.flatMap Text.words := by
    simp [List.flatMap_map]
  rw [group]
  by_cases wraps : width ≠ 0 ∧ width < (guarded paragraph.toList).length
  · rw [laidOut, if_pos wraps]
    have isFill := Text.isGreedyFill_wrapped wraps.1 (guarded paragraph.toList)
    refine ⟨fun isEmpty => ?_, ?_, fun short => by omega⟩
    · have noLine : Text.wrapped width (guarded paragraph.toList) = [] := by simpa using isEmpty
      rw [noLine] at isFill
      have noWord : Text.words (guarded paragraph.toList) = [] := isFill.keepsWords.symm
      cases isFill.emptyLine noWord
    · rw [lines, isFill.keepsWords]
  · rw [laidOut, if_neg wraps]
    exact ⟨by simp, by simp, fun _ => rfl⟩

/-! ## Comments -/

theorem paragraphLines_eq_nil_iff {paragraphs : List String} :
    paragraphLines paragraphs = [] ↔ ∀ paragraph ∈ paragraphs, paragraph = "" := by
  have interspersed (items : List String) : items.intersperse "" = [] ↔ items = [] := by
    match items with
    | [] => simp
    | [item] => simp
    | item :: next :: others => simp
  rw [paragraphLines, interspersed, List.filter_eq_nil_iff]
  simp

theorem docText_eq_empty_iff {margin : String} {width : UInt64} {contents : List String} :
    docText margin width contents = "" ↔ contents = [] := by
  constructor
  · intro noText
    by_contra notEmpty
    rw [docText_of_ne_nil notEmpty, String.append_assoc, String.append_eq_empty_iff] at noText
    have firstLine := congrArg String.toList noText.1
    simp [lineText] at firstLine
  · rintro rfl
    exact docText_nil margin width

/-- The lines of a comment between its first and its last line. -/
def innerRows (margin : String) (width : Nat) (contents : List String) : List String :=
  (contents.flatMap (shown width)).map fun content => margin ++ content

theorem docText_eq_innerRows (margin : String) (width : UInt64) {contents : List String}
    (notEmpty : contents ≠ []) :
    docText margin width contents =
      linesText ""
        ((margin ++ "/**") :: innerRows margin width.toNat contents ++ [margin ++ "*/"]) := by
  have withMargin (contents : List String) :
      linesText margin contents = linesText "" (contents.map fun content => margin ++ content) := by
    have lines := linesText_append_margin "" margin contents
    rwa [String.empty_append] at lines
  rw [docText_of_ne_nil notEmpty, withMargin, ← innerRows]
  simp [linesText, linesText_append, lineText, String.append_assoc]

theorem innerRows_paragraphLines (margin : String) (width : Nat) (paragraphs : List String) :
    innerRows margin width (paragraphLines paragraphs) =
      List.intercalate [margin ++ "*"] ((paragraphs.filter (!·.isEmpty)).map fun paragraph =>
        (group width paragraph).map fun text => margin ++ ("* " ++ text)) := by
  have separator : (shown width "").map (fun content => margin ++ content) = [margin ++ "*"] := rfl
  rw [innerRows, List.map_flatMap, paragraphLines, flatMap_intersperse, separator]
  congr 1
  refine List.map_congr_left fun paragraph kept => ?_
  have isText : paragraph ≠ "" := by simpa using (List.mem_filter.mp kept).2
  rw [shown_of_ne_empty width isText, List.map_map]
  rfl

theorem paragraphs_docText {margin : String} (isMargin : IsMargin margin) (width : UInt64)
    {paragraphs : List String} (unbroken : ∀ paragraph ∈ paragraphs, Unbroken paragraph)
    (hasText : ∃ paragraph ∈ paragraphs, paragraph ≠ "") :
    paragraphs? margin (docText margin width (paragraphLines paragraphs)) =
      some ((paragraphs.filter (!·.isEmpty)).map (group width.toNat)) := by
  have someLines : paragraphLines paragraphs ≠ [] := by
    rw [Ne, paragraphLines_eq_nil_iff]
    push Not
    exact hasText
  have someKept : paragraphs.filter (!·.isEmpty) ≠ [] := by
    obtain ⟨paragraph, member, isText⟩ := hasText
    exact List.ne_nil_of_mem (List.mem_filter.mpr ⟨member, by simpa using isText⟩)
  have marginUnbroken : Unbroken margin := Avoids.margin isMargin (by decide) (by decide)
  have linesUnbroken : ∀ line ∈ paragraphLines paragraphs, Unbroken line :=
    Unbroken.rules.paragraphLines unbroken
  have rowsUnbroken : ∀ row ∈ innerRows margin width.toNat (paragraphLines paragraphs),
      Unbroken row := by
    rw [innerRows, List.forall_mem_map]
    intro content member
    obtain ⟨line, isLine, isShown⟩ := List.mem_flatMap.mp member
    exact marginUnbroken.append (avoids_of_shown (by decide) (linesUnbroken line isLine) isShown)
  rw [paragraphs?, docText_eq_innerRows margin width someLines,
    interior_linesText marginUnbroken rowsUnbroken, Option.bind_some, innerRows_paragraphLines,
    List.splitOn_intercalate, mapM_map_eq_some]
  · intro paragraph _
    rw [mapM_map_eq_some fun text _ => behindStar_append margin text, List.map_id']
  · simp only [List.forall_mem_map]
    rintro paragraph - isStar
    obtain ⟨text, -, same⟩ := List.mem_map.mp isStar
    exact append_ne_star margin text same.symm
  · simpa using someKept

end Docs

/-- There is no text exactly if all paragraphs are empty. If not, cutting a comment at the stars
alone gives one group of lines for each paragraph that is not empty, with its words in order. -/
theorem comment_paragraphs_read_back {paragraphs : List String}
    (unbroken : ∀ paragraph ∈ paragraphs, Unbroken paragraph) (writer : Writer) :
    ∃ added, (Step.perform (.docParagraphs paragraphs) writer).writer.text = writer.text ++ added ∧
      (added = "" ↔ ∀ paragraph ∈ paragraphs, paragraph = "") ∧
      ((∃ paragraph ∈ paragraphs, paragraph ≠ "") →
        ∃ groups, Docs.paragraphs? writer.margin added = some groups ∧
          List.Forall₂ (Docs.ShowsParagraph writer.commentWidth.toNat)
            (paragraphs.filter (!·.isEmpty)) groups) := by
  refine ⟨docText writer.margin writer.commentWidth (Docs.paragraphLines paragraphs),
    Step.text_of_commentLines rfl writer,
    Docs.docText_eq_empty_iff.trans Docs.paragraphLines_eq_nil_iff, fun hasText => ?_⟩
  have isMargin : IsMargin writer.margin := isMargin_copies _ _
  refine ⟨_, Docs.paragraphs_docText isMargin writer.commentWidth unbroken hasText, ?_⟩
  rw [List.forall₂_map_right_iff, List.forall₂_same]
  exact fun paragraph _ => Docs.showsParagraph_group writer.commentWidth.toNat paragraph

/-- An oversized word is wrapped, and a paragraph looks like a star alone. -/
theorem blank_paragraph_reads_back :
    let paragraphs := ["", "to be */ wrapped-up  now", "", "   ", "*", ""]
    let writer : Writer := { sheet := { level := 1 }, commentWidth := 8 }
    let added := "  /**\n  * to be\n  * *\\/\n  * wrapped-up\n  * now\n"
      ++ "  *\n  *    \n  *\n  * *\n  */\n"
    (∀ paragraph ∈ paragraphs, Unbroken paragraph) ∧
      (Step.perform (.docParagraphs paragraphs) writer).writer.text = added ∧
      (∃ paragraph ∈ paragraphs, paragraph ≠ "") ∧
      Docs.paragraphs? writer.margin added =
        some [["to be", "*\\/", "wrapped-up", "now"], ["   "], ["*"]] ∧
      ∃ groups, Docs.paragraphs? writer.margin added = some groups ∧
        List.Forall₂ (Docs.ShowsParagraph 8) (paragraphs.filter (!·.isEmpty)) groups := by
  intro paragraphs writer added
  have unbroken : ∀ paragraph ∈ paragraphs, Unbroken paragraph := by decide
  have text : (Step.perform (.docParagraphs paragraphs) writer).writer.text = added := by decide
  have hasText : ∃ paragraph ∈ paragraphs, paragraph ≠ "" := by decide
  obtain ⟨_, sameText, -, readsBack⟩ := comment_paragraphs_read_back unbroken writer
  have noText : writer.text = "" := rfl
  rw [text, noText, String.empty_append] at sameText
  subst sameText
  exact ⟨unbroken, text, hasText, by decide, readsBack hasText⟩

end Typescribe
