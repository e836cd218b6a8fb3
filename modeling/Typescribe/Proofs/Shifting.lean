import Typescribe.Proofs.LineRules
import Typescribe.Proofs.Unbroken
/-!
# Deeper levels shift the lines

A step that writes whole lines starts each of them with the margin once. So what a program of such
steps writes at some level is what it writes at level zero, with each line shifted by the margin
of the level: neither the wrapping of doc comments nor the layout of members and parameters
depends on the depth. The invariant is that a change adds rows, which do not depend on the level,
and contents of a block add their rows behind one more unit of indentation.
-/
set_option autoImplicit false

namespace Typescribe

/-! ## Lines of a text -/

/-- The lines of a text, each with the line feed that ends it. -/
def physicalLines : List Char → List (List Char)
  | [] => []
  | letter :: rest =>
    if letter = '\n' then [letter] :: physicalLines rest
    else match physicalLines rest with
      | [] => [[letter]]
      | line :: lines => (letter :: line) :: lines

/-- A mark stands in front of each line of the text. -/
def shifted (mark text : String) : String :=
  String.ofList ((physicalLines text.toList).flatMap fun line => mark.toList ++ line)

example : shifted "  " "a\n\n b" = "  a\n  \n   b" := by decide

theorem physicalLines_row {row : List Char} (unbroken : ∀ letter ∈ row, letter ≠ '\n')
    (rest : List Char) :
    physicalLines (row ++ '\n' :: rest) = (row ++ ['\n']) :: physicalLines rest := by
  induction row with
  | nil => simp [physicalLines]
  | cons letter row ih =>
    have inRow : letter ≠ '\n' := unbroken letter (by simp)
    have others := ih fun other member => unbroken other (List.mem_cons_of_mem _ member)
    rw [List.cons_append, physicalLines, if_neg inRow, others]
    rfl

theorem shifted_linesText (mark : String) {rows : List String}
    (unbroken : ∀ row ∈ rows, Unbroken row) :
    shifted mark (linesText "" rows) = linesText mark rows := by
  induction rows with
  | nil => rfl
  | cons row rows ih =>
    have inRow : ∀ letter ∈ row.toList, letter ≠ '\n' := fun letter member isBreak =>
      unbroken row (by simp) letter member (List.mem_singleton.mpr isBreak)
    have letters : (linesText "" (row :: rows)).toList =
        row.toList ++ '\n' :: (linesText "" rows).toList := by
      simp [linesText, lineText]
    have others := ih fun other member => unbroken other (List.mem_cons_of_mem _ member)
    rw [shifted] at others
    rw [shifted, letters, physicalLines_row inRow, List.flatMap_cons, String.ofList_append, others,
      linesText, lineText]
    congr 1
    apply String.toList_injective
    simp

theorem linesText_append_margin (margin unit : String) (contents : List String) :
    linesText (margin ++ unit) contents =
      linesText margin (contents.map fun content => unit ++ content) := by
  induction contents with
  | nil => rfl
  | cons content contents ih =>
    rw [List.map_cons, linesText, linesText, ih]
    simp only [lineText, String.append_assoc]

theorem copies_succ (count : Nat) (text : String) :
    copies (count + 1) text = copies count text ++ text := by
  induction count with
  | zero => simp [copies]
  | succ count ih =>
    calc copies (count + 1 + 1) text
      _ = text ++ copies (count + 1) text := rfl
      _ = text ++ (copies count text ++ text) := by rw [ih]
      _ = copies (count + 1) text ++ text := by rw [← String.append_assoc]; rfl

theorem Writer.innerMargin_eq (writer : Writer) :
    writer.innerMargin = writer.margin ++ writer.sheet.indent.unit :=
  copies_succ _ _

theorem linesText_rows (margin unit ending : String) (definition : FunctionDefinition) :
    linesText margin (definition.rows unit ending) =
      signatureText margin (margin ++ unit) definition ++ ending ++ "\n" := by
  rw [FunctionDefinition.rows, signatureText, parameterListText]
  split
  · have parameters : linesText (margin ++ unit) (definition.parameterTexts.map fun text =>
        text ++ ",") = linesText margin (definition.parameterTexts.map fun text =>
          unit ++ (text ++ ",")) := by
      rw [linesText_append_margin, List.map_map]
      rfl
    have opened : "(\n" = "(" ++ "\n" := rfl
    simp only [parameters, opened, linesText_append, linesText, lineText, String.append_assoc,
      String.append_empty]
  · simp only [linesText, lineText, String.append_assoc, String.append_empty]

/-! ## Changes that add lines -/

/-- The rows depend on the style of indentation and on the width of comments, but not on the
level. -/
def AddsLines (change : Writer → Writer) : Prop :=
  ∃ rows : Indent → UInt64 → List String,
    (∀ indent width, ∀ row ∈ rows indent width, Unbroken row) ∧
      ∀ writer : Writer, change writer =
        writer.write (linesText writer.margin (rows writer.sheet.indent writer.commentWidth))

namespace AddsLines

theorem same : AddsLines fun writer => writer :=
  ⟨fun _ _ => [], by simp, fun writer => (Writer.write_empty writer).symm⟩

theorem andThen {first second : Writer → Writer} (leading : AddsLines first)
    (trailing : AddsLines second) : AddsLines fun writer => second (first writer) := by
  obtain ⟨firstRows, firstUnbroken, firstWrites⟩ := leading
  obtain ⟨secondRows, secondUnbroken, secondWrites⟩ := trailing
  refine ⟨fun indent width => firstRows indent width ++ secondRows indent width,
    fun indent width => ?_, fun writer => ?_⟩
  · exact List.forall_mem_append.mpr ⟨firstUnbroken indent width, secondUnbroken indent width⟩
  · dsimp only
    rw [firstWrites, secondWrites, Writer.write_write, linesText_append]
    rfl

theorem lines {contents : List String} (unbroken : ∀ content ∈ contents, Unbroken content) :
    AddsLines (Writer.lines contents) :=
  ⟨fun _ _ => contents, fun _ _ => unbroken, Writer.lines_eq_write contents⟩

theorem line {content : String} (unbroken : Unbroken content) :
    AddsLines (Writer.line content) :=
  lines (List.forall_mem_singleton.mpr unbroken)

theorem docLines {contents : List String} (unbroken : ∀ content ∈ contents, Unbroken content) :
    AddsLines (Writer.docLines contents) :=
  ⟨fun _ width => Docs.block width.toNat contents, fun _ _ => Unbroken.block unbroken,
    Writer.docLines_eq_write contents⟩

/-! ## Scopes -/

theorem nested {contents : Writer → Writer} (inside : AddsLines contents) :
    AddsLines (Writer.nested contents) := by
  obtain ⟨rows, unbroken, writes⟩ := inside
  refine ⟨fun indent width => (rows indent width).map fun row => indent.unit ++ row,
    fun indent width => ?_, fun writer => ?_⟩
  · refine List.forall_mem_map.mpr fun row member => ?_
    exact (Unbroken.unit indent).append (unbroken indent width row member)
  · have deeper : (writer.setLevel (writer.level + 1)).margin =
        writer.margin ++ writer.sheet.indent.unit := writer.innerMargin_eq
    rw [Writer.nested_eq_write _ _ writes, deeper, linesText_append_margin]
    rfl

theorem enclosed {β : Type} {closing : String} (unbroken : Unbroken closing)
    {contents : Writer → β × Writer} (inside : AddsLines fun writer => (contents writer).2) :
    AddsLines fun writer => (writer.enclosed closing contents).2 :=
  (nested inside).andThen (line unbroken)

/-! ## Definitions -/

theorem decoratorLines {decorators : List (Decorator Callback)}
    (unbroken : ∀ text ∈ decorators.flatMap Decorator.texts, Unbroken text)
    (noCallbacks : ∀ decorator ∈ decorators, decorator.EachCallback fun _ => False) :
    AddsLines (Writer.decoratorLines decorators) := by
  rw [funext (Writer.decoratorLines_eq_lines noCallbacks)]
  refine lines (List.forall_mem_map.mpr fun decorator member => ?_)
  exact Decorator.unbroken_content fun text isText =>
    unbroken text (List.mem_flatMap.mpr ⟨decorator, member, isText⟩)

theorem decoratedLine {decorators : List (Decorator Callback)} {content : String}
    (unbroken : ∀ text ∈ decorators.flatMap Decorator.texts, Unbroken text)
    (noCallbacks : ∀ decorator ∈ decorators, decorator.EachCallback fun _ => False)
    (contentUnbroken : Unbroken content) :
    AddsLines fun writer => (writer.startLine.decoratorPieces decorators).endLine content := by
  have oneLine : (fun writer : Writer =>
      (writer.startLine.decoratorPieces decorators).endLine content) =
        Writer.line (decoratorsText decorators ++ content) := by
    funext writer
    rw [Writer.decoratorPieces_eq_write noCallbacks, Writer.startLine_eq_write,
      Writer.endLine_eq_write, Writer.line_eq_write, Writer.write_write, Writer.write_write,
      lineText]
    simp only [String.append_assoc]
  rw [oneLine]
  exact line ((unbroken_decoratorsText unbroken).append contentUnbroken)

theorem endedSignature {definition : FunctionDefinition}
    (unbroken : ∀ text ∈ definition.texts, Unbroken text) {ending : String}
    (endingUnbroken : Unbroken ending) :
    AddsLines fun writer => (writer.signature definition).endLine ending := by
  have comment := docLines (Unbroken.rules.functionLines unbroken)
  have rows : AddsLines fun writer => writer.write
      (signatureText writer.margin writer.innerMargin definition ++ ending ++ "\n") := by
    refine ⟨fun indent _ => definition.rows indent.unit ending, fun indent _ =>
      FunctionDefinition.unbroken_rows unbroken (Unbroken.unit indent) endingUnbroken,
      fun writer => ?_⟩
    dsimp only
    rw [writer.innerMargin_eq, linesText_rows]
  -- The comment keeps the margins, so it does not matter that the rows come behind it.
  have twoParts : (fun writer : Writer => (writer.signature definition).endLine ending) =
      fun writer => ((writer.docLines (Docs.functionLines definition)).write
        (signatureText (writer.docLines (Docs.functionLines definition)).margin
          (writer.docLines (Docs.functionLines definition)).innerMargin definition
            ++ ending ++ "\n")) := by
    funext writer
    rw [Writer.signature_eq_docLines, Writer.endLine_eq_write, Writer.docLines_eq_write,
      Writer.write_write, Writer.margin_write, Writer.innerMargin_write, String.append_assoc]
  rw [twoParts]
  exact comment.andThen rows

theorem rules : LineRules Unbroken (fun _ => False) AddsLines where
  texts := Unbroken.rules
  same := same
  andThen := andThen
  line := line
  docLines := docLines
  block content frame inside := by
    obtain ⟨before, behind⟩ := frame.avoid_lineFeed
    exact (line (content.append before)).andThen (enclosed behind inside)
  decoratorLines := decoratorLines
  decoratedLine := decoratedLine
  signature unbroken ending := endedSignature unbroken ending
  signatureBlock unbroken frame inside := by
    obtain ⟨before, behind⟩ := frame.avoid_lineFeed
    exact (endedSignature unbroken before).andThen (enclosed behind inside)

end AddsLines

/-! ## Programs -/

/-- A step that writes whole lines from texts of one line and without callbacks. -/
structure Step.WholeLines (step : Step) : Prop where
  writes : step.writesLines = true
  noCallbacks : callbackPrograms step.decorators = []
  unbroken : ∀ text ∈ step.texts, Unbroken text

namespace AddsLines

theorem perform {step : Step} (whole : step.WholeLines)
    (inside : ∀ program ∈ step.subprograms, AddsLines (Step.run program)) :
    AddsLines fun writer => (step.perform writer).writer := by
  have imports : ∀ line ∈ step.importLine?, Unbroken line :=
    Unbroken.rules.importLine (by decide) id whole.unbroken
  refine rules.perform whole.writes whole.unbroken imports (fun program isContents => ?_) ?_
  · exact inside program (List.mem_append_left _ (Option.mem_toList.mpr isContents))
  · refine Step.eachCallback fun program isCallback => ?_
    rw [whole.noCallbacks] at isCallback
    cases isCallback

theorem run {program : Program} (whole : program.Everywhere Step.WholeLines) :
    AddsLines (Step.run program) := by
  induction whole with
  | nil =>
    rw [Step.run_nil]
    exact same
  | cons head inside tail insideAdds tailAdds =>
    rw [Step.run_cons]
    exact (perform head insideAdds).andThen tailAdds

end AddsLines

/-- What a program of whole lines writes at any level is what it writes at level zero, with the
indentation in front of each line. -/
theorem level_shifts_lines (program : Program) (whole : program.Everywhere Step.WholeLines)
    (writer : Writer) :
    ∃ added, Step.run program (writer.setLevel 0) = (writer.setLevel 0).write added ∧
      ∀ level, Step.run program (writer.setLevel level) = (writer.setLevel level).write
        (shifted (copies level writer.sheet.indent.unit) added) := by
  obtain ⟨rows, unbroken, writes⟩ := AddsLines.run whole
  refine ⟨linesText "" (rows writer.sheet.indent writer.commentWidth), writes _, fun level => ?_⟩
  rw [shifted_linesText _ (unbroken _ _), writes]
  rfl

theorem documented_class_is_shifted :
    let program : Program := [
      .classBlock
        (some {
          name := "A"
          description := ["one two three"]
          decorators := [{ name := "D", arguments := some (.text "x") }] })
        [.functionBlock
          (some {
            name := some "f"
            multiLineSignature := true
            parameters := [{ name := "a", typeName := "T" }] })
          [.line "g();"]],
      .enum (some { name := "E", members := [{ name := "p" }, { name := "q" }] })]
    let writer : Writer := { commentWidth := 8 }
    (Step.run program (writer.setLevel 1)).text =
      "  /**\n  * one two\n  * three\n  */\n  @D(x)\n  class A \x7b\n    f(\n      a: T,\n"
        ++ "    ): void \x7b\n      g();\n    \x7d\n  \x7d\n  enum E \x7b\n    p,\n    q\n  \x7d\n" ∧
      ∃ added, Step.run program (writer.setLevel 0) = (writer.setLevel 0).write added ∧
        ∀ level, Step.run program (writer.setLevel level) = (writer.setLevel level).write
          (shifted (copies level writer.sheet.indent.unit) added) := by
  intro program writer
  refine ⟨by decide, level_shifts_lines program ?_ writer⟩
  have nothingInside {step : Step} (bare : step.subprograms = []) : ∀ inner ∈ step.subprograms,
      inner.Everywhere Step.WholeLines := by
    simp [bare]
  refine .cons ⟨rfl, rfl, by decide⟩ (List.forall_mem_singleton.mpr ?function)
    (.cons ⟨rfl, rfl, by decide⟩ (nothingInside rfl) .nil)
  refine .cons ⟨rfl, rfl, by decide⟩ (List.forall_mem_singleton.mpr ?line) .nil
  exact .cons ⟨rfl, rfl, by decide⟩ (nothingInside rfl) .nil

end Typescribe
