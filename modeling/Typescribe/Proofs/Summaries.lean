import Typescribe.Proofs.Optionality
/-!
# Summaries of functions

The summary of a function is the first paragraph of its description that is not empty. If there
is one, the doc comment of the function opens with it, in front of all tags. If there is none,
there should be no comment, but a description of empty paragraphs still lets the tags of
parameters make one.
-/
set_option autoImplicit false

namespace Typescribe

namespace Docs

def summary? (paragraphs : List String) : Option String :=
  paragraphs.find? fun paragraph => !paragraph.isEmpty

/-- The whole paragraph if it fits, and otherwise as many of its words as the line takes. -/
inductive Starts (width : Nat) (paragraph : String) : String → Prop
  | whole (fits : width = 0 ∨ (guarded paragraph.toList).length ≤ width) :
      Starts width paragraph ("* " ++ String.ofList (guarded paragraph.toList))
  | row {row : List (List Char)} (long : width ≠ 0 ∧ width < (guarded paragraph.toList).length)
      (begins : row <+: Text.words (guarded paragraph.toList))
      (filled : row = [] → Text.words (guarded paragraph.toList) = []) :
      Starts width paragraph ("* " ++ String.ofList (Text.spaced row))

/-! ## First lines -/

theorem exists_wrapped_eq_cons {width : Nat} (wraps : width ≠ 0) (text : List Char) :
    ∃ row others, Text.wrapped width text = Text.spaced row :: others ∧
      row <+: Text.words text ∧ (row = [] → Text.words text = []) := by
  rw [Text.wrapped, if_neg wraps]
  cases words : Text.words text with
  | nil => exact ⟨[], [], rfl, List.nil_prefix, fun _ => rfl⟩
  | cons word rest =>
    have inOrder := Text.flatten_rows width word.length rest
    obtain ⟨first, others, dealt⟩ :=
      List.exists_cons_of_ne_nil (Text.rows_ne_nil width word.length rest)
    rw [dealt, List.flatten_cons] at inOrder
    dsimp only
    rw [dealt]
    exact ⟨word :: first, others.map Text.spaced, rfl, ⟨others.flatten, by simp [← inOrder]⟩,
      by simp⟩

theorem exists_shown_eq_cons (width : Nat) {paragraph : String} (isText : paragraph ≠ "") :
    ∃ line others, shown width paragraph = line :: others ∧ Starts width paragraph line := by
  have notEmpty : guarded paragraph.toList ≠ [] :=
    guarded_ne_nil fun isEmpty => isText (String.toList_eq_nil_iff.mp isEmpty)
  rw [shown]
  split
  · next isEmpty => exact absurd isEmpty notEmpty
  · rw [laidOut]
    split
    · next long =>
      obtain ⟨row, others, wrapped, begins, filled⟩ :=
        exists_wrapped_eq_cons long.1 (guarded paragraph.toList)
      exact ⟨_, _, by rw [wrapped]; rfl, .row long begins filled⟩
    · next short => exact ⟨_, [], rfl, .whole (by omega)⟩

theorem paragraphLines_of_summary {paragraphs : List String} {summary : String}
    (isSummary : summary? paragraphs = some summary) :
    ∃ others, paragraphLines paragraphs = summary :: others := by
  rw [summary?, ← List.head?_filter] at isSummary
  obtain ⟨others, kept⟩ := List.head?_eq_some_iff.mp isSummary
  rw [paragraphLines, kept]
  cases others with
  | nil => exact ⟨[], rfl⟩
  | cons next others => exact ⟨_, rfl⟩

theorem paragraphLines_of_noSummary {paragraphs : List String}
    (noSummary : summary? paragraphs = none) : paragraphLines paragraphs = [] := by
  have kept : paragraphs.filter (fun paragraph => !paragraph.isEmpty) = [] :=
    List.filter_eq_nil_iff.mpr (List.find?_eq_none.mp noSummary)
  rw [paragraphLines, kept]
  rfl

end Docs

/-! ## Functions -/

def Step.function? (resolver : Resolver) : Step → Option FunctionDefinition
  | .functionDeclaration definition | .functionBlock definition _ => definition
  | .writeFunction element options _ => (resolver.functionDefinition element options).toOption
  | _ => none

theorem Step.built_of_function {resolver : Resolver} {element : Operation}
    {options : FunctionOptions} {contents : Program} {definition : FunctionDefinition}
    (writes : (Step.writeFunction element options contents).function? resolver =
      some definition) : resolver.functionDefinition element options = .ok definition := by
  cases built : resolver.functionDefinition element options with
  | error failure => simp [function?, built, Except.toOption] at writes
  | ok given =>
    obtain rfl : given = definition := by simpa [function?, built, Except.toOption] using writes
    rfl

theorem Step.text_of_function {step : Step} {writer : Writer} {definition : FunctionDefinition}
    (writes : step.function? writer.builder.resolver = some definition) :
    ∃ rest, (step.perform writer).writer.text = (writer.signature definition).text ++ rest := by
  have block (contents : Program) : ∃ rest,
      (writer.functionBlock definition (Step.runAll contents)).2.text =
        (writer.signature definition).text ++ rest := by
    obtain ⟨rest, text, -⟩ := text_functionBlock definition contents writer
    exact ⟨rest, text⟩
  cases step with
  | functionDeclaration given =>
    obtain rfl : given = some definition := writes
    exact ⟨";\n", rfl⟩
  | functionBlock given contents =>
    obtain rfl : given = some definition := writes
    exact block contents
  | writeFunction element options contents =>
    rw [Step.perform, Performed.writer_ofWrite, Writer.writeFunction, built_of_function writes]
    exact block contents
  | _ => cases writes

inductive FunctionComment (definition : FunctionDefinition) (margin : String) (width : UInt64) :
    String → Prop
  | summarized {summary line : String} {others : List String}
      (isSummary : Docs.summary? definition.description = some summary)
      (starts : Docs.Starts width.toNat summary line) :
      FunctionComment definition margin width
        (linesText margin ("/**" :: line :: others ++ ["*/"]))
  | absent (noSummary : Docs.summary? definition.description = none)
      (noTags : definition.description = [] ∨ Docs.taggedParameters definition = []) :
      FunctionComment definition margin width ""
  /-- Empty paragraphs let the tags stand alone. -/
  | tagsAlone (noSummary : Docs.summary? definition.description = none)
      (described : definition.description ≠ []) (tagged : Docs.taggedParameters definition ≠ []) :
      FunctionComment definition margin width
        (docText margin width ((Docs.taggedParameters definition).map Docs.parameterTag))

theorem functionComment_docText (definition : FunctionDefinition) (margin : String)
    (width : UInt64) :
    FunctionComment definition margin width
      (docText margin width (Docs.functionLines definition)) := by
  cases isSummary : Docs.summary? definition.description with
  | some summary =>
    obtain ⟨others, lines⟩ := Docs.paragraphLines_of_summary isSummary
    have isText : summary ≠ "" := by
      rintro rfl
      simpa using List.find?_some isSummary
    obtain ⟨line, more, shown, starts⟩ := Docs.exists_shown_eq_cons width.toNat isText
    have described : definition.description.isEmpty = false := by
      cases isDescription : definition.description with
      | nil => simp [isDescription, Docs.summary?] at isSummary
      | cons => rfl
    have comment : docText margin width (Docs.functionLines definition) =
        linesText margin ("/**" :: line :: (more ++ (others
          ++ (Docs.taggedParameters definition).map Docs.parameterTag).flatMap
            (Docs.shown width.toNat)) ++ ["*/"]) := by
      simp [docText, Docs.block, Docs.functionLines, described, lines, shown]
    rw [comment]
    exact .summarized isSummary starts
  | none =>
    have noParagraphs := Docs.paragraphLines_of_noSummary isSummary
    rw [Docs.functionLines, noParagraphs, List.nil_append]
    cases isDescription : definition.description with
    | nil => exact .absent isSummary (.inl isDescription)
    | cons first others =>
      have described : definition.description ≠ [] := by simp [isDescription]
      rw [List.isEmpty_cons, if_neg (by simp)]
      cases tags : Docs.taggedParameters definition with
      | nil => exact .absent isSummary (.inr tags)
      | cons tag more =>
        rw [← tags]
        exact .tagsAlone isSummary described (by simp [tags])

/-- A doc comment of a function opens with the summary, if there is one; without one it is absent,
or its paragraphs are empty and it holds tags alone. -/
theorem summary_opens_comment {step : Step} {writer : Writer} {definition : FunctionDefinition}
    (writes : step.function? writer.builder.resolver = some definition) :
    ∃ comment rest,
      (step.perform writer).writer.text = writer.text ++ comment
        ++ signatureText writer.margin writer.innerMargin definition ++ rest ∧
      FunctionComment definition writer.margin writer.commentWidth comment := by
  obtain ⟨rest, text⟩ := Step.text_of_function writes
  refine ⟨_, rest, ?_, functionComment_docText definition writer.margin writer.commentWidth⟩
  rw [text, Writer.signature_eq_write, Writer.text_write]
  simp only [String.append_assoc]

theorem summary_behind_empty_paragraph :
    let definition : FunctionDefinition := {
      name := some "f"
      description := ["", "a */ b"]
      parameters := [{ name := "x", typeName := "T", inDocs := true }] }
    let writer : Writer := { commentWidth := 5 }
    let step := Step.functionDeclaration (some definition)
    step.function? writer.builder.resolver = some definition ∧
      (step.perform writer).writer.text =
        "/**\n* a *\\/\n* b\n* @param\n* \x7bT\x7d x\n*/\nf(x: T): void;\n" ∧
      ∃ comment rest,
        (step.perform writer).writer.text = writer.text ++ comment
          ++ signatureText writer.margin writer.innerMargin definition ++ rest ∧
        FunctionComment definition writer.margin writer.commentWidth comment := by
  intro definition writer step
  exact ⟨rfl, by decide, summary_opens_comment rfl⟩

/-- An empty paragraph is no summary, yet the tag of a parameter makes a comment. -/
theorem empty_paragraph_leaves_tags_alone :
    Docs.summary? [""] = none ∧
    (Step.perform (.functionDeclaration (some {
      name := some "load"
      description := [""]
      parameters := [{ name := "id", typeName := "number", inDocs := true }] })) {}).writer.text =
      "/**\n* @param \x7bnumber\x7d id\n*/\nload(id: number): void;\n" ∧
    (Step.perform (.writeFunction {
        name := "load"
        comments := [⟨""⟩]
        parameters := [{ name := "id", type := some (.primitive .integer) }] } {} []) {}).writer.text =
      "/**\n* @param \x7bnumber\x7d id\n*/\nload(id: number): void \x7b\n\x7d\n" := by
  decide

end Typescribe
