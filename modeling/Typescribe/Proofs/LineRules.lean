import Typescribe.Proofs.Rendered
/-!
# Steps that write whole lines

Definitions, doc comments, imports and blocks are written line by line. Suppose that a property of
changes is kept by running one change after another, and that lines, doc comments, blocks with a
header and signatures have it if the texts that they are given fit. Then every step that writes
whole lines has it, if the texts of the step fit and the programs inside of it have it too.
-/
set_option autoImplicit false

namespace Typescribe

/-- How a property of changes follows from one of the texts that are written. -/
structure LineRules (fits : String → Prop) (calls holds : Callback → Prop) : Prop where
  texts : TextRules fits
  same : holds fun writer => writer
  andThen : ∀ {first second : Callback}, holds first → holds second →
    holds fun writer => second (first writer)
  line : ∀ {content : String}, fits content → holds (Writer.line content)
  docLines : ∀ {contents : List String}, (∀ content ∈ contents, fits content) →
    holds (Writer.docLines contents)
  block : ∀ {β : Type} {content opening closing : String} {contents : Writer → β × Writer},
    fits content → Frame opening closing → holds (fun writer => (contents writer).2) →
    holds fun writer => ((writer.line (content ++ opening)).enclosed closing contents).2
  decoratorLines : ∀ {decorators : List (Decorator Callback)},
    (∀ text ∈ decorators.flatMap Decorator.texts, fits text) →
    (∀ decorator ∈ decorators, decorator.EachCallback calls) →
    holds (Writer.decoratorLines decorators)
  decoratedLine : ∀ {decorators : List (Decorator Callback)} {content : String},
    (∀ text ∈ decorators.flatMap Decorator.texts, fits text) →
    (∀ decorator ∈ decorators, decorator.EachCallback calls) → fits content →
    holds fun writer => (writer.startLine.decoratorPieces decorators).endLine content
  signature : ∀ {definition : FunctionDefinition} {ending : String},
    (∀ text ∈ definition.texts, fits text) → fits ending →
    holds fun writer => (writer.signature definition).endLine ending
  signatureBlock : ∀ {β : Type} {definition : FunctionDefinition} {opening closing : String}
    {contents : Writer → β × Writer}, (∀ text ∈ definition.texts, fits text) →
    Frame opening closing → holds (fun writer => (contents writer).2) →
    holds fun writer =>
      (((writer.signature definition).endLine opening).enclosed closing contents).2

namespace Step

/-- Neither fragments of lines, nor empty lines, nor elements of a model. -/
def writesLines : Step → Bool
  | .line _ | .namedImport .. | .wholeImport .. | .codeBlock _ | .decoratorBlock .. | .classBlock ..
  | .interfaceBlock .. | .enum _ | .stringLiteralType _ | .property _ | .functionDeclaration _
  | .functionBlock .. | .variableDeclaration _ | .docParagraphs _ | .docComments _
  | .docLines _ => true
  | _ => false

def importLine? : Step → Option String
  | .namedImport name names => namedImport? name names
  | .wholeImport name given => wholeImport? name given
  | _ => none

end Step

theorem TextRules.importLine {holds : String → Prop} (rules : TextRules holds) {stops : List Char}
    (few : stops ⊆ marks) (ofAvoids : ∀ {text : String}, Avoids stops text → holds text)
    {step : Step} (avoids : ∀ text ∈ step.texts, Avoids stops text) :
    ∀ line ∈ step.importLine?, holds line := by
  cases step with
  | namedImport name names =>
    simp only [Step.texts, List.forall_mem_cons] at avoids
    exact rules.namedImport (ofAvoids (avoids.1.modulePath few)) fun text member =>
      ofAvoids (avoids.2 text member)
  | wholeImport name given =>
    simp only [Step.texts, List.forall_mem_cons, Option.mem_toList] at avoids
    exact rules.wholeImport (ofAvoids (avoids.1.modulePath few))
      (ofAvoids (avoids.1.importAlias few avoids.2))
  | _ => simp [Step.importLine?]

theorem frame_braces : Frame " \x7b" "\x7d" := ⟨⟨['\x7d'], fun _ => rfl, fun _ => rfl⟩, by decide⟩

namespace LineRules

variable {fits : String → Prop} {calls holds : Callback → Prop}
  (rules : LineRules fits calls holds)

include rules

theorem line? {content : Option String} (each : ∀ text ∈ content, fits text) :
    holds (Writer.line? content) := by
  cases content with
  | none => exact rules.same
  | some content => exact rules.line (each content rfl)

theorem docParagraphs {paragraphs : List String} (each : ∀ paragraph ∈ paragraphs, fits paragraph) :
    holds (Writer.docParagraphs paragraphs) :=
  rules.docLines (rules.texts.paragraphLines each)

theorem documented {paragraphs : List String} (each : ∀ paragraph ∈ paragraphs, fits paragraph)
    {behind : Callback} (behindHolds : holds behind) :
    holds fun writer => behind (writer.docParagraphs paragraphs) :=
  rules.andThen (rules.docParagraphs each) behindHolds

/-! ## Blocks -/

theorem codeBlock {β : Type} {contents : Writer → β × Writer}
    (inside : holds fun writer => (contents writer).2) :
    holds fun writer => (writer.codeBlock contents).2 := by
  have frame : Frame "\x7b" "\x7d" := ⟨⟨['\x7d'], fun _ => rfl, fun _ => rfl⟩, by decide⟩
  have block := rules.block rules.texts.empty frame inside
  rwa [String.empty_append] at block

theorem decoratorBlock {β : Type} {name : String} (nameFits : fits name)
    {contents : Writer → β × Writer} (inside : holds fun writer => (contents writer).2) :
    holds fun writer => (writer.decoratorBlock name contents).2 := by
  have frame : Frame "(\x7b" "\x7d)" :=
    ⟨⟨['\x7d', ')'], fun _ => rfl, fun _ => rfl⟩, by decide⟩
  exact rules.block (rules.texts.append (rules.texts.own (by decide)) nameFits) frame inside

theorem classBlock {β : Type} {definition : ClassDefinition Callback}
    (each : ∀ text ∈ definition.texts, fits text)
    (callbacks : ∀ decorator ∈ definition.decorators, decorator.EachCallback calls)
    {contents : Writer → β × Writer} (inside : holds fun writer => (contents writer).2) :
    holds fun writer => (writer.classBlock definition contents).2 := by
  have block := rules.block (rules.texts.classHeader each) frame_braces inside
  simp only [ClassDefinition.texts, List.forall_mem_append, List.forall_mem_cons] at each
  obtain ⟨-, ⟨⟨description, -⟩, -⟩, decorated⟩ := each
  exact rules.andThen (rules.andThen (rules.docParagraphs description)
    (rules.decoratorLines decorated callbacks)) block

theorem interfaceBlock {β : Type} {definition : InterfaceDefinition}
    (each : ∀ text ∈ definition.texts, fits text) {contents : Writer → β × Writer}
    (inside : holds fun writer => (contents writer).2) :
    holds fun writer => (writer.interfaceBlock definition contents).2 := by
  have block := rules.block (rules.texts.interfaceHeader each) frame_braces inside
  simp only [InterfaceDefinition.texts, List.forall_mem_append, List.forall_mem_cons] at each
  have documented := rules.documented each.2.1 block
  exact documented

theorem enumMembers {members : List EnumMember}
    (each : ∀ text ∈ members.flatMap EnumMember.texts, fits text) :
    holds (Writer.enumMembers members) := by
  induction members with
  | nil => exact rules.same
  | cons member members ih =>
    rw [List.flatMap_cons, List.forall_mem_append] at each
    obtain ⟨head, rest⟩ := each
    have content := rules.texts.enumMemberContent head
    simp only [EnumMember.texts, List.forall_mem_append, List.forall_mem_cons] at head
    cases members with
    | nil =>
      have last := rules.documented head.2.1 (rules.line content)
      exact last
    | cons next members =>
      have withComma : fits (member.content ++ ",") :=
        rules.texts.append content (rules.texts.own (by decide))
      have all := rules.andThen (rules.documented head.2.1 (rules.line withComma)) (ih rest)
      exact all

theorem enum {definition : EnumDefinition} (each : ∀ text ∈ definition.texts, fits text) :
    holds (Writer.enum definition) := by
  have header := rules.texts.enumHeader each
  simp only [EnumDefinition.texts, List.forall_mem_append, List.forall_mem_cons] at each
  obtain ⟨-, description, members⟩ := each
  have inside : holds fun writer => ((), Writer.enumMembers definition.members writer).2 :=
    rules.enumMembers members
  have documented := rules.documented description (rules.block header frame_braces inside)
  exact documented

/-! ## Declarations and members -/

theorem stringLiteralType {definition : StringLiteralType}
    (each : ∀ text ∈ definition.texts, fits text) :
    holds (Writer.stringLiteralType definition) := by
  have content := rules.line (rules.texts.literalTypeContent each)
  simp only [StringLiteralType.texts, List.forall_mem_append, List.forall_mem_cons] at each
  have documented := rules.documented each.2.1 content
  exact documented

theorem variableDeclaration {definition : VariableDefinition}
    (each : ∀ text ∈ definition.texts, fits text) :
    holds (Writer.variableDeclaration definition) := by
  have content := rules.line (rules.texts.variableContent each)
  simp only [VariableDefinition.texts, List.forall_mem_append, List.forall_mem_cons] at each
  have documented := rules.documented each.2.1.1 content
  exact documented

theorem property {definition : PropertyDefinition Callback}
    (each : ∀ text ∈ definition.texts, fits text)
    (callbacks : ∀ decorator ∈ definition.decorators, decorator.EachCallback calls) :
    holds (Writer.property definition) := by
  have content := rules.texts.propertyContent each
  simp only [PropertyDefinition.texts, List.forall_mem_append, List.forall_mem_cons] at each
  obtain ⟨-, -, ⟨description, -⟩, decorated⟩ := each
  have documented :=
    rules.documented description (rules.decoratedLine decorated callbacks content)
  exact documented

theorem functionDeclaration {definition : FunctionDefinition}
    (each : ∀ text ∈ definition.texts, fits text) :
    holds (Writer.functionDeclaration definition) :=
  rules.signature each (rules.texts.own (by decide))

theorem functionBlock {β : Type} {definition : FunctionDefinition}
    (each : ∀ text ∈ definition.texts, fits text) {contents : Writer → β × Writer}
    (inside : holds fun writer => (contents writer).2) :
    holds fun writer => (writer.functionBlock definition contents).2 := by
  unfold Writer.functionBlock
  cases definition.isAbstract with
  | true => exact rules.functionDeclaration each
  | false => exact rules.signatureBlock each frame_braces inside

/-! ## Steps -/

theorem perform {step : Step} (writes : step.writesLines = true)
    (each : ∀ text ∈ step.texts, fits text) (imports : ∀ line ∈ step.importLine?, fits line)
    (contents : ∀ program, step.contents? = some program → holds (Step.run program))
    (callbacks : ∀ decorator ∈ Step.callbacks step.decorators, decorator.EachCallback calls) :
    holds fun writer => (step.perform writer).writer := by
  cases step <;> try (cases writes; done)
  all_goals simp only [Step.perform, Performed.writer_ofWriter, Performed.writer_ofContents]
  case line content => exact rules.line (each content (by simp [Step.texts]))
  case namedImport name names => exact rules.line? imports
  case wholeImport name given => exact rules.line? imports
  case codeBlock program => exact rules.codeBlock (contents program rfl)
  case decoratorBlock name program =>
    exact rules.decoratorBlock (each name (by simp [Step.texts])) (contents program rfl)
  case classBlock definition program =>
    cases definition with
    | none => exact rules.same
    | some definition =>
      refine rules.classBlock ?_ ?_ (contents program rfl)
      · rwa [Step.texts_classCallbacks]
      · rwa [Step.decorators_classCallbacks]
  case interfaceBlock definition program =>
    cases definition with
    | none => exact rules.same
    | some definition => exact rules.interfaceBlock each (contents program rfl)
  case enum definition =>
    cases definition with
    | none => exact rules.same
    | some definition => exact rules.enum each
  case stringLiteralType definition =>
    cases definition with
    | none => exact rules.same
    | some definition => exact rules.stringLiteralType each
  case property definition =>
    cases definition with
    | none => exact rules.same
    | some definition =>
      refine rules.property ?_ ?_
      · rwa [Step.texts_propertyCallbacks]
      · rwa [Step.decorators_propertyCallbacks]
  case functionDeclaration definition =>
    cases definition with
    | none => exact rules.same
    | some definition => exact rules.functionDeclaration each
  case functionBlock definition program =>
    cases definition with
    | none => exact rules.same
    | some definition => exact rules.functionBlock each (contents program rfl)
  case variableDeclaration definition =>
    cases definition with
    | none => exact rules.same
    | some definition => exact rules.variableDeclaration each
  case docParagraphs paragraphs => exact rules.docParagraphs each
  case docComments comments => exact rules.docParagraphs each
  case docLines lines => exact rules.docLines each

end LineRules

end Typescribe
