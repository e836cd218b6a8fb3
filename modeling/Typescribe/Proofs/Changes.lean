import Typescribe.Proofs.Failures
/-!
# Properties of changes

Whatever writes a definition is put together from pieces of text that the sheet around them
decides, warnings, scopes, and callbacks. A property of changes of writers that is closed under
these holds of every step that writes, as long as the programs that the step runs have it.
-/
set_option autoImplicit false

namespace Typescribe

/-- How a property of changes passes from parts to wholes. Of the contents of a scope another one
may be asked, since a scope restores the level. -/
structure ChangeRules (inside holds : Callback → Prop) : Prop where
  same : holds fun writer => writer
  andThen : ∀ {first second : Callback}, holds first → holds second →
    holds fun writer => second (first writer)
  write : ∀ piece : Writer → String,
    (∀ {left right : Writer}, Alike left right → piece left = piece right) →
    holds fun writer => writer.write (piece writer)
  warned : ∀ warnings : List Diagnostic, holds (Writer.warned warnings)
  enclosed : ∀ {β : Type} (closing : String) {contents : Writer → β × Writer},
    inside (fun writer => (contents writer).2) →
    holds fun writer => (writer.enclosed closing contents).2
  resolved : ∀ {change : Callback},
    (∀ resolver, ∃ known, holds known ∧
      ∀ writer : Writer, writer.builder.resolver = resolver → change writer = known writer) →
    holds change

/-- The abstractness of constructors and of functions of interfaces does not count. -/
def Operation.hasBody (operation : Operation) : Bool :=
  !(operation.isAbstract && !operation.isConstructor && !operation.owner.isInterface)

theorem Resolver.isAbstract_of_function {resolver : Resolver} {operation : Operation}
    {options : FunctionOptions} {definition : FunctionDefinition}
    (built : resolver.functionDefinition operation options = .ok definition) :
    (!definition.isAbstract) = operation.hasBody := by
  unfold functionDefinition at built
  obtain ⟨name, -, isDefinition⟩ := exists_of_bind_eq_ok built
  obtain ⟨parameters, -, rfl⟩ := exists_of_map_eq_ok isDefinition
  rfl

namespace ChangeRules

variable {inside holds : Callback → Prop} (rules : ChangeRules inside holds)
include rules

theorem ofWrite {change : Callback} (piece : Writer → String)
    (writes : ∀ writer, change writer = writer.write (piece writer))
    (agrees : ∀ {left right : Writer}, Alike left right → piece left = piece right) :
    holds change := by
  rw [funext writes]
  exact rules.write piece agrees

theorem piece (piece : String) : holds (Writer.write piece) := rules.write _ fun _ => rfl

theorem startLine : holds Writer.startLine :=
  rules.ofWrite _ Writer.startLine_eq_write Alike.margin

theorem endLine (piece : String) : holds (Writer.endLine piece) :=
  rules.ofWrite _ (Writer.endLine_eq_write piece) fun _ => rfl

theorem line (content : String) : holds (Writer.line content) :=
  rules.ofWrite _ (Writer.line_eq_write content) fun alike => by rw [alike.margin]

theorem line? (content : Option String) : holds (Writer.line? content) := by
  cases content with
  | none => exact rules.same
  | some content => exact rules.line content

theorem docLines (contents : List String) : holds (Writer.docLines contents) :=
  rules.ofWrite _ (Writer.docLines_eq_write contents) fun alike => by
    rw [alike.margin, alike.commentWidth]

theorem docParagraphs (paragraphs : List String) : holds (Writer.docParagraphs paragraphs) :=
  rules.docLines _

theorem documentedLine (paragraphs : List String) (content : String) :
    holds fun writer => (writer.docParagraphs paragraphs).line content :=
  rules.andThen (rules.docParagraphs paragraphs) (rules.line content)

/-! ## Decorators -/

theorem decorator {decorator : Decorator Callback} (callback : decorator.EachCallback holds) :
    holds (Writer.decorator decorator) := by
  have named : holds fun writer => (writer.write "@").write decorator.name :=
    rules.andThen (rules.piece "@") (rules.piece decorator.name)
  unfold Writer.decorator
  cases parentheses : decorator.hasParentheses with
  | false => simpa only [Bool.false_eq_true, if_false] using named
  | true =>
    have arguments : holds (Writer.arguments decorator.arguments) := by
      cases given : decorator.arguments with
      | none => exact rules.same
      | some arguments =>
        cases arguments with
        | text content => exact rules.piece content
        | callback run => exact callback run given
    have opened := rules.andThen named (rules.piece "(")
    simpa only [if_true] using rules.andThen (rules.andThen opened arguments) (rules.piece ")")

theorem decoratorLines {decorators : List (Decorator Callback)}
    (callbacks : ∀ decorator ∈ decorators, decorator.EachCallback holds) :
    holds (Writer.decoratorLines decorators) := by
  induction decorators with
  | nil => exact rules.same
  | cons head rest ih =>
    have started := rules.andThen rules.startLine (rules.decorator (callbacks head (by simp)))
    have headHolds := rules.andThen started (rules.endLine "")
    have all := rules.andThen headHolds (ih fun next member => callbacks next (by simp [member]))
    exact all

theorem decoratorPieces {decorators : List (Decorator Callback)}
    (callbacks : ∀ decorator ∈ decorators, decorator.EachCallback holds) :
    holds (Writer.decoratorPieces decorators) := by
  induction decorators with
  | nil => exact rules.same
  | cons head rest ih =>
    have headHolds := rules.andThen (rules.decorator (callbacks head (by simp))) (rules.piece " ")
    have all := rules.andThen headHolds (ih fun next member => callbacks next (by simp [member]))
    exact all

/-! ## Definitions -/

theorem codeBlock {β : Type} {contents : Writer → β × Writer}
    (contentsHold : inside fun writer => (contents writer).2) :
    holds fun writer => (writer.codeBlock contents).2 :=
  rules.andThen (rules.line _) (rules.enclosed _ contentsHold)

theorem decoratorBlock {β : Type} (name : String) {contents : Writer → β × Writer}
    (contentsHold : inside fun writer => (contents writer).2) :
    holds fun writer => (writer.decoratorBlock name contents).2 :=
  rules.andThen (rules.line _) (rules.enclosed _ contentsHold)

theorem classBlock {β : Type} {definition : ClassDefinition Callback}
    {contents : Writer → β × Writer}
    (callbacks : ∀ decorator ∈ definition.decorators, decorator.EachCallback holds)
    (contentsHold : inside fun writer => (contents writer).2) :
    holds fun writer => (writer.classBlock definition contents).2 := by
  have decorated := rules.andThen (rules.docParagraphs definition.description)
    (rules.decoratorLines callbacks)
  exact rules.andThen (rules.andThen decorated (rules.line _)) (rules.enclosed _ contentsHold)

theorem interfaceBlock {β : Type} (definition : InterfaceDefinition)
    {contents : Writer → β × Writer}
    (contentsHold : inside fun writer => (contents writer).2) :
    holds fun writer => (writer.interfaceBlock definition contents).2 :=
  rules.andThen (rules.documentedLine _ _) (rules.enclosed _ contentsHold)

theorem enum (definition : EnumDefinition) : holds (Writer.enum definition) :=
  rules.ofWrite _ (Writer.enum_eq_write definition) fun alike => by
    rw [alike.margin, alike.innerMargin, alike.commentWidth]

theorem property {definition : PropertyDefinition Callback}
    (callbacks : ∀ decorator ∈ definition.decorators, decorator.EachCallback holds) :
    holds (Writer.property definition) := by
  have started := rules.andThen (rules.docParagraphs definition.description) rules.startLine
  have decorated := rules.andThen started (rules.decoratorPieces callbacks)
  have all := rules.andThen decorated (rules.endLine definition.content)
  exact all

theorem signature (definition : FunctionDefinition) : holds (Writer.signature definition) :=
  rules.ofWrite _ (Writer.signature_eq_write definition) fun alike => by
    rw [alike.margin, alike.innerMargin, alike.commentWidth]

theorem functionDeclaration (definition : FunctionDefinition) :
    holds (Writer.functionDeclaration definition) := by
  have all := rules.andThen (rules.signature definition) (rules.endLine ";")
  exact all

theorem functionBlock {β : Type} {definition : FunctionDefinition}
    {contents : Writer → β × Writer}
    (contentsHold : definition.isAbstract = false → inside fun writer => (contents writer).2) :
    holds fun writer => (writer.functionBlock definition contents).2 := by
  unfold Writer.functionBlock
  cases isAbstract : definition.isAbstract with
  | true => exact rules.functionDeclaration definition
  | false =>
    have opened := rules.andThen (rules.signature definition) (rules.endLine " \x7b")
    exact rules.andThen opened (rules.enclosed _ (contentsHold isAbstract))

/-! ## Model elements -/

theorem writeClass {β : Type} {element : Class} {decorators : List (Decorator Callback)}
    (options : ClassOptions) {contents : Writer → β × Writer}
    (callbacks : missing? .ofClass element.name = none →
      ∀ decorator ∈ decorators, decorator.EachCallback holds)
    (contentsHold : missing? .ofClass element.name = none →
      inside fun writer => (contents writer).2) :
    holds fun writer => (writer.writeClass element decorators options contents).2 := by
  refine rules.resolved fun resolver => ?_
  have fails := resolver.failure_class decorators element options
  cases built : (resolver.classDefinition element decorators options).result with
  | error failure =>
    refine ⟨_, rules.warned (resolver.classDefinition element decorators options).warnings,
      fun writer isResolver => ?_⟩
    simp only [Writer.writeClass, isResolver, built]
    rfl
  | ok definition =>
    rw [built] at fails
    have kept : definition.decorators = decorators := Resolver.decorators_of_class built
    have block := rules.classBlock (by rw [kept]; exact callbacks fails.symm)
      (contentsHold fails.symm)
    refine ⟨_, rules.andThen (rules.warned
      (resolver.classDefinition element decorators options).warnings) block,
      fun writer isResolver => ?_⟩
    simp only [Writer.writeClass, isResolver, built]
    rfl

theorem writeInterface {β : Type} {element : Interface} (options : InterfaceOptions)
    {contents : Writer → β × Writer}
    (contentsHold : missing? .ofInterface element.name = none →
      inside fun writer => (contents writer).2) :
    holds fun writer => (writer.writeInterface element options contents).2 := by
  refine rules.resolved fun resolver => ?_
  have fails := resolver.failure_interface element options
  have noted := rules.warned (resolver.interfaceDefinition element options).warnings
  cases built : (resolver.interfaceDefinition element options).result with
  | error failure =>
    refine ⟨_, noted, fun writer isResolver => ?_⟩
    simp only [Writer.writeInterface, isResolver, built]
    rfl
  | ok definition =>
    rw [built] at fails
    refine ⟨_, rules.andThen noted (rules.interfaceBlock definition (contentsHold fails.symm)),
      fun writer isResolver => ?_⟩
    simp only [Writer.writeInterface, isResolver, built]
    rfl

theorem writeEnumeration (element : Enumeration) (options : EnumOptions) :
    holds fun writer => (writer.writeEnumeration element options).2 := by
  have noted := rules.warned (Resolver.enumDefinition element options).warnings
  simp only [Writer.writeEnumeration]
  cases (Resolver.enumDefinition element options).result with
  | error failure => exact noted
  | ok definition =>
    have all := rules.andThen noted (rules.enum definition)
    exact all

theorem writeProperty {element : Property} {decorators : List (Decorator Callback)}
    (options : PropertyOptions)
    (callbacks : missing? .ofProperty element.name = none →
      ∀ decorator ∈ decorators, decorator.EachCallback holds) :
    holds fun writer => (writer.writeProperty element decorators options).2 := by
  refine rules.resolved fun resolver => ?_
  have fails := resolver.failure_property decorators element options
  cases built : resolver.propertyDefinition element decorators options with
  | error failure =>
    refine ⟨_, rules.same, fun writer isResolver => ?_⟩
    simp only [Writer.writeProperty, isResolver, built]
  | ok definition =>
    rw [built] at fails
    have kept : definition.decorators = decorators := Resolver.decorators_of_property built
    refine ⟨_, rules.property (by rw [kept]; exact callbacks fails.symm),
      fun writer isResolver => ?_⟩
    simp only [Writer.writeProperty, isResolver, built]

theorem writeFunction {β : Type} {element : Operation} (options : FunctionOptions)
    {contents : Writer → β × Writer}
    (contentsHold : element.failure? = none → element.hasBody = true →
      inside fun writer => (contents writer).2) :
    holds fun writer => (writer.writeFunction element options contents).2 := by
  refine rules.resolved fun resolver => ?_
  have fails := resolver.failure_function element options
  cases built : resolver.functionDefinition element options with
  | error failure =>
    refine ⟨_, rules.same, fun writer isResolver => ?_⟩
    simp only [Writer.writeFunction, isResolver, built]
  | ok definition =>
    rw [built] at fails
    have block : holds fun writer => (writer.functionBlock definition contents).2 :=
      rules.functionBlock fun concrete =>
        contentsHold fails.symm (by rw [← Resolver.isAbstract_of_function built, concrete]; rfl)
    refine ⟨_, block, fun writer isResolver => ?_⟩
    simp only [Writer.writeFunction, isResolver, built]

end ChangeRules

/-! ## Steps -/

namespace Step

def isSetting : Step → Bool
  | .deeper | .shallower | .setCommentWidth _ | .dropDiagnostics | .build _ => true
  | _ => false

def isBodiless : Step → Bool
  | .classBlock definition _ => definition.isNone
  | .interfaceBlock definition _ => definition.isNone
  | .functionBlock definition _ => definition.all FunctionDefinition.isAbstract
  | .writeFunction element _ _ => !element.hasBody
  | _ => false

def isIdle (step : Step) : Bool := step.failure?.isSome || step.isBodiless

theorem isIdle_eq_false {step : Step} (succeeds : step.failure? = none)
    (hasBody : step.isBodiless = false) : step.isIdle = false := by
  rw [isIdle, succeeds, hasBody]
  rfl

def executed (step : Step) : List Program := if step.isIdle then [] else step.subprograms

end Step

namespace ChangeRules

variable {inside holds : Callback → Prop} (rules : ChangeRules inside holds)
include rules

/-- A step that is no setting has the property if what it runs has it. -/
theorem perform {step : Step} (writes : step.isSetting = false)
    (contentsHold : step.isIdle = false → ∀ program, step.contents? = some program →
      inside (Step.run program))
    (callbacksHold : step.isIdle = false → ∀ program ∈ callbackPrograms step.decorators,
      holds (Step.run program)) :
    holds fun writer => (step.perform writer).writer := by
  have callbacks (runs : step.isIdle = false) :
      ∀ decorator ∈ Step.callbacks step.decorators, decorator.EachCallback holds :=
    Step.eachCallback (callbacksHold runs)
  cases step <;> simp only [Step.perform, Performed.writer_ofWriter, Performed.writer_ofContents,
    Performed.writer_ofWrite]
  case deeper | shallower | setCommentWidth | dropDiagnostics | build => cases writes
  case line content => exact rules.line content
  case blankLine => exact rules.piece "\n"
  case write piece => exact rules.piece piece
  case startLine => exact rules.startLine
  case endLine piece => exact rules.endLine piece
  case commentWidth | elementTypeName => exact rules.same
  case namedImport name names => exact rules.line? _
  case wholeImport name given => exact rules.line? _
  case codeBlock contents => exact rules.codeBlock (contentsHold rfl contents rfl)
  case decoratorBlock name contents =>
    exact rules.decoratorBlock name (contentsHold rfl contents rfl)
  case classBlock definition contents =>
    cases definition with
    | none => exact rules.same
    | some definition =>
      refine rules.classBlock ?_ (contentsHold rfl contents rfl)
      rw [Step.decorators_classCallbacks]
      exact callbacks rfl
  case interfaceBlock definition contents =>
    cases definition with
    | none => exact rules.same
    | some definition => exact rules.interfaceBlock definition (contentsHold rfl contents rfl)
  case enum definition =>
    cases definition with
    | none => exact rules.same
    | some definition => exact rules.enum definition
  case stringLiteralType definition =>
    cases definition with
    | none => exact rules.same
    | some definition => exact rules.documentedLine _ _
  case property definition =>
    cases definition with
    | none => exact rules.same
    | some definition =>
      refine rules.property ?_
      rw [Step.decorators_propertyCallbacks]
      exact callbacks rfl
  case functionDeclaration definition =>
    cases definition with
    | none => exact rules.same
    | some definition => exact rules.functionDeclaration definition
  case functionBlock definition contents =>
    cases definition with
    | none => exact rules.same
    | some definition =>
      exact rules.functionBlock fun concrete => contentsHold concrete contents rfl
  case variableDeclaration definition =>
    cases definition with
    | none => exact rules.same
    | some definition => exact rules.documentedLine _ _
  case writeClass element decorators options contents =>
    exact rules.writeClass options (fun named => callbacks (Step.isIdle_eq_false named rfl))
      fun named => contentsHold (Step.isIdle_eq_false named rfl) contents rfl
  case writeInterface element options contents =>
    exact rules.writeInterface options fun named =>
      contentsHold (Step.isIdle_eq_false named rfl) contents rfl
  case writeEnumeration element options => exact rules.writeEnumeration element options
  case writeProperty element decorators options =>
    exact rules.writeProperty options fun named => callbacks (Step.isIdle_eq_false named rfl)
  case writeFunction element options contents =>
    refine rules.writeFunction options fun named hasBody => ?_
    have bodied : (Step.writeFunction element options contents).isBodiless = false := by
      rw [Step.isBodiless, hasBody]
      rfl
    exact contentsHold (Step.isIdle_eq_false named bodied) contents rfl
  case docParagraphs paragraphs => exact rules.docParagraphs paragraphs
  case docComments comments => exact rules.docParagraphs _
  case docLines lines => exact rules.docLines lines

end ChangeRules

/-! ## Blindness -/

namespace Blind

theorem resolved {change : Callback}
    (known : ∀ resolver, ∃ known, Blind known ∧ ∀ writer : Writer,
      writer.builder.resolver = resolver → change writer = known writer) : Blind change := by
  intro left right alike
  obtain ⟨same, blind, agrees⟩ := known right.builder.resolver
  rw [agrees left alike.resolver, agrees right rfl]
  exact blind left right alike

theorem ofPending {change : Callback} (sheet : ∀ writer, (change writer).sheet = writer.sheet)
    (width : ∀ writer, (change writer).commentWidth = writer.commentWidth)
    (resolver : ∀ writer, (change writer).builder.resolver = writer.builder.resolver) :
    Blind change := by
  refine ofQuiet (fun writer => ?_) (fun writer => ⟨?_, resolver writer⟩) fun alike => ?_
  · rw [Writer.text, sheet, Writer.text]
  · rw [sheet]
  · refine ⟨?_, ?_, ?_, ?_⟩
    · rw [sheet, sheet, alike.indent]
    · rw [Writer.level, sheet, Writer.level, sheet]
      exact alike.level
    · rw [width, width, alike.commentWidth]
    · rw [resolver, resolver, alike.resolver]

theorem rules : ChangeRules Blind Blind where
  same := same
  andThen := andThen
  write piece agrees := ofWrite piece (fun _ => rfl) agrees
  warned _ := ofPending (fun _ => rfl) (fun _ => rfl) fun _ => rfl
  enclosed := enclosed
  resolved := resolved

theorem perform (step : Step)
    (inside : ∀ program ∈ step.subprograms, Blind (Step.run program)) :
    Blind fun writer => (step.perform writer).writer := by
  cases isSetting : step.isSetting with
  | false =>
    refine rules.perform isSetting (fun _ program isContents => ?_) fun _ program isCallback => ?_
    · exact inside program (List.mem_append_left _ (Option.mem_toList.mpr isContents))
    · exact inside program (List.mem_append_right _ isCallback)
  | true =>
    cases step with
    | deeper =>
      simp only [Step.perform]
      exact deeper
    | shallower =>
      simp only [Step.perform]
      exact shallower
    | setCommentWidth width =>
      simp only [Step.perform]
      exact ofQuiet (fun _ => rfl) (fun _ => ⟨rfl, rfl⟩) fun alike =>
        ⟨alike.indent, alike.level, rfl, alike.resolver⟩
    | dropDiagnostics =>
      simp only [Step.perform]
      exact ofPending (fun _ => rfl) (fun _ => rfl) fun _ => rfl
    | build request =>
      simp only [Step.perform]
      exact ofPending (fun _ => rfl) (fun _ => rfl) fun writer => request.resolver_run _
    | _ => cases isSetting

theorem run (program : Program) : Blind (Step.run program) := by
  induction Program.everywhere (fun _ => trivial) program with
  | nil =>
    rw [Step.run_nil]
    exact same
  | cons head inside tail insideBlind tailBlind =>
    rw [Step.run_cons]
    exact (perform _ insideBlind).andThen tailBlind

end Blind

end Typescribe
