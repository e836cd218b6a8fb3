import Typescribe.Proofs.Programs
/-!
# Builds without a name

A build fails if a name is missing, and for no other reason: its failure is known from the names
of the element alone, before any type is named and whatever has been written. A write that fails
writes nothing and runs no contents. The one thing it can leave behind is the warning about the
prefix of an enumeration, which comes before its literals are looked at.
-/
set_option autoImplicit false

namespace Typescribe

def missing? (element : Named) (name : String) : Option BuildFailure :=
  if name.isEmpty then some (.missingName element) else none

theorem missing_eq_some {element : Named} {name : String} {failure : BuildFailure} :
    missing? element name = some failure ↔
      name.isEmpty = true ∧ failure = .missingName element := by
  rw [missing?]
  cases name.isEmpty <;> simp [eq_comm]

def Enumeration.failure? (element : Enumeration) : Option BuildFailure :=
  (missing? .ofEnum element.name).or
    (element.literals.findSome? fun literal => missing? .ofEnumMember literal.name)

/-- The name of a constructor is not looked at. -/
def Operation.failure? (operation : Operation) : Option BuildFailure :=
  (if operation.isConstructor then none else missing? .ofFunction operation.name).or
    (operation.parameters.findSome? fun parameter => missing? .ofParameter parameter.name)

def failureOf? {α : Type} : Except BuildFailure α → Option BuildFailure
  | .error failure => some failure
  | .ok _ => none

theorem failureOf_eq_some {α : Type} {outcome : Except BuildFailure α} {failure : BuildFailure} :
    failureOf? outcome = some failure ↔ outcome = .error failure := by
  cases outcome <;> simp [failureOf?]

/-! ## Failures of steps in order -/

theorem failureOf_requiredName (element : Named) (name : String) :
    failureOf? (requiredName element name) = missing? element name := by
  unfold requiredName missing?
  split <;> rfl

theorem failureOf_map {α β : Type} (change : α → β) (outcome : Except BuildFailure α) :
    failureOf? (outcome.map change) = failureOf? outcome := by
  cases outcome <;> rfl

theorem failureOf_bind {α β : Type} {outcome : Except BuildFailure α}
    {next : α → Except BuildFailure β} {later : Option BuildFailure}
    (fails : ∀ value, failureOf? (next value) = later) :
    failureOf? (outcome.bind next) = (failureOf? outcome).or later := by
  cases outcome with
  | error failure => rfl
  | ok value => exact fails value

theorem failureOf_mapM {α β : Type} {build : α → Except BuildFailure β}
    {early : α → Option BuildFailure} (fails : ∀ item, failureOf? (build item) = early item)
    (items : List α) : failureOf? (items.mapM build) = items.findSome? early := by
  induction items with
  | nil => rfl
  | cons item items ih =>
    rw [List.mapM_cons, List.findSome?_cons, ← fails item]
    cases build item with
    | error failure => rfl
    | ok value =>
      have rest : failureOf? (items.mapM build >>= fun values => pure (value :: values)) =
          (failureOf? (items.mapM build)).or none :=
        failureOf_bind fun _ => rfl
      rw [Option.or_none, ih] at rest
      exact rest

/-! ## Failures of builds -/

namespace Resolver

variable {κ : Type} (resolver : Resolver) (decorators : List (Decorator κ))

theorem failure_class (element : Class) (options : ClassOptions) :
    failureOf? (resolver.classDefinition element decorators options).result =
      missing? .ofClass element.name := by
  rw [classDefinition, ← failureOf_requiredName]
  cases requiredName .ofClass element.name <;> rfl

theorem failure_interface (element : Interface) (options : InterfaceOptions) :
    failureOf? (resolver.interfaceDefinition element options).result =
      missing? .ofInterface element.name := by
  rw [interfaceDefinition, ← failureOf_requiredName]
  cases requiredName .ofInterface element.name <;> rfl

theorem failure_enum (element : Enumeration) (options : EnumOptions) :
    failureOf? (enumDefinition element options).result = element.failure? := by
  have members : failureOf? (element.literals.mapM
      (enumMember (options.features.getD .all))) =
        element.literals.findSome? fun literal => missing? .ofEnumMember literal.name :=
    failureOf_mapM (fun literal => by rw [enumMember, failureOf_map, failureOf_requiredName]) _
  rw [enumDefinition, Enumeration.failure?, ← failureOf_requiredName]
  cases requiredName .ofEnum element.name with
  | error failure => rfl
  | ok name => exact (failureOf_map _ _).trans members

theorem failure_stringLiteralType (element : Enumeration) (options : StringLiteralOptions) :
    failureOf? (stringLiteralType element options) =
      missing? .ofStringLiteralType element.name := by
  rw [stringLiteralType, failureOf_map, failureOf_requiredName]

theorem failure_property (property : Property) (options : PropertyOptions) :
    failureOf? (resolver.propertyDefinition property decorators options) =
      missing? .ofProperty property.name := by
  rw [propertyDefinition, failureOf_map, failureOf_requiredName]

theorem failure_function (operation : Operation) (options : FunctionOptions) :
    failureOf? (resolver.functionDefinition operation options) = operation.failure? := by
  have parameters (inConstructor : Bool) (features : ParameterFeatures)
      (optionality : Optionality) : failureOf? (operation.parameters.mapM
        (resolver.parameterDefinition inConstructor features optionality)) =
          operation.parameters.findSome? fun parameter => missing? .ofParameter parameter.name :=
    failureOf_mapM
      (fun parameter => by rw [parameterDefinition, failureOf_map, failureOf_requiredName]) _
  have named : failureOf? (functionName operation) =
      if operation.isConstructor then none else missing? .ofFunction operation.name := by
    rw [functionName]
    split
    · rfl
    · rw [failureOf_map, failureOf_requiredName]
  rw [functionDefinition, Operation.failure?, ← named]
  exact failureOf_bind fun name => (failureOf_map _ _).trans (parameters _ _ _)

/-! ## Warnings of builds -/

/-- An element that has no name of its own is not looked at any further. -/
def namedWarnings (name : String) (legacyPrefix : Option String) : List Diagnostic :=
  if name.isEmpty then [] else prefixWarnings name legacyPrefix

theorem namedWarnings_eq (name : String) (legacyPrefix : Option String) :
    namedWarnings name legacyPrefix = [] ∨
      namedWarnings name legacyPrefix = [.deprecatedPrefix name] := by
  cases legacyPrefix with
  | none => simp [namedWarnings, prefixWarnings]
  | some text =>
    rw [namedWarnings, prefixWarnings]
    split
    · exact .inl rfl
    · split
      · exact .inl rfl
      · exact .inr rfl

theorem warnings_class (element : Class) (options : ClassOptions) :
    (resolver.classDefinition element decorators options).warnings =
      namedWarnings element.name options.legacyPrefix := by
  rw [classDefinition, requiredName, namedWarnings]
  cases element.name.isEmpty <;> rfl

theorem warnings_interface (element : Interface) (options : InterfaceOptions) :
    (resolver.interfaceDefinition element options).warnings =
      namedWarnings element.name options.legacyPrefix := by
  rw [interfaceDefinition, requiredName, namedWarnings]
  cases element.name.isEmpty <;> rfl

theorem warnings_enum (element : Enumeration) (options : EnumOptions) :
    (enumDefinition element options).warnings =
      namedWarnings element.name options.legacyPrefix := by
  rw [enumDefinition, requiredName, namedWarnings]
  cases element.name.isEmpty <;> rfl

end Resolver

/-! ## Failures of steps -/

namespace BuildAnswer

variable {κ : Type}

def failure? : BuildAnswer κ → Option BuildFailure
  | .failed failure => some failure
  | _ => none

theorem failure_ofResult {α : Type} (kind : α → Definition κ) (outcome : Except BuildFailure α) :
    (ofResult kind outcome).failure? = failureOf? outcome := by
  cases outcome <;> rfl

end BuildAnswer

def BuildStep.failure? {κ : Type} : BuildStep κ → Option BuildFailure
  | .ofClass element _ _ => missing? .ofClass element.name
  | .ofInterface element _ => missing? .ofInterface element.name
  | .ofEnum element _ => element.failure?
  | .ofStringLiteralType element _ => missing? .ofStringLiteralType element.name
  | .ofProperty element _ _ => missing? .ofProperty element.name
  | .ofFunction element _ => element.failure?
  | _ => none

theorem BuildStep.failure_run {κ : Type} (request : BuildStep κ) (builder : Builder) :
    (request.run builder).1.failure? = request.failure? := by
  cases request with
  | ofClass element decorators options =>
    exact (BuildAnswer.failure_ofResult _ _).trans (Resolver.failure_class _ _ _ _)
  | ofInterface element options =>
    exact (BuildAnswer.failure_ofResult _ _).trans (Resolver.failure_interface _ _ _)
  | ofEnum element options =>
    exact (BuildAnswer.failure_ofResult _ _).trans (Resolver.failure_enum _ _)
  | ofStringLiteralType element options =>
    exact (BuildAnswer.failure_ofResult _ _).trans (Resolver.failure_stringLiteralType _ _)
  | ofProperty element decorators options =>
    exact (BuildAnswer.failure_ofResult _ _).trans (Resolver.failure_property _ _ _ _)
  | ofFunction element options =>
    exact (BuildAnswer.failure_ofResult _ _).trans (Resolver.failure_function _ _ _)
  | typeName | fallbackTypeName | diagnostics | takeDiagnostics => rfl

def StepResult.failure? : StepResult → Option BuildFailure
  | .failed failure => some failure
  | .answered answer => answer.failure?
  | _ => none

theorem Performed.failure_ofWrite {α : Type} (contents : α → Option (List Answer))
    (written : Except BuildFailure α × Writer) :
    (ofWrite contents written).result.failure? = failureOf? written.1 := by
  rw [ofWrite]
  cases written.1 <;> rfl

def Step.failure? : Step → Option BuildFailure
  | .writeClass element _ _ _ => missing? .ofClass element.name
  | .writeInterface element _ _ => missing? .ofInterface element.name
  | .writeEnumeration element _ => element.failure?
  | .writeProperty element _ _ => missing? .ofProperty element.name
  | .writeFunction element _ _ => element.failure?
  | .build request => request.failure?
  | _ => none

namespace Writer

variable {β : Type} (writer : Writer) (decorators : List (Decorator Callback))
  (contents : Writer → β × Writer)

theorem failure_writeClass (element : Class) (options : ClassOptions) :
    failureOf? (writer.writeClass element decorators options contents).1 =
      missing? .ofClass element.name := by
  rw [← Resolver.failure_class writer.builder.resolver decorators element options, writeClass]
  cases (writer.builder.resolver.classDefinition element decorators options).result <;> rfl

theorem failure_writeInterface (element : Interface) (options : InterfaceOptions) :
    failureOf? (writer.writeInterface element options contents).1 =
      missing? .ofInterface element.name := by
  rw [← Resolver.failure_interface writer.builder.resolver element options, writeInterface]
  cases (writer.builder.resolver.interfaceDefinition element options).result <;> rfl

theorem failure_writeEnumeration (element : Enumeration) (options : EnumOptions) :
    failureOf? (writer.writeEnumeration element options).1 = element.failure? := by
  rw [← Resolver.failure_enum element options, writeEnumeration]
  cases (Resolver.enumDefinition element options).result <;> rfl

theorem failure_writeProperty (element : Property) (options : PropertyOptions) :
    failureOf? (writer.writeProperty element decorators options).1 =
      missing? .ofProperty element.name := by
  rw [← Resolver.failure_property writer.builder.resolver decorators element options,
    writeProperty]
  cases writer.builder.resolver.propertyDefinition element decorators options <;> rfl

theorem failure_writeFunction (element : Operation) (options : FunctionOptions) :
    failureOf? (writer.writeFunction element options contents).1 = element.failure? := by
  rw [← Resolver.failure_function writer.builder.resolver element options, writeFunction]
  cases writer.builder.resolver.functionDefinition element options <;> rfl

end Writer

/-- A step fails on every writer or on none, always with the same failure. -/
theorem Step.failure_perform (step : Step) (writer : Writer) :
    (step.perform writer).result.failure? = step.failure? := by
  cases step with
  | writeClass element decorators options contents =>
    rw [perform, Performed.failure_ofWrite, Writer.failure_writeClass, failure?]
  | writeInterface element options contents =>
    rw [perform, Performed.failure_ofWrite, Writer.failure_writeInterface, failure?]
  | writeEnumeration element options =>
    rw [perform, Performed.failure_ofWrite, Writer.failure_writeEnumeration, failure?]
  | writeProperty element decorators options =>
    rw [perform, Performed.failure_ofWrite, Writer.failure_writeProperty, failure?]
  | writeFunction element options contents =>
    rw [perform, Performed.failure_ofWrite, Writer.failure_writeFunction, failure?]
  | build request =>
    rw [perform, failure?]
    exact request.failure_run _
  | classBlock definition contents =>
    cases definition <;> (rw [perform]; rfl)
  | interfaceBlock definition contents =>
    cases definition <;> (rw [perform]; rfl)
  | functionBlock definition contents =>
    cases definition <;> (rw [perform]; rfl)
  | _ => rw [perform]; rfl

/-! ## Failed writes -/

/-- A write of a model element, with the contents that run if it does not fail. -/
inductive ElementWrite (β : Type) where
  | ofClass (element : Class) (decorators : List (Decorator Callback)) (options : ClassOptions)
      (contents : Writer → β × Writer)
  | ofInterface (element : Interface) (options : InterfaceOptions)
      (contents : Writer → β × Writer)
  | ofEnumeration (element : Enumeration) (options : EnumOptions)
  | ofProperty (element : Property) (decorators : List (Decorator Callback))
      (options : PropertyOptions)
  | ofFunction (element : Operation) (options : FunctionOptions)
      (contents : Writer → β × Writer)

def Writer.warned (warnings : List Diagnostic) (writer : Writer) : Writer :=
  { writer with
    builder := { writer.builder with pending := writer.builder.pending ++ warnings } }

theorem Writer.warned_nil (writer : Writer) : writer.warned [] = writer := by
  rw [warned, List.append_nil]

namespace ElementWrite

variable {β γ : Type}

def perform (writer : Writer) : ElementWrite β → Option BuildFailure × Writer
  | .ofClass element decorators options contents =>
    (writer.writeClass element decorators options contents).map failureOf? id
  | .ofInterface element options contents =>
    (writer.writeInterface element options contents).map failureOf? id
  | .ofEnumeration element options =>
    (writer.writeEnumeration element options).map failureOf? id
  | .ofProperty element decorators options =>
    (writer.writeProperty element decorators options).map failureOf? id
  | .ofFunction element options contents =>
    (writer.writeFunction element options contents).map failureOf? id

def withContents (contents : Writer → γ × Writer) : ElementWrite β → ElementWrite γ
  | .ofClass element decorators options _ => .ofClass element decorators options contents
  | .ofInterface element options _ => .ofInterface element options contents
  | .ofEnumeration element options => .ofEnumeration element options
  | .ofProperty element decorators options => .ofProperty element decorators options
  | .ofFunction element options _ => .ofFunction element options contents

def failure? : ElementWrite β → Option BuildFailure
  | .ofClass element _ _ _ => missing? .ofClass element.name
  | .ofInterface element _ _ => missing? .ofInterface element.name
  | .ofEnumeration element _ => element.failure?
  | .ofProperty element _ _ => missing? .ofProperty element.name
  | .ofFunction element _ _ => element.failure?

/-- The warnings that a write leaves behind if it fails. -/
def leftover : ElementWrite β → List Diagnostic
  | .ofEnumeration element options => Resolver.namedWarnings element.name options.legacyPrefix
  | .ofClass _ _ _ _ | .ofInterface _ _ _ | .ofProperty _ _ _ | .ofFunction _ _ _ => []

theorem failure_perform (write : ElementWrite β) (writer : Writer) :
    (write.perform writer).1 = write.failure? := by
  cases write with
  | ofClass element decorators options contents => exact writer.failure_writeClass _ _ _ _
  | ofInterface element options contents => exact writer.failure_writeInterface _ _ _
  | ofEnumeration element options => exact writer.failure_writeEnumeration _ _
  | ofProperty element decorators options => exact writer.failure_writeProperty _ _ _
  | ofFunction element options contents => exact writer.failure_writeFunction _ _ _

theorem failure_withContents (write : ElementWrite β) (contents : Writer → γ × Writer) :
    (write.withContents contents).failure? = write.failure? := by
  cases write <;> rfl

theorem leftover_withContents (write : ElementWrite β) (contents : Writer → γ × Writer) :
    (write.withContents contents).leftover = write.leftover := by
  cases write <;> rfl

variable {write : ElementWrite β} {failure : BuildFailure}

theorem writer_of_failed (failed : write.failure? = some failure) (writer : Writer) :
    (write.perform writer).2 = writer.warned write.leftover := by
  cases write with
  | ofClass element decorators options contents =>
    have unnamed : element.name.isEmpty = true := (missing_eq_some.mp failed).1
    have built := failureOf_eq_some.mp
      ((Resolver.failure_class writer.builder.resolver decorators element options).trans failed)
    have quiet : (writer.builder.resolver.classDefinition element decorators options).warnings =
        [] := by
      rw [Resolver.warnings_class, Resolver.namedWarnings, unnamed, if_pos rfl]
    rw [leftover, ← quiet]
    simp only [perform, Prod.map, Writer.writeClass, built, id]
    rfl
  | ofInterface element options contents =>
    have unnamed : element.name.isEmpty = true := (missing_eq_some.mp failed).1
    have built := failureOf_eq_some.mp
      ((Resolver.failure_interface writer.builder.resolver element options).trans failed)
    have quiet : (writer.builder.resolver.interfaceDefinition element options).warnings = [] := by
      rw [Resolver.warnings_interface, Resolver.namedWarnings, unnamed, if_pos rfl]
    rw [leftover, ← quiet]
    simp only [perform, Prod.map, Writer.writeInterface, built, id]
    rfl
  | ofEnumeration element options =>
    have built := failureOf_eq_some.mp ((Resolver.failure_enum element options).trans failed)
    rw [leftover, ← Resolver.warnings_enum element options]
    simp only [perform, Prod.map, Writer.writeEnumeration, built, id]
    rfl
  | ofProperty element decorators options =>
    have built := failureOf_eq_some.mp
      ((Resolver.failure_property writer.builder.resolver decorators element options).trans failed)
    rw [leftover, Writer.warned_nil]
    simp only [perform, Prod.map, Writer.writeProperty, built, id]
  | ofFunction element options contents =>
    have built := failureOf_eq_some.mp
      ((Resolver.failure_function writer.builder.resolver element options).trans failed)
    rw [leftover, Writer.warned_nil]
    simp only [perform, Prod.map, Writer.writeFunction, built, id]

theorem leftover_of_failed (failed : write.failure? = some failure) :
    write.leftover = [] ∨ ∃ element options, write = .ofEnumeration element options ∧
      failure = .missingName .ofEnumMember ∧
      write.leftover = [.deprecatedPrefix element.name] := by
  cases write with
  | ofEnumeration element options =>
    cases named : element.name.isEmpty with
    | true => exact .inl (by rw [leftover, Resolver.namedWarnings, named, if_pos rfl])
    | false =>
      have inLiteral : (element.literals.findSome? fun literal =>
          missing? .ofEnumMember literal.name) = some failure := by
        simpa [failure?, Enumeration.failure?, missing?, named] using failed
      obtain ⟨literal, -, unnamed⟩ := List.exists_of_findSome?_eq_some inLiteral
      rcases Resolver.namedWarnings_eq element.name options.legacyPrefix with unwarned | one
      · exact .inl unwarned
      · exact .inr ⟨element, options, rfl, (missing_eq_some.mp unnamed).2, one⟩
  | _ => exact .inl rfl

end ElementWrite

/-- A failed write leaves no text and runs no contents, and its only warning is one about the prefix
of an enumeration that has an unnamed literal. -/
theorem failed_writes_leave_only_warnings {β : Type} {write : ElementWrite β} {writer : Writer}
    {failure : BuildFailure} (failed : (write.perform writer).1 = some failure) :
    (write.perform writer).2 = writer.warned write.leftover ∧
      (write.leftover = [] ∧ (write.perform writer).2 = writer ∨
        ∃ element options, write = .ofEnumeration element options ∧
          failure = .missingName .ofEnumMember ∧
          write.leftover = [.deprecatedPrefix element.name]) ∧
      ∀ (γ : Type) (contents : Writer → γ × Writer),
        (write.withContents contents).perform writer = write.perform writer := by
  rw [write.failure_perform] at failed
  have left := ElementWrite.writer_of_failed failed writer
  refine ⟨left, ?_, fun γ contents => Prod.ext ?_ ?_⟩
  · rcases ElementWrite.leftover_of_failed failed with unwarned | warned
    · exact .inl ⟨unwarned, by rw [left, unwarned, Writer.warned_nil]⟩
    · exact .inr warned
  · rw [ElementWrite.failure_perform, ElementWrite.failure_perform, write.failure_withContents]
  · rw [← write.failure_withContents contents] at failed
    rw [ElementWrite.writer_of_failed failed, left, write.leftover_withContents]

theorem unnamed_class_leaves_nothing :
    let write : ElementWrite Unit :=
      .ofClass { name := "" } [] { legacyPrefix := some "export" }
        fun writer => ((), (writer.line "x").shallower)
    (write.perform {}).1 = some (.missingName .ofClass) ∧ (write.perform {}).2 = {} := by
  intro write
  have failed : (write.perform {}).1 = some (.missingName .ofClass) := rfl
  have left := (failed_writes_leave_only_warnings failed).1
  exact ⟨failed, by rw [left]; exact Writer.warned_nil {}⟩

/-- The prefix is migrated before the literals are looked at. -/
theorem unnamed_literal_leaves_warning :
    let write : ElementWrite Unit :=
      .ofEnumeration { name := "E", literals := [{ name := "" }] }
        { legacyPrefix := some "export" }
    (write.perform {}).1 = some (.missingName .ofEnumMember) ∧
      (write.perform {}).2.builder.pending = [.deprecatedPrefix "E"] ∧
      (write.perform {}).2 ≠ {} := by
  intro write
  have pending : (write.perform {}).2.builder.pending = [.deprecatedPrefix "E"] := rfl
  refine ⟨rfl, pending, fun same => ?_⟩
  rw [same] at pending
  cases pending

end Typescribe
