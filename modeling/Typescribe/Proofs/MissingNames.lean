import Typescribe.Proofs.Failures
/-!
# Builds and the names of their elements

A build fails exactly if a name is missing that it needs: that of the element, which comes first,
or that of a part. Constructors need no name of their own, but every parameter needs one, the one
of the result as well. The literals of a string literal type may be unnamed. A build that does not
fail keeps the names, those of the parts in order.
-/
set_option autoImplicit false

namespace Typescribe

variable {κ : Type}

/-- It reports what the missing name is of, or is a definition that keeps what it should. -/
structure BuildAnswer.FailsExactly {α : Type} (answer : BuildAnswer κ) (isMissing : Prop)
    (reported : Named) (kind : α → Definition κ) (keeps : α → Prop) : Prop where
  fails_iff : (∃ failure, answer = .failed failure) ↔ isMissing
  reports : ∀ failure, answer = .failed failure → failure = .missingName reported
  builds : ¬ isMissing → ∃ definition, answer = .built (kind definition) ∧ keeps definition

theorem failsExactly_of_result {α : Type} {result : Except BuildFailure α} {isMissing : Prop}
    {reported : Named} (kind : α → Definition κ) {keeps : α → Prop}
    (fails : ∀ failure, failureOf? result = some failure ↔
      isMissing ∧ failure = .missingName reported)
    (kept : ∀ definition, result = .ok definition → keeps definition) :
    (BuildAnswer.ofResult kind result).FailsExactly isMissing reported kind keeps := by
  cases result with
  | error failure =>
    obtain ⟨missing, isReported⟩ := (fails failure).mp rfl
    refine ⟨iff_of_true ⟨failure, rfl⟩ missing, ?_, fun present => absurd missing present⟩
    rintro _ ⟨⟩
    exact isReported
  | ok definition =>
    have present : ¬ isMissing := by
      intro missing
      exact nomatch (fails (.missingName reported)).mpr ⟨missing, rfl⟩
    refine ⟨iff_of_false (by rintro ⟨_, ⟨⟩⟩) present, nofun, fun _ => ?_⟩
    exact ⟨definition, rfl, kept definition rfl⟩

/-! ## The first missing name -/

theorem missing_eq_some_iff {element : Named} {name : String} (failure : BuildFailure) :
    missing? element name = some failure ↔ name = "" ∧ failure = .missingName element := by
  rw [missing_eq_some, String.isEmpty_iff]

theorem Operation.missing_own_eq_some_iff (operation : Operation) (failure : BuildFailure) :
    (if operation.isConstructor then none else missing? .ofFunction operation.name) =
        some failure ↔
      (operation.isConstructor = false ∧ operation.name = "") ∧
        failure = .missingName .ofFunction := by
  cases operation.isConstructor with
  | true => simp
  | false => simp [missing_eq_some_iff]

theorem findSome_missing_eq_some_iff {α : Type} {part : Named} {name : α → String}
    (items : List α) (failure : BuildFailure) :
    (items.findSome? fun item => missing? part (name item)) = some failure ↔
      (∃ item ∈ items, name item = "") ∧ failure = .missingName part := by
  induction items with
  | nil => simp
  | cons item items ih =>
    rw [List.findSome?_cons]
    simp only [List.mem_cons, exists_eq_or_imp]
    by_cases unnamed : name item = ""
    · have first := (missing_eq_some_iff (.missingName part)).mpr ⟨unnamed, rfl⟩
      rw [first, Option.some_inj, and_iff_right (.inl unnamed), eq_comm]
    · have skipped : missing? part (name item) = none := by simp [missing?, unnamed]
      rw [skipped, or_iff_right unnamed]
      exact ih

/-- The own name of an element comes before those of its parts. -/
theorem or_missing_eq_some_iff {α : Type} {own : Option BuildFailure} {isMissing : Prop}
    [Decidable isMissing] {element part : Named} {name : α → String} {items : List α}
    (fails : ∀ failure, own = some failure ↔ isMissing ∧ failure = .missingName element)
    (failure : BuildFailure) :
    own.or (items.findSome? fun item => missing? part (name item)) = some failure ↔
      (isMissing ∨ ∃ item ∈ items, name item = "") ∧
        failure = .missingName (if isMissing then element else part) := by
  by_cases missing : isMissing
  · rw [(fails _).mpr ⟨missing, rfl⟩, Option.some_or, Option.some_inj, if_pos missing,
      and_iff_right (.inl missing), eq_comm]
  · have named : own = none := by
      rw [Option.eq_none_iff_forall_ne_some]
      intro failure isFailure
      exact missing ((fails failure).mp isFailure).1
    rw [named, Option.none_or, findSome_missing_eq_some_iff, if_neg missing, or_iff_right missing]

/-! ## Names that are kept -/

namespace Resolver

variable {resolver : Resolver}

theorem name_of_class {element : Class} {decorators : List (Decorator κ)} {options : ClassOptions}
    {definition : ClassDefinition κ}
    (built : (resolver.classDefinition element decorators options).result = .ok definition) :
    definition.name = element.name := by
  rw [classDefinition] at built
  split at built
  · cases built
  · next name isName =>
    cases built
    exact eq_of_requiredName isName

theorem name_of_interface {element : Interface} {options : InterfaceOptions}
    {definition : InterfaceDefinition}
    (built : (resolver.interfaceDefinition element options).result = .ok definition) :
    definition.name = element.name := by
  rw [interfaceDefinition] at built
  split at built
  · cases built
  · next name isName =>
    cases built
    exact eq_of_requiredName isName

theorem names_of_enum {element : Enumeration} {options : EnumOptions}
    {definition : EnumDefinition}
    (built : (enumDefinition element options).result = .ok definition) :
    definition.name = element.name ∧
      definition.members.map EnumMember.name = element.literals.map EnumLiteral.name := by
  rw [enumDefinition] at built
  split at built
  · cases built
  · next name isName =>
    obtain ⟨members, isMembers, rfl⟩ := exists_of_map_eq_ok built
    refine ⟨eq_of_requiredName isName, map_eq_of_mapM_eq_ok ?_ isMembers⟩
    intro literal member isMember
    obtain ⟨name, isName, rfl⟩ := exists_of_map_eq_ok isMember
    exact eq_of_requiredName isName

theorem names_of_stringLiteralType {element : Enumeration} {options : StringLiteralOptions}
    {definition : StringLiteralType} (built : stringLiteralType element options = .ok definition) :
    definition.name = element.name ∧
      definition.literals = element.literals.map EnumLiteral.name := by
  obtain ⟨name, isName, rfl⟩ := exists_of_map_eq_ok built
  exact ⟨eq_of_requiredName isName, rfl⟩

theorem name_of_property {element : Property} {decorators : List (Decorator κ)}
    {options : PropertyOptions} {definition : PropertyDefinition κ}
    (built : resolver.propertyDefinition element decorators options = .ok definition) :
    definition.name = element.name := by
  obtain ⟨name, isName, rfl⟩ := exists_of_map_eq_ok built
  exact eq_of_requiredName isName

theorem eq_of_functionName {operation : Operation} {given : Option String}
    (isOk : functionName operation = .ok given) :
    given = if operation.isConstructor then none else some operation.name := by
  rw [functionName] at isOk
  split at isOk
  · next kind =>
    rw [if_pos kind]
    exact (Except.ok.inj isOk).symm
  · next kind =>
    obtain ⟨name, isName, rfl⟩ := exists_of_map_eq_ok isOk
    rw [if_neg kind, eq_of_requiredName isName]

theorem names_of_function {operation : Operation} {options : FunctionOptions}
    {definition : FunctionDefinition}
    (built : resolver.functionDefinition operation options = .ok definition) :
    definition.name = (if operation.isConstructor then none else some operation.name) ∧
      definition.parameters.map ParameterDefinition.name =
        operation.parameters.map Parameter.name := by
  rw [functionDefinition] at built
  obtain ⟨name, isName, isDefinition⟩ := exists_of_bind_eq_ok built
  obtain ⟨parameters, isParameters, rfl⟩ := exists_of_map_eq_ok isDefinition
  refine ⟨eq_of_functionName isName, map_eq_of_mapM_eq_ok ?_ isParameters⟩
  · intro parameter definition isDefinition
    obtain ⟨name, isName, rfl⟩ := exists_of_map_eq_ok isDefinition
    exact eq_of_requiredName isName

end Resolver

/-- A build fails exactly if a name that it needs is missing, and reports the own name of its
element first; otherwise it keeps all names in order. -/
theorem builds_fail_exactly_on_missing_names (builder : Builder) :
    (∀ (element : Class) (decorators : List (Decorator κ)) (options : ClassOptions),
      ((BuildStep.ofClass element decorators options).run builder).1.FailsExactly
        (element.name = "") .ofClass
        .ofClass fun definition => definition.name = element.name) ∧
    (∀ (element : Interface) (options : InterfaceOptions),
      ((.ofInterface element options : BuildStep κ).run builder).1.FailsExactly
        (element.name = "") .ofInterface
        .ofInterface fun definition => definition.name = element.name) ∧
    (∀ (element : Enumeration) (options : EnumOptions),
      ((.ofEnum element options : BuildStep κ).run builder).1.FailsExactly
        (element.name = "" ∨ ∃ literal ∈ element.literals, literal.name = "")
        (if element.name = "" then .ofEnum else .ofEnumMember)
        .ofEnum fun definition => definition.name = element.name ∧
          definition.members.map EnumMember.name = element.literals.map EnumLiteral.name) ∧
    (∀ (element : Enumeration) (options : StringLiteralOptions),
      ((.ofStringLiteralType element options : BuildStep κ).run builder).1.FailsExactly
        (element.name = "") .ofStringLiteralType
        .ofStringLiteralType fun definition => definition.name = element.name ∧
          definition.literals = element.literals.map EnumLiteral.name) ∧
    (∀ (element : Property) (decorators : List (Decorator κ)) (options : PropertyOptions),
      ((BuildStep.ofProperty element decorators options).run builder).1.FailsExactly
        (element.name = "") .ofProperty
        .ofProperty fun definition => definition.name = element.name) ∧
    ∀ (operation : Operation) (options : FunctionOptions),
      ((.ofFunction operation options : BuildStep κ).run builder).1.FailsExactly
        (operation.isConstructor = false ∧ operation.name = "" ∨
          ∃ parameter ∈ operation.parameters, parameter.name = "")
        (if operation.isConstructor = false ∧ operation.name = "" then .ofFunction
          else .ofParameter)
        .ofFunction fun definition =>
          definition.name = (if operation.isConstructor then none else some operation.name) ∧
          definition.parameters.map ParameterDefinition.name =
            operation.parameters.map Parameter.name := by
  refine ⟨?_, ?_, ?_, ?_, ?_, ?_⟩
  · intro element decorators options
    refine failsExactly_of_result _ (fun failure => ?_) fun definition => Resolver.name_of_class
    rw [Resolver.failure_class, missing_eq_some_iff]
  · intro element options
    refine failsExactly_of_result _ (fun failure => ?_) fun definition =>
      Resolver.name_of_interface
    rw [Resolver.failure_interface, missing_eq_some_iff]
  · intro element options
    refine failsExactly_of_result _ (fun failure => ?_) fun definition => Resolver.names_of_enum
    rw [Resolver.failure_enum, Enumeration.failure?]
    exact or_missing_eq_some_iff missing_eq_some_iff failure
  · intro element options
    refine failsExactly_of_result _ (fun failure => ?_) fun definition =>
      Resolver.names_of_stringLiteralType
    rw [Resolver.failure_stringLiteralType, missing_eq_some_iff]
  · intro element decorators options
    refine failsExactly_of_result _ (fun failure => ?_) fun definition => Resolver.name_of_property
    rw [Resolver.failure_property, missing_eq_some_iff]
  · intro operation options
    refine failsExactly_of_result _ (fun failure => ?_) fun definition =>
      Resolver.names_of_function
    rw [Resolver.failure_function, Operation.failure?]
    exact or_missing_eq_some_iff operation.missing_own_eq_some_iff failure

/-- The result of a constructor is never written, but it needs a name. -/
example :
    let constructor : Operation :=
      { Operation.constructor with name := "", parameters := [{ name := "", direction := .result }] }
    ((.ofFunction constructor {} : BuildStep Unit).run {}).1 =
      .failed (.missingName .ofParameter) := rfl

end Typescribe
