import Typescribe.Proofs.Optionality
/-!
# What each feature governs

A feature decides about its own fields of a definition and about no others. So two feature sets
build definitions that agree on every field that is governed by none of the features on which the
sets differ; bits without a name govern nothing.
-/
set_option autoImplicit false

namespace Typescribe

variable {κ : Type}

namespace FlagSet

variable {names : List String}

def AgreeOn (first second : FlagSet names) (flags : List String) : Prop :=
  ∀ flag ∈ flags, first.Holds flag ↔ second.Holds flag

instance (set : FlagSet names) (name : String) : Decidable (set.Holds name) :=
  inferInstanceAs (Decidable (name ∈ set.heldNames))

instance (first second : FlagSet names) (flags : List String) :
    Decidable (first.AgreeOn second flags) :=
  inferInstanceAs (Decidable (∀ flag ∈ flags, first.Holds flag ↔ second.Holds flag))

/-- The values are the same, unless the sets differ on a flag that governs the field. -/
def SameUnless {α : Type} (first second : FlagSet names) (flags : List String)
    (left right : α) : Prop :=
  first.AgreeOn second flags → left = right

theorem AgreeOn.has_eq {first second : FlagSet names} {flags : List String}
    (agree : first.AgreeOn second flags) {flag : String} (member : flag ∈ flags)
    (distinct : names.Nodup) {position : Nat} (isName : names[position]? = some flag) :
    first.has position = second.has position := by
  rw [Bool.eq_iff_iff, ← holds_iff distinct isName, ← holds_iff distinct isName]
  exact agree flag member

end FlagSet

/-! ## Fields and the features that govern them -/

structure ClassDefinition.Governed (first second : ClassFeatures)
    (left right : ClassDefinition κ) : Prop where
  name : left.name = right.name
  description : first.SameUnless second ["JS_DOC_DESCRIPTION"] left.description right.description
  isExported : left.isExported = right.isExported
  isDeclared : left.isDeclared = right.isDeclared
  decorators : left.decorators = right.decorators
  isAbstract : left.isAbstract = right.isAbstract
  parents : first.SameUnless second ["GENERALIZATIONS"] left.parents right.parents
  contracts : first.SameUnless second ["INTERFACE_REALIZATIONS"] left.contracts right.contracts

structure InterfaceDefinition.Governed (first second : InterfaceFeatures)
    (left right : InterfaceDefinition) : Prop where
  name : left.name = right.name
  description : first.SameUnless second ["JS_DOC_DESCRIPTION"] left.description right.description
  isExported : left.isExported = right.isExported
  isDeclared : left.isDeclared = right.isDeclared
  parents : first.SameUnless second ["GENERALIZATIONS"] left.parents right.parents

structure EnumMember.Governed (first second : EnumFeatures) (left right : EnumMember) :
    Prop where
  name : left.name = right.name
  description : first.SameUnless second ["JS_DOC_DESCRIPTION"] left.description right.description
  value : first.SameUnless second ["INITIALIZERS"] left.value right.value

structure EnumDefinition.Governed (first second : EnumFeatures) (left right : EnumDefinition) :
    Prop where
  name : left.name = right.name
  description : first.SameUnless second ["JS_DOC_DESCRIPTION"] left.description right.description
  isExported : left.isExported = right.isExported
  isDeclared : left.isDeclared = right.isDeclared
  isConst : left.isConst = right.isConst
  members : List.Forall₂ (EnumMember.Governed first second) left.members right.members

structure PropertyDefinition.Governed (first second : PropertyFeatures)
    (left right : PropertyDefinition κ) : Prop where
  name : left.name = right.name
  description : first.SameUnless second ["JS_DOC_DESCRIPTION"] left.description right.description
  typeName : left.typeName = right.typeName
  isMultivalued : left.isMultivalued = right.isMultivalued
  access : first.SameUnless second ["ACCESS_MODIFIER"] left.access right.access
  isReadonly : first.SameUnless second ["READONLY_MODIFIER"] left.isReadonly right.isReadonly
  isStatic : left.isStatic = right.isStatic
  isOptional : first.SameUnless second ["OPTIONAL_MODIFIER"] left.isOptional right.isOptional
  usesQuestionToken :
    first.SameUnless second ["OPTIONAL_MODIFIER"] left.usesQuestionToken right.usesQuestionToken
  hasNullUnion :
    first.SameUnless second ["OPTIONAL_MODIFIER"] left.hasNullUnion right.hasNullUnion
  usesDefiniteAssignment :
    first.SameUnless second
      ["OPTIONAL_MODIFIER", "INITIALIZER", "DEFINITE_ASSIGNMENT_ASSERTION_MODIFIER"]
      left.usesDefiniteAssignment right.usesDefiniteAssignment
  defaultValue :
    first.SameUnless second ["OPTIONAL_MODIFIER", "INITIALIZER"] left.defaultValue
      right.defaultValue
  decorators : left.decorators = right.decorators

structure ParameterDefinition.Governed (first second : ParameterFeatures)
    (left right : ParameterDefinition) : Prop where
  name : left.name = right.name
  description : first.SameUnless second ["JS_DOC_DESCRIPTION"] left.description right.description
  typeName : left.typeName = right.typeName
  isMultivalued : left.isMultivalued = right.isMultivalued
  isOptional : first.SameUnless second ["OPTIONAL_MODIFIER"] left.isOptional right.isOptional
  isResult : left.isResult = right.isResult
  usesQuestionToken :
    first.SameUnless second ["OPTIONAL_MODIFIER"] left.usesQuestionToken right.usesQuestionToken
  hasNullUnion :
    first.SameUnless second ["OPTIONAL_MODIFIER"] left.hasNullUnion right.hasNullUnion
  access : left.access = right.access
  inDocs : first.SameUnless second ["JS_DOC_DESCRIPTION"] left.inDocs right.inDocs

/-- The features of the function come first, and those of its parameters second. -/
structure FunctionDefinition.Governed (first second : FunctionFeatures × ParameterFeatures)
    (left right : FunctionDefinition) : Prop where
  name : left.name = right.name
  description :
    first.1.SameUnless second.1 ["JS_DOC_DESCRIPTION"] left.description right.description
  access : first.1.SameUnless second.1 ["ACCESS_MODIFIER"] left.access right.access
  isAbstract : left.isAbstract = right.isAbstract
  isStatic : left.isStatic = right.isStatic
  isConstructor : left.isConstructor = right.isConstructor
  returnTypeName : left.returnTypeName = right.returnTypeName
  returnsMultivalued : left.returnsMultivalued = right.returnsMultivalued
  returnsOptional :
    first.1.SameUnless second.1 ["OPTIONAL_MODIFIER"] left.returnsOptional right.returnsOptional
  returnUsesQuestionToken :
    first.1.SameUnless second.1 ["OPTIONAL_MODIFIER"] left.returnUsesQuestionToken
      right.returnUsesQuestionToken
  returnHasNullUnion :
    first.1.SameUnless second.1 ["OPTIONAL_MODIFIER"] left.returnHasNullUnion
      right.returnHasNullUnion
  parameters :
    List.Forall₂ (ParameterDefinition.Governed first.2 second.2) left.parameters right.parameters
  multiLineSignature : left.multiLineSignature = right.multiLineSignature

/-! ## Two builds of one element -/

/-- A build succeeds with either of two feature sets, and the definitions are related. -/
def BuildsAlike {Features α : Type} (build : Features → Except BuildFailure α)
    (first second : Features) (related : α → α → Prop) : Prop :=
  ∃ left right, build first = .ok left ∧ build second = .ok right ∧ related left right

theorem buildsAlike_mapM {Features α β : Type} {build : Features → α → Except BuildFailure β}
    {first second : Features} {related : β → β → Prop} {items : List α}
    (each : ∀ item ∈ items, BuildsAlike (build · item) first second related) :
    BuildsAlike (fun features => items.mapM (build features)) first second
      (List.Forall₂ related) := by
  induction items with
  | nil => exact ⟨[], [], rfl, rfl, .nil⟩
  | cons item items ih =>
    obtain ⟨left, right, isLeft, isRight, areRelated⟩ := each item (by simp)
    obtain ⟨lefts, rights, areLefts, areRights, othersRelated⟩ :=
      ih fun other member => each other (by simp [member])
    refine ⟨left :: lefts, right :: rights, ?_, ?_, .cons areRelated othersRelated⟩
    · simp only [List.mapM_cons, isLeft, areLefts]
      rfl
    · simp only [List.mapM_cons, isRight, areRights]
      rfl

namespace Resolver

variable (resolver : Resolver)

theorem class_builds_alike {element : Class} (named : element.name ≠ "")
    (decorators : List (Decorator κ)) (options : ClassOptions) (first second : ClassFeatures) :
    BuildsAlike (fun features => (resolver.classDefinition element decorators
        { options with features := some features }).result)
      first second (ClassDefinition.Governed first second) := by
  refine ⟨_, _, by simp only [classDefinition, requiredName_of_ne named]; rfl,
    by simp only [classDefinition, requiredName_of_ne named]; rfl, ?_⟩
  constructor
  case description =>
    intro agree
    have same : first.description = second.description := agree.has_eq (by simp) (by decide) rfl
    simp only [Option.getD_some, same]
  case parents =>
    intro agree
    have same : first.generalizations = second.generalizations :=
      agree.has_eq (by simp) (by decide) rfl
    simp only [Option.getD_some, same]
  case contracts =>
    intro agree
    have same : first.realizations = second.realizations :=
      agree.has_eq (by simp) (by decide) rfl
    simp only [Option.getD_some, same]
  all_goals rfl

theorem interface_builds_alike {element : Interface} (named : element.name ≠ "")
    (options : InterfaceOptions) (first second : InterfaceFeatures) :
    BuildsAlike (fun features => (resolver.interfaceDefinition element
        { options with features := some features }).result)
      first second (InterfaceDefinition.Governed first second) := by
  refine ⟨_, _, by simp only [interfaceDefinition, requiredName_of_ne named]; rfl,
    by simp only [interfaceDefinition, requiredName_of_ne named]; rfl, ?_⟩
  constructor
  case description =>
    intro agree
    have same : first.description = second.description := agree.has_eq (by simp) (by decide) rfl
    simp only [Option.getD_some, same]
  case parents =>
    intro agree
    have same : first.generalizations = second.generalizations :=
      agree.has_eq (by simp) (by decide) rfl
    simp only [Option.getD_some, same]
  all_goals rfl

theorem enumMember_builds_alike {literal : EnumLiteral} (named : literal.name ≠ "")
    (first second : EnumFeatures) :
    BuildsAlike (enumMember · literal) first second (EnumMember.Governed first second) := by
  refine ⟨_, _, by simp only [enumMember, requiredName_of_ne named]; rfl,
    by simp only [enumMember, requiredName_of_ne named]; rfl, ?_⟩
  constructor
  case name => rfl
  case description =>
    intro agree
    have same : first.description = second.description := agree.has_eq (by simp) (by decide) rfl
    simp only [same]
  case value =>
    intro agree
    have same : first.initializers = second.initializers := agree.has_eq (by simp) (by decide) rfl
    simp only [same]

theorem enum_builds_alike {element : Enumeration} (named : element.name ≠ "")
    (literalsNamed : ∀ literal ∈ element.literals, literal.name ≠ "") (options : EnumOptions)
    (first second : EnumFeatures) :
    BuildsAlike (fun features => (enumDefinition element
        { options with features := some features }).result)
      first second (EnumDefinition.Governed first second) := by
  obtain ⟨lefts, rights, areLefts, areRights, members⟩ :=
    buildsAlike_mapM fun literal member =>
      enumMember_builds_alike (literalsNamed literal member) first second
  refine ⟨_, _, by
      simp only [enumDefinition, requiredName_of_ne named, Option.getD_some, areLefts]
      rfl, by
      simp only [enumDefinition, requiredName_of_ne named, Option.getD_some, areRights]
      rfl, ?_⟩
  constructor
  case description =>
    intro agree
    have same : first.description = second.description := agree.has_eq (by simp) (by decide) rfl
    simp only [same]
  case members => exact members
  all_goals rfl

/-- The initializer depends on the optionality, and the assertion mark on the initializer, so
features of either govern what comes after them. -/
theorem property_builds_alike {property : Property} (named : property.name ≠ "")
    (decorators : List (Decorator κ)) (options : PropertyOptions)
    (first second : PropertyFeatures) :
    BuildsAlike (fun features => resolver.propertyDefinition property decorators
        { options with features := some features })
      first second (PropertyDefinition.Governed first second) := by
  have given (features : PropertyFeatures) :
      propertyFeatures property { options with features := some features } = features := rfl
  have optional {flags : List String} (agree : first.AgreeOn second flags)
      (member : "OPTIONAL_MODIFIER" ∈ flags) : first.optionalModifier = second.optionalModifier :=
    agree.has_eq member (by decide) rfl
  have initializer {flags : List String} (agree : first.AgreeOn second flags)
      (member : "INITIALIZER" ∈ flags) : first.initializer = second.initializer :=
    agree.has_eq member (by decide) rfl
  refine ⟨_, _, by simp only [propertyDefinition, requiredName_of_ne named]; rfl,
    by simp only [propertyDefinition, requiredName_of_ne named]; rfl, ?_⟩
  -- Rewritten, not unfolded: simp would give the two sides of a condition different instances.
  rw [given first, given second]
  constructor
  case description =>
    intro agree
    have same : first.description = second.description := agree.has_eq (by simp) (by decide) rfl
    simp only [same]
  case access =>
    intro agree
    have same : first.accessModifier = second.accessModifier :=
      agree.has_eq (by simp) (by decide) rfl
    simp only [same]
  case isReadonly =>
    intro agree
    have same : first.readonlyModifier = second.readonlyModifier :=
      agree.has_eq (by simp) (by decide) rfl
    simp only [same]
  case isOptional | usesQuestionToken | hasNullUnion =>
    intro agree
    simp only [optional agree (by simp)]
  case defaultValue =>
    intro agree
    simp only [optional agree (by simp), initializer agree (by simp)]
  case usesDefiniteAssignment =>
    intro agree
    have same : first.definiteAssignment = second.definiteAssignment :=
      agree.has_eq (by simp) (by decide) rfl
    simp only [same, optional agree (by simp), initializer agree (by simp)]
  all_goals rfl

theorem parameter_builds_alike {parameter : Parameter} (named : parameter.name ≠ "")
    (inConstructor : Bool) (optionality : Optionality) (first second : ParameterFeatures) :
    BuildsAlike (resolver.parameterDefinition inConstructor · optionality parameter) first second
      (ParameterDefinition.Governed first second) := by
  refine ⟨_, _, by simp only [parameterDefinition, requiredName_of_ne named]; rfl,
    by simp only [parameterDefinition, requiredName_of_ne named]; rfl, ?_⟩
  constructor
  case description | inDocs =>
    intro agree
    have same : first.description = second.description := agree.has_eq (by simp) (by decide) rfl
    simp only [same]
  case isOptional | usesQuestionToken | hasNullUnion =>
    intro agree
    have same : first.optionalModifier = second.optionalModifier :=
      agree.has_eq (by simp) (by decide) rfl
    simp only [same]
  all_goals rfl

theorem function_builds_alike {operation : Operation}
    (named : operation.isConstructor = false → operation.name ≠ "")
    (parametersNamed : ∀ parameter ∈ operation.parameters, parameter.name ≠ "")
    (options : FunctionOptions) (first second : FunctionFeatures × ParameterFeatures) :
    BuildsAlike (fun features => resolver.functionDefinition operation { options with
        features := some features.1, parameterFeatures := some features.2 })
      first second (FunctionDefinition.Governed first second) := by
  obtain ⟨lefts, rights, areLefts, areRights, parameters⟩ :=
    buildsAlike_mapM fun parameter member =>
      resolver.parameter_builds_alike (parametersNamed parameter member) operation.isConstructor
        (options.parameterOptionality.getD .questionToken) first.2 second.2
  refine ⟨_, _, by
      simp only [functionDefinition, functionName_of_named named, Except.bind, Option.getD_some,
        areLefts]
      rfl, by
      simp only [functionDefinition, functionName_of_named named, Except.bind, Option.getD_some,
        areRights]
      rfl, ?_⟩
  constructor
  case description =>
    intro agree
    have same : first.1.description = second.1.description :=
      agree.has_eq (by simp) (by decide) rfl
    simp only [same]
  case access =>
    intro agree
    have same : first.1.accessModifier = second.1.accessModifier :=
      agree.has_eq (by simp) (by decide) rfl
    simp only [same]
  case returnsOptional | returnUsesQuestionToken | returnHasNullUnion =>
    intro agree
    have same : first.1.optionalModifier = second.1.optionalModifier :=
      agree.has_eq (by simp) (by decide) rfl
    simp only [same]
  case parameters => exact parameters
  all_goals rfl

end Resolver

/-- Two builds under options that differ in their feature sets agree on every field that no
differing feature governs. -/
theorem features_govern_their_own_fields (resolver : Resolver) :
    (∀ (element : Class) (decorators : List (Decorator κ)) (options : ClassOptions)
      (first second : ClassFeatures), element.name ≠ "" →
      BuildsAlike (fun features => (resolver.classDefinition element decorators
          { options with features := some features }).result)
        first second (ClassDefinition.Governed first second)) ∧
    (∀ (element : Interface) (options : InterfaceOptions) (first second : InterfaceFeatures),
      element.name ≠ "" →
      BuildsAlike (fun features => (resolver.interfaceDefinition element
          { options with features := some features }).result)
        first second (InterfaceDefinition.Governed first second)) ∧
    (∀ (element : Enumeration) (options : EnumOptions) (first second : EnumFeatures),
      element.name ≠ "" → (∀ literal ∈ element.literals, literal.name ≠ "") →
      BuildsAlike (fun features => (Resolver.enumDefinition element
          { options with features := some features }).result)
        first second (EnumDefinition.Governed first second)) ∧
    (∀ (property : Property) (decorators : List (Decorator κ)) (options : PropertyOptions)
      (first second : PropertyFeatures), property.name ≠ "" →
      BuildsAlike (fun features => resolver.propertyDefinition property decorators
          { options with features := some features })
        first second (PropertyDefinition.Governed first second)) ∧
    ∀ (operation : Operation) (options : FunctionOptions)
      (first second : FunctionFeatures × ParameterFeatures),
      (operation.isConstructor = false → operation.name ≠ "") →
      (∀ parameter ∈ operation.parameters, parameter.name ≠ "") →
      BuildsAlike (fun features => resolver.functionDefinition operation { options with
          features := some features.1, parameterFeatures := some features.2 })
        first second (FunctionDefinition.Governed first second) := by
  refine ⟨?_, ?_, ?_, ?_, ?_⟩
  · intro element decorators options first second named
    exact resolver.class_builds_alike named decorators options first second
  · intro element options first second named
    exact resolver.interface_builds_alike named options first second
  · intro element options first second named literalsNamed
    exact Resolver.enum_builds_alike named literalsNamed options first second
  · intro property decorators options first second named
    exact resolver.property_builds_alike named decorators options first second
  · intro operation options first second named parametersNamed
    exact resolver.function_builds_alike named parametersNamed options first second

/-- A property that loses its optionality gets the assertion mark. -/
theorem optional_feature_spares_other_fields :
    let first : PropertyFeatures := .all
    let second : PropertyFeatures := ⟨0xF7⟩
    let property : Property := {
      name := "p", multiplicity := .optional, isReadOnly := true, visibility := some .pub }
    let literal : EnumLiteral := { name := "L", specification := some (.integer 1) }
    let operation : Operation := {
      name := "f", parameters := [{ name := "a", multiplicity := .optional }] }
    (∃ left right : PropertyDefinition Program,
      ({} : Resolver).propertyDefinition property [] { features := some first } = .ok left ∧
      ({} : Resolver).propertyDefinition property [] { features := some second } = .ok right ∧
      left.isReadonly = right.isReadonly ∧ left.access = right.access ∧
      (left.isOptional, left.usesDefiniteAssignment) = (true, false) ∧
      (right.isOptional, right.usesDefiniteAssignment) = (false, true)) ∧
    ("C" ≠ "" ∧ BuildsAlike (fun features => (({} : Resolver).classDefinition (.ofName "C")
        ([] : List (Decorator Program)) { features := some features }).result)
      .all ⟨0xFD⟩ (ClassDefinition.Governed .all ⟨0xFD⟩)) ∧
    BuildsAlike (fun features => (({} : Resolver).interfaceDefinition (.ofName "I")
        { features := some features }).result)
      .all ⟨0xFD⟩ (InterfaceDefinition.Governed .all ⟨0xFD⟩) ∧
    ((∀ given ∈ [literal], given.name ≠ "") ∧
      BuildsAlike (fun features => (Resolver.enumDefinition { name := "E", literals := [literal] }
          { features := some features }).result)
        .all ⟨0xFE⟩ (EnumDefinition.Governed .all ⟨0xFE⟩)) ∧
    (operation.isConstructor = false → operation.name ≠ "") ∧
    (∀ parameter ∈ operation.parameters, parameter.name ≠ "") ∧
    BuildsAlike (fun features => ({} : Resolver).functionDefinition operation {
        features := some features.1, parameterFeatures := some features.2 })
      (.all, .all) (⟨0xFC⟩, ⟨0xFE⟩) (FunctionDefinition.Governed (.all, .all) (⟨0xFC⟩, ⟨0xFE⟩)) := by
  intro first second property literal operation
  have literalsNamed : ∀ given ∈ [literal], given.name ≠ "" := by decide
  have operationNamed : operation.isConstructor = false → operation.name ≠ "" := by decide
  have parametersNamed : ∀ parameter ∈ operation.parameters, parameter.name ≠ "" := by decide
  obtain ⟨ofClass, ofInterface, ofEnum, ofProperty, ofFunction⟩ :=
    @features_govern_their_own_fields Program {}
  refine ⟨?_, ⟨by decide, ofClass _ _ {} _ _ (by decide)⟩, ofInterface _ {} _ _ (by decide),
    ⟨literalsNamed, ofEnum _ {} _ _ (by decide) literalsNamed⟩, operationNamed, parametersNamed,
    ofFunction _ {} _ _ operationNamed parametersNamed⟩
  obtain ⟨left, right, isLeft, isRight, governed⟩ :=
    ofProperty property [] {} first second (by decide)
  refine ⟨left, right, isLeft, isRight, governed.isReadonly ?_, governed.access ?_, ?_, ?_⟩
  · decide
  · decide
  · cases isLeft
    decide
  · cases isRight
    decide

end Typescribe
