import Typescribe.Proofs.Supplied
/-!
# Initializers fit their types

The initializer of a property is the value of the model, written for a single element of a
primitive type, or is made up. One that is made up fits the type that it is written with: `null`
stands where the type is a union with `null`, and every other one on a required element of the
type that it is a value of. An assertion mark is used only where there is none. Asking for more
initializers leaves those alone that are there already.
-/
set_option autoImplicit false

namespace Typescribe

variable {κ : Type}

def zeroValues : List (String × String) :=
  [("boolean", "false"), ("string", "''"), ("number", "0")]

namespace DefaultRequest

inductive Answer (request : DefaultRequest) : Option String → Prop
  | absent : Answer request none
  | ofModel {value : ValueSpec} (single : request.isMultivalued = false)
      (primitive : request.typeName ∈ zeroValues.map Prod.fst)
      (given : request.value = some value) : Answer request (some (render value))
  | null (optional : request.isOptional = true) (union : request.optionality.usesNull = true) :
      Answer request (some "null")
  | emptyList (required : request.isOptional = false) (many : request.isMultivalued = true) :
      Answer request (some "[]")
  | zero {text : String} (required : request.isOptional = false)
      (single : request.isMultivalued = false)
      (fits : (request.typeName, text) ∈ zeroValues) : Answer request (some text)

theorem mem_zeroValues_of_primitiveZero {typeName text : String}
    (isZero : primitiveZero? typeName = some text) : (typeName, text) ∈ zeroValues := by
  rw [primitiveZero?] at isZero
  split at isZero
  · next isBoolean => cases isZero; simp [zeroValues, isBoolean]
  split at isZero
  · next isString => cases isZero; simp [zeroValues, isString]
  split at isZero
  · next isNumber => cases isZero; simp [zeroValues, isNumber]
  · cases isZero

theorem isPrimitiveName_iff {typeName : String} :
    isPrimitiveName typeName = true ↔ typeName ∈ zeroValues.map Prod.fst := by
  simp [isPrimitiveName, zeroValues, or_assoc]

theorem answer_nullIfUsed {request : DefaultRequest} (optional : request.isOptional = true) :
    request.Answer request.nullIfUsed := by
  rw [nullIfUsed]
  split
  · next union => exact .null optional union
  · exact .absent

theorem answer_primitiveZero {request : DefaultRequest} (required : request.isOptional = false)
    (single : request.isMultivalued = false) :
    request.Answer (primitiveZero? request.typeName) := by
  cases isZero : primitiveZero? request.typeName with
  | none => exact .absent
  | some text => exact .zero required single (mem_zeroValues_of_primitiveZero isZero)

theorem answer_initializer (request : DefaultRequest) : request.Answer request.initializer := by
  cases many : request.isMultivalued with
  | true =>
    simp only [initializer, many, if_true]
    split
    · exact .absent
    · cases optional : request.isOptional with
      | true => exact answer_nullIfUsed optional
      | false => exact .emptyList optional many
  | false =>
    simp only [initializer, many, Bool.false_eq_true, if_false]
    split
    · next primitive =>
      split
      · next value given => exact .ofModel many (isPrimitiveName_iff.mp primitive) given
      · split
        · exact .absent
        · cases optional : request.isOptional with
          | true => exact answer_nullIfUsed optional
          | false => exact answer_primitiveZero optional many
    · cases optional : request.isOptional with
      | true => exact answer_nullIfUsed optional
      | false => exact .absent

theorem initializer_withValue {request : DefaultRequest}
    (foreign : request.isMultivalued = false →
      request.typeName ∉ zeroValues.map Prod.fst) (value : Option ValueSpec) :
    { request with value }.initializer = request.initializer := by
  cases many : request.isMultivalued with
  | true => simp only [initializer, many, if_true, nullIfUsed]
  | false =>
    have noPrimitive : isPrimitiveName request.typeName = false := by
      rw [Bool.eq_false_iff]
      exact fun primitive => foreign many (isPrimitiveName_iff.mp primitive)
    simp only [initializer, many, noPrimitive, Bool.false_eq_true, if_false, nullIfUsed]

theorem initializer_askingMore {request : DefaultRequest} {text : String}
    (given : request.initializer = some text) (primitive array : Bool) :
    { request with
      initializePrimitive := request.initializePrimitive || primitive
      initializeArray := request.initializeArray || array }.initializer = some text := by
  rw [← given]
  cases many : request.isMultivalued with
  | true =>
    have asked : request.initializeArray = true := by
      cases asked : request.initializeArray with
      | true => rfl
      | false => simp [initializer, many, asked] at given
    simp [initializer, nullIfUsed, many, asked]
  | false =>
    cases isPrimitive : isPrimitiveName request.typeName with
    | false => simp [initializer, nullIfUsed, many, isPrimitive]
    | true =>
      cases isValue : request.value with
      | some value => simp [initializer, many, isPrimitive, isValue]
      | none =>
        have asked : request.initializePrimitive = true := by
          cases asked : request.initializePrimitive with
          | true => rfl
          | false => simp [initializer, many, isPrimitive, isValue, asked] at given
        simp [initializer, nullIfUsed, many, isPrimitive, isValue, asked]

end DefaultRequest

/-! ## Properties -/

def PropertyOptions.askingMore (options : PropertyOptions) (primitive array : Bool) :
    PropertyOptions :=
  { options with
    initializePrimitive := options.initializePrimitive || primitive
    initializeArray := options.initializeArray || array }

namespace PropertyDefinition

/-- Single properties of a primitive type take a value of the model. -/
def TakesValue (definition : PropertyDefinition κ) : Prop :=
  definition.isMultivalued = false ∧ definition.typeName ∈ zeroValues.map Prod.fst

inductive FitsType (definition : PropertyDefinition κ) : Option String → Prop
  | absent : FitsType definition none
  | null (optional : definition.isOptional = true) (union : definition.hasNullUnion = true) :
      FitsType definition (some "null")
  | emptyList (required : definition.isOptional = false)
      (many : definition.isMultivalued = true) : FitsType definition (some "[]")
  | zero {text : String} (required : definition.isOptional = false)
      (single : definition.isMultivalued = false)
      (fits : (definition.typeName, text) ∈ zeroValues) : FitsType definition (some text)

end PropertyDefinition

/-- `definition` is built for `property`, and compared with other values and options. -/
structure SoundInitializer (resolver : Resolver) (property : Property)
    (decorators : List (Decorator κ)) (options : PropertyOptions)
    (definition : PropertyDefinition κ) : Prop where
  origin : (∃ value, property.defaultValue = some value ∧
      definition.defaultValue = some (DefaultRequest.render value) ∧ definition.TakesValue) ∨
    definition.FitsType definition.defaultValue
  withValue : ¬ definition.TakesValue → ∀ defaultValue,
    resolver.propertyDefinition { property with defaultValue } decorators options = .ok definition
  assertion : definition.usesDefiniteAssignment = true →
    definition.isOptional = false ∧ definition.defaultValue = none ∧
      property.owner ≠ .ofInterface
  askingMore : ∀ primitive array, ∃ other,
    resolver.propertyDefinition property decorators (options.askingMore primitive array) =
      .ok other ∧
      ∀ text, definition.defaultValue = some text → other.defaultValue = some text

namespace Resolver

variable {resolver : Resolver} {property : Property} {decorators : List (Decorator κ)}
  {options : PropertyOptions} {definition : PropertyDefinition κ}

def request (resolver : Resolver) (property : Property) (options : PropertyOptions) :
    DefaultRequest where
  typeName := resolver.elementTypeName property.type
  isMultivalued := property.multiplicity.isMultivalued
  isOptional := property.multiplicity.isOptional
    && (propertyFeatures property options).optionalModifier
  optionality := options.optionality.getD .questionToken
  value := property.defaultValue
  initializePrimitive := options.initializePrimitive
  initializeArray := options.initializeArray

def admitsInitializer (property : Property) (options : PropertyOptions) : Bool :=
  (propertyFeatures property options).initializer && !property.owner.isInterface

theorem defaultValue_of_property
    (built : resolver.propertyDefinition property decorators options = .ok definition) :
    definition.defaultValue = if admitsInitializer property options then
      (resolver.request property options).initializer else none := by
  obtain ⟨name, -, rfl⟩ := exists_of_map_eq_ok built
  rfl

theorem fitsType_of_answer {text : Option String}
    (built : resolver.propertyDefinition property decorators options = .ok definition)
    (answer : (resolver.request property options).Answer text) :
    (∃ value, property.defaultValue = some value ∧
      text = some (DefaultRequest.render value) ∧ definition.TakesValue) ∨
    definition.FitsType text := by
  obtain ⟨name, -, rfl⟩ := exists_of_map_eq_ok built
  cases answer with
  | absent => exact .inr .absent
  | ofModel single primitive given => exact .inl ⟨_, given, rfl, single, primitive⟩
  | null optional union =>
    refine .inr (.null optional ?_)
    simp only [Bool.and_eq_true]
    exact ⟨Bool.and_eq_true_iff.mp optional, union⟩
  | emptyList required many => exact .inr (.emptyList required many)
  | zero required single fits => exact .inr (.zero required single fits)

theorem usesDefiniteAssignment_of_property
    (built : resolver.propertyDefinition property decorators options = .ok definition) :
    definition.usesDefiniteAssignment =
      (!definition.isOptional && definition.defaultValue.isNone
        && !property.owner.isInterface
        && (propertyFeatures property options).definiteAssignment) := by
  obtain ⟨name, -, rfl⟩ := exists_of_map_eq_ok built
  rfl

theorem assertion_of_property
    (built : resolver.propertyDefinition property decorators options = .ok definition)
    (asserted : definition.usesDefiniteAssignment = true) :
    definition.isOptional = false ∧ definition.defaultValue = none ∧
      property.owner ≠ .ofInterface := by
  rw [usesDefiniteAssignment_of_property built] at asserted
  simp only [Bool.and_eq_true, Bool.not_eq_true', Option.isNone_iff_eq_none] at asserted
  obtain ⟨⟨⟨required, noDefault⟩, noInterface⟩, -⟩ := asserted
  refine ⟨required, noDefault, fun isInterface => ?_⟩
  rw [isInterface] at noInterface
  cases noInterface

theorem propertyDefinition_withValue
    (built : resolver.propertyDefinition property decorators options = .ok definition)
    (foreign : ¬ definition.TakesValue) (defaultValue : Option ValueSpec) :
    resolver.propertyDefinition { property with defaultValue } decorators options =
      .ok definition := by
  have same : (resolver.request { property with defaultValue } options).initializer =
      (resolver.request property options).initializer := by
    refine (resolver.request property options).initializer_withValue (fun single primitive => ?_) _
    obtain ⟨name, -, rfl⟩ := exists_of_map_eq_ok built
    exact foreign ⟨single, primitive⟩
  simp only [request] at same
  rw [← built]
  simp only [propertyDefinition]
  rw [same]
  rfl

theorem exists_propertyDefinition_askingMore
    (built : resolver.propertyDefinition property decorators options = .ok definition)
    (primitive array : Bool) :
    ∃ other, resolver.propertyDefinition property decorators
        (options.askingMore primitive array) = .ok other ∧
      ∀ text, definition.defaultValue = some text → other.defaultValue = some text := by
  obtain ⟨name, named, -⟩ := exists_of_map_eq_ok built
  obtain ⟨other, again⟩ : ∃ other, resolver.propertyDefinition property decorators
      (options.askingMore primitive array) = .ok other := by
    rw [propertyDefinition, named]
    exact ⟨_, rfl⟩
  refine ⟨other, again, fun text given => ?_⟩
  rw [defaultValue_of_property built, Option.ite_none_right_eq_some] at given
  obtain ⟨admits, given⟩ := given
  have admitsToo : admitsInitializer property (options.askingMore primitive array) = true := admits
  rw [defaultValue_of_property again, if_pos admitsToo]
  exact DefaultRequest.initializer_askingMore given primitive array

end Resolver

/-- An initializer is a value of the model that the property can take, or fits the type; an
assertion mark stands only without one, and asking for more changes none. -/
theorem initializers_fit_types {resolver : Resolver} {property : Property}
    {decorators : List (Decorator κ)} {options : PropertyOptions}
    {definition : PropertyDefinition κ}
    (built : resolver.propertyDefinition property decorators options = .ok definition) :
    SoundInitializer resolver property decorators options definition where
  origin := by
    have kept := Resolver.defaultValue_of_property built
    split at kept
    · rw [kept]
      exact Resolver.fitsType_of_answer built (DefaultRequest.answer_initializer _)
    · rw [kept]
      exact .inr .absent
  withValue := Resolver.propertyDefinition_withValue built
  assertion := Resolver.assertion_of_property built
  askingMore := Resolver.exists_propertyDefinition_askingMore built

/-- A class with the name of a primitive type, a list of which starts with `null`. -/
theorem optional_list_starts_with_null :
    let property : Property := {
      name := "p", type := some (.classType "number"), multiplicity := .many,
      defaultValue := some (.integer 3) }
    let options : PropertyOptions := { optionality := some .nullKeyword, initializeArray := true }
    let resolver : Resolver := {}
    ∃ definition : PropertyDefinition Program,
      resolver.propertyDefinition property [] options = .ok definition ∧
      definition.defaultValue = some "null" ∧ definition.content = "p: number[] | null = null;" ∧
      SoundInitializer resolver property [] options definition := by
  intro property options resolver
  exact ⟨_, rfl, by decide, by decide, initializers_fit_types rfl⟩

end Typescribe
