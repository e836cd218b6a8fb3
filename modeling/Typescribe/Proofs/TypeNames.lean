import Typescribe.Program
import Typescribe.Proofs.Traversal
/-!
# Names of unnamed types

A model may leave the type of an element out, or give it a type without a name. Where a member
needs the name of its type, the fallback of the resolver stands in, so that there is always one.
The lists of parents and of interfaces know no fallback: a type without a name has an empty name
there.
-/
set_option autoImplicit false

namespace Typescribe

variable {κ : Type}

/-- The naming for TypeScript, or the one that keeps the names of the model. -/
def Naming.IsUsual (naming : Naming) : Prop := naming = .typescript ∨ naming = .ofModel

namespace Naming.IsUsual

variable {naming : Naming}

/-- A usual naming names a type if and only if the model does. -/
theorem cases (usual : naming.IsUsual) (type : TypeRef) :
    (type.name = "" ∧ naming type = none) ∨
      type.name ≠ "" ∧ ∃ name, name ≠ "" ∧ naming type = some name := by
  have inModel : (type.name = "" ∧ Naming.ofModel type = none) ∨
      type.name ≠ "" ∧ ∃ name, name ≠ "" ∧ Naming.ofModel type = some name := by
    by_cases unnamed : type.name = ""
    · exact .inl ⟨unnamed, by simp [Naming.ofModel, unnamed]⟩
    · exact .inr ⟨unnamed, type.name, unnamed, by simp [Naming.ofModel, unnamed]⟩
  rcases usual with rfl | rfl
  · cases type with
    | primitive kind =>
      refine .inr ?_
      cases kind <;> exact ⟨by decide, _, by decide, rfl⟩
    | _ => exact inModel
  · exact inModel

end Naming.IsUsual

namespace Resolver

variable {resolver : Resolver}

theorem parentName_eq_empty_iff (usual : resolver.naming.IsUsual) (type : TypeRef) :
    resolver.parentName type = "" ↔ type.name = "" := by
  rw [parentName]
  obtain ⟨unnamed, noName⟩ | ⟨named, name, isName, isNamed⟩ := usual.cases type
  · rw [noName, Option.getD_none]
  · rw [isNamed, Option.getD_some]
    exact iff_of_false isName named

theorem elementTypeName_ne_empty (usual : resolver.naming.IsUsual)
    (fallback : resolver.fallbackTypeName ≠ "") (type : Option TypeRef) :
    resolver.elementTypeName type ≠ "" := by
  rw [elementTypeName]
  cases named : resolver.naming.nameOf? type with
  | none => exact fallback
  | some given =>
    obtain ⟨type, -, isName⟩ := Option.bind_eq_some_iff.mp named
    obtain ⟨-, noName⟩ | ⟨-, name, notEmpty, isNamed⟩ := usual.cases type
    · rw [noName] at isName
      cases isName
    · rw [isNamed] at isName
      cases isName
      exact notEmpty

theorem empty_mem_parents_iff (usual : resolver.naming.IsUsual) {α : Type} {relations : List α}
    {type : α → TypeRef} {others : List String} (named : "" ∉ others) (feature : Bool) :
    "" ∈ (if feature then
        relations.map (fun relation => resolver.parentName (type relation)) ++ others
      else []) ↔
      feature = true ∧ ∃ relation ∈ relations, (type relation).name = "" := by
  cases feature with
  | false => simp
  | true => simp [named, parentName_eq_empty_iff usual]

/-! ## Built definitions -/

theorem empty_mem_class_iff (usual : resolver.naming.IsUsual) {element : Class}
    {decorators : List (Decorator κ)} {options : ClassOptions} {definition : ClassDefinition κ}
    (parentsNamed : "" ∉ options.parents) (contractsNamed : "" ∉ options.contracts)
    (built : (resolver.classDefinition element decorators options).result = .ok definition) :
    ("" ∈ definition.parents ↔ (options.features.getD .all).generalizations = true ∧
        ∃ relation ∈ element.generalizations, relation.general.name = "") ∧
      ("" ∈ definition.contracts ↔ (options.features.getD .all).realizations = true ∧
        ∃ relation ∈ element.realizations, relation.contract.name = "") := by
  unfold classDefinition at built
  cases named : requiredName .ofClass element.name with
  | error failure => simp [named] at built
  | ok name =>
    simp only [named, Except.ok.injEq] at built
    rw [← built]
    exact ⟨empty_mem_parents_iff usual parentsNamed _, empty_mem_parents_iff usual contractsNamed _⟩

theorem empty_mem_interface_iff (usual : resolver.naming.IsUsual) {element : Interface}
    {options : InterfaceOptions} {definition : InterfaceDefinition}
    (parentsNamed : "" ∉ options.parents)
    (built : (resolver.interfaceDefinition element options).result = .ok definition) :
    "" ∈ definition.parents ↔ (options.features.getD .all).generalizations = true ∧
      ∃ relation ∈ element.generalizations, relation.general.name = "" := by
  unfold interfaceDefinition at built
  cases named : requiredName .ofInterface element.name with
  | error failure => simp [named] at built
  | ok name =>
    simp only [named, Except.ok.injEq] at built
    rw [← built]
    exact empty_mem_parents_iff usual parentsNamed _

theorem typeNames_of_function (usual : resolver.naming.IsUsual)
    (fallback : resolver.fallbackTypeName ≠ "") {element : Operation} {options : FunctionOptions}
    {definition : FunctionDefinition}
    (built : resolver.functionDefinition element options = .ok definition) :
    definition.returnTypeName ≠ some "" ∧
      ∀ parameter ∈ definition.parameters, parameter.typeName ≠ "" := by
  unfold functionDefinition at built
  obtain ⟨name, -, isDefinition⟩ := exists_of_bind_eq_ok built
  obtain ⟨parameters, isParameters, rfl⟩ := exists_of_map_eq_ok isDefinition
  constructor
  · intro isEmpty
    obtain ⟨result, -, noName⟩ := Option.map_eq_some_iff.mp isEmpty
    exact elementTypeName_ne_empty usual fallback result.type noName
  · intro definition isDefinition
    obtain ⟨parameter, -, isBuilt⟩ := exists_of_mapM_eq_ok isParameters definition isDefinition
    obtain ⟨name, -, rfl⟩ := exists_of_map_eq_ok isBuilt
    exact elementTypeName_ne_empty usual fallback parameter.type

end Resolver

/-- Every member, parameter and declared result that is built has a type name, but a parent or an
interface has none just if the model gives its type none. -/
theorem built_members_have_type_names {resolver : Resolver} (usual : resolver.naming.IsUsual)
    (fallback : resolver.fallbackTypeName ≠ "") :
    (∀ (element : Property) (decorators : List (Decorator κ)) (options : PropertyOptions)
      (definition : PropertyDefinition κ),
      resolver.propertyDefinition element decorators options = .ok definition →
      definition.typeName ≠ "") ∧
    (∀ (element : Operation) (options : FunctionOptions) (definition : FunctionDefinition),
      resolver.functionDefinition element options = .ok definition →
      definition.returnTypeName ≠ some "" ∧
        ∀ parameter ∈ definition.parameters, parameter.typeName ≠ "") ∧
    (∀ (element : Class) (decorators : List (Decorator κ)) (options : ClassOptions)
      (definition : ClassDefinition κ), "" ∉ options.parents → "" ∉ options.contracts →
      (resolver.classDefinition element decorators options).result = .ok definition →
      ("" ∈ definition.parents ↔ (options.features.getD .all).generalizations = true ∧
          ∃ relation ∈ element.generalizations, relation.general.name = "") ∧
        ("" ∈ definition.contracts ↔ (options.features.getD .all).realizations = true ∧
          ∃ relation ∈ element.realizations, relation.contract.name = "")) ∧
    ∀ (element : Interface) (options : InterfaceOptions) (definition : InterfaceDefinition),
      "" ∉ options.parents →
      (resolver.interfaceDefinition element options).result = .ok definition →
      ("" ∈ definition.parents ↔ (options.features.getD .all).generalizations = true ∧
        ∃ relation ∈ element.generalizations, relation.general.name = "") := by
  refine ⟨?_, ?_, ?_, ?_⟩
  · intro element decorators options definition built
    obtain ⟨name, -, rfl⟩ := exists_of_map_eq_ok built
    exact Resolver.elementTypeName_ne_empty usual fallback element.type
  · intro element options definition built
    exact Resolver.typeNames_of_function usual fallback built
  · intro element decorators options definition parentsNamed contractsNamed built
    exact Resolver.empty_mem_class_iff usual parentsNamed contractsNamed built
  · intro element options definition parentsNamed built
    exact Resolver.empty_mem_interface_iff usual parentsNamed built

theorem unnamed_types_get_fallback :
    let resolver : Resolver := { naming := .ofModel, fallbackTypeName := "unknown" }
    let property : Property := { name := "p", type := some (.classType "") }
    let operation : Operation := {
      name := "f"
      parameters := [{ name := "x" },
        { name := "y", type := some (.enumerationType ""), direction := .result }] }
    let named : Class := { name := "A", realizations := [⟨.primitive .object⟩] }
    let unnamed : Interface := { name := "I", generalizations := [⟨.interfaceType ""⟩] }
    resolver.naming.IsUsual ∧ resolver.fallbackTypeName ≠ "" ∧
      (∃ definition : PropertyDefinition Program,
        resolver.propertyDefinition property [] {} = .ok definition ∧ definition.typeName ≠ "") ∧
      (∃ definition, resolver.functionDefinition operation {} = .ok definition ∧
        definition.returnTypeName ≠ some "" ∧
        ∀ parameter ∈ definition.parameters, parameter.typeName ≠ "") ∧
      (∃ definition : ClassDefinition Program,
        (resolver.classDefinition named [] { contracts := ["J"] }).result = .ok definition ∧
        "" ∉ definition.parents ∧ "" ∉ definition.contracts) ∧
      ∃ definition, (resolver.interfaceDefinition unnamed {}).result = .ok definition ∧
        "" ∈ definition.parents := by
  intro resolver property operation named unnamed
  have usual : resolver.naming.IsUsual := .inr rfl
  have fallback : resolver.fallbackTypeName ≠ "" := by decide
  obtain ⟨properties, functions, classes, interfaces⟩ :=
    @built_members_have_type_names Program resolver usual fallback
  refine ⟨usual, fallback, ⟨_, rfl, properties property [] {} _ rfl⟩,
    ⟨_, rfl, functions operation {} _ rfl⟩, ?_, ?_⟩
  · obtain ⟨parents, contracts⟩ :=
      classes named [] { contracts := ["J"] } _ (by decide) (by decide) rfl
    exact ⟨_, rfl, fun empty => absurd (parents.mp empty) (by decide),
      fun empty => absurd (contracts.mp empty) (by decide)⟩
  · exact ⟨_, rfl, (interfaces unnamed {} _ (by decide) rfl).mpr (by decide)⟩

/-- A class with an unnamed parent gets an empty name in its header, where a property gets the
fallback. -/
theorem unnamed_parent_gets_no_fallback :
    let unnamed := TypeRef.classType ""
    let element : Class := { name := "A", generalizations := [⟨unnamed⟩] }
    ({} : Resolver).naming.IsUsual ∧ ({} : Resolver).fallbackTypeName = "any" ∧
      ({} : Resolver).elementTypeName (some unnamed) = "any" ∧
      (∃ definition : ClassDefinition Program,
        (({} : Resolver).classDefinition element [] {}).result = .ok definition ∧
          definition.parents = [""]) ∧
      (Step.perform (.writeClass element [] {} []) {}).writer.text =
        "class A extends  \x7b\n\x7d\n" :=
  ⟨.inl rfl, rfl, by decide, ⟨_, rfl, by decide⟩, by decide⟩

end Typescribe
