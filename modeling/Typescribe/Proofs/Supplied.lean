import Typescribe.Proofs.Plain
import Typescribe.Proofs.Programs
/-!
# Texts that callers supply

Every text that a writer takes from a definition, a model element, an option or a step. All else
that is written is made by the writer itself or by the naming of types. If the supplied texts
hold no brackets, the texts of every definition that is built are balanced: only the default
value of a property can hold brackets then, and it is a literal or an empty list.
-/
set_option autoImplicit false

namespace Typescribe

variable {κ : Type}

/-! ## Definitions -/

/-- What a callback writes is not counted. -/
def Decorator.texts (decorator : Decorator κ) : List String :=
  decorator.name :: match decorator.arguments with
    | some (.text content) => [content]
    | _ => []

def ClassDefinition.texts (definition : ClassDefinition κ) : List String :=
  definition.name :: (definition.description ++ definition.parents ++ definition.contracts
    ++ definition.decorators.flatMap Decorator.texts)

def InterfaceDefinition.texts (definition : InterfaceDefinition) : List String :=
  definition.name :: (definition.description ++ definition.parents)

def EnumValue.texts : EnumValue → List String
  | .number _ => []
  | .text value => [value]

def EnumMember.texts (member : EnumMember) : List String :=
  member.name :: (member.description ++ member.value.elim [] EnumValue.texts)

def EnumDefinition.texts (definition : EnumDefinition) : List String :=
  definition.name :: (definition.description ++ definition.members.flatMap EnumMember.texts)

def StringLiteralType.texts (definition : StringLiteralType) : List String :=
  definition.name :: (definition.description ++ definition.literals)

def VariableDefinition.texts (definition : VariableDefinition) : List String :=
  definition.name :: (definition.description ++ definition.typeName.toList
    ++ definition.initializer.toList)

def PropertyDefinition.texts (definition : PropertyDefinition κ) : List String :=
  definition.name :: definition.typeName :: (definition.description
    ++ definition.defaultValue.toList ++ definition.decorators.flatMap Decorator.texts)

def ParameterDefinition.texts (definition : ParameterDefinition) : List String :=
  definition.name :: definition.typeName :: definition.description

def FunctionDefinition.texts (definition : FunctionDefinition) : List String :=
  definition.name.toList ++ definition.description ++ definition.returnTypeName.toList
    ++ definition.parameters.flatMap ParameterDefinition.texts

/-! ## Model elements -/

def ValueSpec.texts : ValueSpec → List String
  | .text value => [value]
  | .expression source => [source]
  | _ => []

/-- Members of a class are not written with it. -/
def Class.texts (element : Class) : List String :=
  element.name :: (commentBodies element.comments
    ++ element.generalizations.map (fun relation => relation.general.name)
    ++ element.realizations.map fun relation => relation.contract.name)

def Interface.texts (element : Interface) : List String :=
  element.name :: (commentBodies element.comments
    ++ element.generalizations.map fun relation => relation.general.name)

def EnumLiteral.texts (literal : EnumLiteral) : List String :=
  literal.name :: (commentBodies literal.comments
    ++ literal.specification.elim [] ValueSpec.texts)

def Enumeration.texts (element : Enumeration) : List String :=
  element.name :: (commentBodies element.comments ++ element.literals.flatMap EnumLiteral.texts)

def Property.texts (element : Property) : List String :=
  element.name :: (commentBodies element.comments ++ (element.type.map TypeRef.name).toList
    ++ element.defaultValue.elim [] ValueSpec.texts)

def Parameter.texts (element : Parameter) : List String :=
  element.name :: (commentBodies element.comments ++ (element.type.map TypeRef.name).toList)

def Operation.texts (element : Operation) : List String :=
  element.name :: (commentBodies element.comments
    ++ element.parameters.flatMap Parameter.texts)

/-! ## Steps -/

/-- The texts of the programs inside of a step belong to their own steps. -/
def Step.texts : Step → List String
  | .line text | .write text | .endLine text | .decoratorBlock text _ => [text]
  | .docParagraphs texts | .docLines texts => texts
  | .docComments comments => commentBodies comments
  | .namedImport name names => name :: names
  | .wholeImport name given => name :: given.toList
  | .classBlock definition _ => definition.elim [] ClassDefinition.texts
  | .interfaceBlock definition _ => definition.elim [] InterfaceDefinition.texts
  | .enum definition => definition.elim [] EnumDefinition.texts
  | .stringLiteralType definition => definition.elim [] StringLiteralType.texts
  | .property definition => definition.elim [] PropertyDefinition.texts
  | .functionDeclaration definition | .functionBlock definition _ =>
    definition.elim [] FunctionDefinition.texts
  | .variableDeclaration definition => definition.elim [] VariableDefinition.texts
  | .writeClass element decorators options _ =>
    element.texts ++ decorators.flatMap Decorator.texts ++ options.parents ++ options.contracts
  | .writeInterface element options _ => element.texts ++ options.parents
  | .writeEnumeration element _ => element.texts
  | .writeProperty element decorators _ => element.texts ++ decorators.flatMap Decorator.texts
  | .writeFunction element _ _ => element.texts
  | .blankLine | .startLine | .deeper | .shallower | .commentWidth | .setCommentWidth _
  | .elementTypeName _ | .codeBlock _ | .dropDiagnostics | .build _ => []

namespace Step

theorem texts_callbacks (decorators : List (Decorator Program)) :
    (callbacks decorators).flatMap Decorator.texts = decorators.flatMap Decorator.texts := by
  induction decorators with
  | nil => rw [callbacks]; rfl
  | cons head rest ih =>
    have headTexts : (decoratorCallback head).texts = head.texts := by
      obtain ⟨name, isCalled, arguments⟩ := head
      cases arguments with
      | none => simp [decoratorCallback, argumentsCallback?, Decorator.texts]
      | some arguments =>
        cases arguments <;>
          simp [decoratorCallback, argumentsCallback?, argumentsCallback, Decorator.texts]
    rw [callbacks, List.flatMap_cons, List.flatMap_cons, headTexts, ih]

theorem texts_classCallbacks (definition : ClassDefinition Program) :
    (classCallbacks definition).texts = definition.texts := by
  rw [ClassDefinition.texts, decorators_classCallbacks, texts_callbacks, classCallbacks]
  rfl

theorem texts_propertyCallbacks (definition : PropertyDefinition Program) :
    (propertyCallbacks definition).texts = definition.texts := by
  rw [PropertyDefinition.texts, decorators_propertyCallbacks, texts_callbacks, propertyCallbacks]
  rfl

end Step

/-- The naming yields no brackets for types whose names hold none. -/
structure BracketFreeNames (resolver : Resolver) : Prop where
  fallback : BracketFree resolver.fallbackTypeName
  named : ∀ (type : TypeRef) (name : String), BracketFree type.name →
    resolver.naming type = some name → BracketFree name

theorem bracketFreeNames_typescript {fallback : String} (free : BracketFree fallback) :
    BracketFreeNames { fallbackTypeName := fallback } := by
  refine ⟨free, fun type name typeFree isName => ?_⟩
  have ofModel (named : Naming.ofModel type = some name) : BracketFree name := by
    rw [Naming.ofModel] at named
    split at named
    · simp at named
    · rwa [← Option.some.inj named]
  have isNamed : Naming.typescript type = some name := isName
  unfold Naming.typescript at isNamed
  split at isNamed
  · exact Option.some.inj isNamed ▸ by decide
  · exact Option.some.inj isNamed ▸ by decide
  · exact Option.some.inj isNamed ▸ by decide
  · exact Option.some.inj isNamed ▸ by decide
  · exact Option.some.inj isNamed ▸ by decide
  · exact ofModel isNamed

/-! ## Built definitions -/

theorem forall_mem_ite_nil {α : Type} {holds : α → Prop} {items : List α} (condition : Bool)
    (all : ∀ item ∈ items, holds item) : ∀ item ∈ if condition then items else [], holds item := by
  cases condition with
  | false => simp
  | true => simpa using all

theorem ValueSpec.bracketFree_plainText {value : ValueSpec}
    (free : ∀ text ∈ value.texts, BracketFree text) : BracketFree value.plainText := by
  cases value with
  | text value => exact free value (by simp [texts])
  | integer value => exact bracketFree_toString _
  | real value => exact bracketFree_binary64 value
  | boolean value => cases value <;> decide
  | null => decide
  | expression source => exact free source (by simp [texts])

namespace Resolver

variable {resolver : Resolver}

theorem bracketFree_parentName (names : BracketFreeNames resolver) {type : TypeRef}
    (free : BracketFree type.name) : BracketFree (resolver.parentName type) := by
  rw [parentName]
  cases named : resolver.naming type with
  | none => exact free
  | some name => exact names.named type name free named

theorem bracketFree_elementTypeName (names : BracketFreeNames resolver) {type : Option TypeRef}
    (free : ∀ text ∈ (type.map TypeRef.name).toList, BracketFree text) :
    BracketFree (resolver.elementTypeName type) := by
  rw [elementTypeName]
  cases named : resolver.naming.nameOf? type with
  | none => exact names.fallback
  | some name =>
    obtain ⟨given, rfl, isName⟩ := Option.bind_eq_some_iff.mp named
    exact names.named given name (free given.name (by simp)) isName

theorem bracketFree_parents (names : BracketFreeNames resolver) {α : Type} {relations : List α}
    {type : α → TypeRef} {others : List String} (feature : Bool)
    (free : ∀ text ∈ relations.map fun relation => (type relation).name, BracketFree text)
    (othersFree : ∀ text ∈ others, BracketFree text) :
    ∀ text ∈ if feature then
        relations.map (fun relation => resolver.parentName (type relation)) ++ others
      else [],
      BracketFree text := by
  refine forall_mem_ite_nil feature (List.forall_mem_append.mpr ⟨?_, othersFree⟩)
  exact List.forall_mem_map.mpr fun relation member =>
    bracketFree_parentName names (List.forall_mem_map.mp free relation member)

theorem bracketFree_of_class (names : BracketFreeNames resolver) {element : Class}
    {decorators : List (Decorator κ)} {options : ClassOptions} {definition : ClassDefinition κ}
    (free : ∀ text ∈ element.texts ++ decorators.flatMap Decorator.texts ++ options.parents
      ++ options.contracts, BracketFree text)
    (built : (resolver.classDefinition element decorators options).result = .ok definition) :
    ∀ text ∈ definition.texts, BracketFree text := by
  simp only [Class.texts, List.forall_mem_append, List.forall_mem_cons] at free
  obtain ⟨⟨⟨⟨nameFree, ⟨comments, general⟩, realized⟩, decorated⟩, parents⟩, contracts⟩ := free
  unfold classDefinition at built
  cases named : requiredName .ofClass element.name with
  | error failure => simp [named] at built
  | ok name =>
    simp only [named, Except.ok.injEq] at built
    rw [← built]
    simp only [ClassDefinition.texts, List.forall_mem_append, List.forall_mem_cons]
    refine ⟨?_, ⟨⟨forall_mem_ite_nil _ comments, ?_⟩, ?_⟩, decorated⟩
    · rwa [eq_of_requiredName named]
    · exact bracketFree_parents names _ general parents
    · exact bracketFree_parents names _ realized contracts

theorem bracketFree_of_interface (names : BracketFreeNames resolver) {element : Interface}
    {options : InterfaceOptions} {definition : InterfaceDefinition}
    (free : ∀ text ∈ element.texts ++ options.parents, BracketFree text)
    (built : (resolver.interfaceDefinition element options).result = .ok definition) :
    ∀ text ∈ definition.texts, BracketFree text := by
  simp only [Interface.texts, List.forall_mem_append, List.forall_mem_cons] at free
  obtain ⟨⟨nameFree, comments, general⟩, parents⟩ := free
  unfold interfaceDefinition at built
  cases named : requiredName .ofInterface element.name with
  | error failure => simp [named] at built
  | ok name =>
    simp only [named, Except.ok.injEq] at built
    rw [← built]
    simp only [InterfaceDefinition.texts, List.forall_mem_append, List.forall_mem_cons]
    refine ⟨?_, forall_mem_ite_nil _ comments, bracketFree_parents names _ general parents⟩
    rwa [eq_of_requiredName named]

theorem eq_plainText_of_enumValue {value : ValueSpec} {text : String}
    (member : text ∈ (enumValue value).texts) : text = value.plainText := by
  cases value <;> simp_all [enumValue, EnumValue.texts, ValueSpec.plainText]

theorem bracketFree_of_enumMember {features : EnumFeatures} {literal : EnumLiteral}
    {member : EnumMember} (free : ∀ text ∈ literal.texts, BracketFree text)
    (built : enumMember features literal = .ok member) :
    ∀ text ∈ member.texts, BracketFree text := by
  simp only [EnumLiteral.texts, List.forall_mem_append, List.forall_mem_cons] at free
  obtain ⟨nameFree, comments, value⟩ := free
  obtain ⟨name, named, rfl⟩ := exists_of_map_eq_ok built
  simp only [EnumMember.texts, List.forall_mem_append, List.forall_mem_cons]
  refine ⟨?_, forall_mem_ite_nil _ comments, ?_⟩
  · rwa [eq_of_requiredName named]
  · cases given : literal.specification with
    | none => simp
    | some specification =>
      rw [given] at value
      cases features.initializers with
      | false => simp
      | true =>
        intro text inValue
        rw [eq_plainText_of_enumValue inValue]
        exact ValueSpec.bracketFree_plainText value

theorem bracketFree_of_enum {element : Enumeration} {options : EnumOptions}
    {definition : EnumDefinition} (free : ∀ text ∈ element.texts, BracketFree text)
    (built : (enumDefinition element options).result = .ok definition) :
    ∀ text ∈ definition.texts, BracketFree text := by
  simp only [Enumeration.texts, List.forall_mem_append, List.forall_mem_cons] at free
  obtain ⟨nameFree, comments, literals⟩ := free
  unfold enumDefinition at built
  cases named : requiredName .ofEnum element.name with
  | error failure => simp [named] at built
  | ok name =>
    simp only [named] at built
    obtain ⟨members, isMembers, rfl⟩ := exists_of_map_eq_ok built
    simp only [EnumDefinition.texts, List.forall_mem_append, List.forall_mem_cons]
    refine ⟨?_, forall_mem_ite_nil _ comments, fun text inMembers => ?_⟩
    · rwa [eq_of_requiredName named]
    · obtain ⟨member, isMember, inMember⟩ := List.mem_flatMap.mp inMembers
      obtain ⟨literal, isLiteral, isBuilt⟩ := exists_of_mapM_eq_ok isMembers member isMember
      refine bracketFree_of_enumMember (fun other inLiteral => ?_) isBuilt text inMember
      exact literals other (List.mem_flatMap.mpr ⟨literal, isLiteral, inLiteral⟩)

/-! ## Members -/

theorem balanced_render {value : ValueSpec} (free : ∀ text ∈ value.texts, BracketFree text) :
    Balanced (DefaultRequest.render value) := by
  have plain := ValueSpec.bracketFree_plainText free
  cases value with
  | text value => exact (Balanced.of_bracketFree plain).quotedString
  | _ => exact Balanced.of_bracketFree plain

theorem balanced_initializer {request : DefaultRequest}
    (free : ∀ text ∈ request.value.elim [] ValueSpec.texts, BracketFree text) :
    ∀ text ∈ request.initializer, Balanced text := by
  have null : ∀ text ∈ request.nullIfUsed, Balanced text := by
    rw [DefaultRequest.nullIfUsed]
    split
    · simpa using Balanced.of_bracketFree (by decide)
    · simp
  have zero : ∀ text ∈ primitiveZero? request.typeName, Balanced text := by
    intro text isZero
    refine Balanced.of_bracketFree ?_
    simp only [primitiveZero?, Option.mem_def] at isZero
    split at isZero
    · exact Option.some.inj isZero ▸ by decide
    split at isZero
    · exact Option.some.inj isZero ▸ by decide
    split at isZero
    · exact Option.some.inj isZero ▸ by decide
    · simp at isZero
  rw [DefaultRequest.initializer]
  split
  · split
    · simp
    split
    · exact null
    · simpa using Balanced.emptyList
  split
  · split
    · next value given =>
      rw [given] at free
      simpa using balanced_render free
    · split
      · simp
      split
      · exact null
      · exact zero
  · split
    · exact null
    · simp

theorem balanced_of_property (names : BracketFreeNames resolver) {element : Property}
    {decorators : List (Decorator κ)} {options : PropertyOptions}
    {definition : PropertyDefinition κ}
    (free : ∀ text ∈ element.texts ++ decorators.flatMap Decorator.texts, BracketFree text)
    (built : resolver.propertyDefinition element decorators options = .ok definition) :
    ∀ text ∈ definition.texts, Balanced text := by
  simp only [Property.texts, List.forall_mem_append, List.forall_mem_cons] at free
  obtain ⟨⟨nameFree, ⟨comments, type⟩, value⟩, decorated⟩ := free
  obtain ⟨name, named, rfl⟩ := exists_of_map_eq_ok built
  have typeName := bracketFree_elementTypeName names type
  simp only [PropertyDefinition.texts, List.forall_mem_append, List.forall_mem_cons]
  refine ⟨.of_bracketFree (by rwa [eq_of_requiredName named]), .of_bracketFree typeName,
    ⟨fun text inDescription => ?_, fun text isDefault => ?_⟩, fun text inDecorators => ?_⟩
  · exact .of_bracketFree (forall_mem_ite_nil _ comments text inDescription)
  · rw [Option.mem_toList] at isDefault
    split at isDefault
    · exact balanced_initializer (by exact value) text isDefault
    · simp at isDefault
  · exact .of_bracketFree (decorated text inDecorators)

theorem bracketFree_of_parameter (names : BracketFreeNames resolver) {inConstructor : Bool}
    {features : ParameterFeatures} {optionality : Optionality} {element : Parameter}
    {definition : ParameterDefinition} (free : ∀ text ∈ element.texts, BracketFree text)
    (built : resolver.parameterDefinition inConstructor features optionality element =
      .ok definition) :
    ∀ text ∈ definition.texts, BracketFree text := by
  simp only [Parameter.texts, List.forall_mem_append, List.forall_mem_cons] at free
  obtain ⟨nameFree, comments, type⟩ := free
  obtain ⟨name, named, rfl⟩ := exists_of_map_eq_ok built
  simp only [ParameterDefinition.texts, List.forall_mem_cons]
  refine ⟨?_, bracketFree_elementTypeName names type, forall_mem_ite_nil _ comments⟩
  rwa [eq_of_requiredName named]

theorem bracketFree_of_functionName {element : Operation} {name : Option String}
    (free : BracketFree element.name) (named : functionName element = .ok name) :
    ∀ text ∈ name.toList, BracketFree text := by
  rw [functionName] at named
  split at named
  · rw [← Except.ok.inj named]
    simp
  · obtain ⟨given, isGiven, rfl⟩ := exists_of_map_eq_ok named
    rw [eq_of_requiredName isGiven]
    simpa using free

theorem bracketFree_of_function (names : BracketFreeNames resolver) {element : Operation}
    {options : FunctionOptions} {definition : FunctionDefinition}
    (free : ∀ text ∈ element.texts, BracketFree text)
    (built : resolver.functionDefinition element options = .ok definition) :
    ∀ text ∈ definition.texts, BracketFree text := by
  simp only [Operation.texts, List.forall_mem_append, List.forall_mem_cons] at free
  obtain ⟨nameFree, comments, parametersFree⟩ := free
  have parameterFree (parameter : Parameter) (member : parameter ∈ element.parameters) :
      ∀ text ∈ parameter.texts, BracketFree text := fun text inside =>
    parametersFree text (List.mem_flatMap.mpr ⟨parameter, member, inside⟩)
  unfold functionDefinition at built
  obtain ⟨name, named, isDefinition⟩ := exists_of_bind_eq_ok built
  obtain ⟨parameters, isParameters, rfl⟩ := exists_of_map_eq_ok isDefinition
  simp only [FunctionDefinition.texts, List.forall_mem_append]
  refine ⟨⟨⟨?_, forall_mem_ite_nil _ comments⟩, fun text isReturned => ?_⟩,
    fun text inParameters => ?_⟩
  · exact bracketFree_of_functionName nameFree named
  · obtain ⟨result, isResult, rfl⟩ := Option.map_eq_some_iff.mp (Option.mem_toList.mp isReturned)
    have fromModel : result ∈ element.parameters := by
      rw [declaredResult?] at isResult
      split at isResult
      · simp at isResult
      · exact List.mem_of_find?_eq_some isResult
    have resultFree := parameterFree result fromModel
    simp only [Parameter.texts, List.forall_mem_append, List.forall_mem_cons] at resultFree
    exact bracketFree_elementTypeName names resultFree.2.2
  · obtain ⟨definition, isDefinition, inDefinition⟩ := List.mem_flatMap.mp inParameters
    obtain ⟨parameter, isParameter, isBuilt⟩ :=
      exists_of_mapM_eq_ok isParameters definition isDefinition
    exact bracketFree_of_parameter names (parameterFree parameter isParameter) isBuilt text
      inDefinition

end Resolver

end Typescribe
