import Typescribe.Definition.Declaration
import Typescribe.Definition.Member
import Typescribe.Diagnostic
import Typescribe.Failure
import Typescribe.Model.Classifier
import Typescribe.Naming
import Typescribe.Options
/-!
# Resolution of model elements

A resolver turns model elements and options into definitions. It is the only place where
features, optionality, visibility and default values are decided. Building a class, an
interface or an enum may warn about a deprecated option; the other builds never warn.
-/
set_option autoImplicit false

namespace Typescribe

variable {κ : Type}

/-- The warnings stand even if the build fails. -/
structure Outcome (α : Type) where
  warnings : List Diagnostic := []
  result : Except BuildFailure α

structure Resolver where
  naming : Naming := .typescript
  fallbackTypeName : String := "any"

def requiredName (element : Named) (name : String) : Except BuildFailure String :=
  if name.isEmpty then .error (.missingName element) else .ok name

/-- An option for exporting wins over the visibility. -/
def resolveExport (exported : Option Bool) (visibility : Option Visibility) : Bool :=
  exported.getD ((visibility.map Visibility.isExportedByDefault).getD false)

/-! ## The deprecated prefix -/

structure Qualifiers where
  exported : Option Bool
  declared : Option Bool
  deriving DecidableEq

/-- Blanks around a prefix do not count, and a prefix that is no keyword changes nothing. -/
def Qualifiers.withPrefix (qualifiers : Qualifiers) (legacyPrefix : Option String) :
    Qualifiers :=
  match legacyPrefix with
  | none => qualifiers
  | some text =>
    let keyword := String.ofList (Text.trimmed text.toList)
    if keyword = "export" then { qualifiers with exported := some true }
    else if keyword = "declare" then { qualifiers with declared := some true }
    else qualifiers

/-- Any prefix is warned about, unless it is empty. -/
def prefixWarnings (element : String) : Option String → List Diagnostic
  | none => []
  | some text => if text.isEmpty then [] else [.deprecatedPrefix element]

/-! ## Default values -/

structure DefaultRequest where
  typeName : String
  isMultivalued : Bool := false
  isOptional : Bool := false
  optionality : Optionality
  value : Option ValueSpec := none
  initializePrimitive : Bool := false
  initializeArray : Bool := false

namespace DefaultRequest

/-- An optional element is `null` if absence is marked that way. -/
def nullIfUsed (request : DefaultRequest) : Option String :=
  if request.optionality.usesNull then some "null" else none

def render : ValueSpec → String
  | .text value => Text.quotedString value
  | value => value.plainText

/-- An array gets one only on request, another type only `null`, and a value counts for primitive
types alone. -/
def initializer (request : DefaultRequest) : Option String :=
  if request.isMultivalued then
    if !request.initializeArray then none
    else if request.isOptional then request.nullIfUsed
    else some "[]"
  else if isPrimitiveName request.typeName then
    match request.value with
    | some value => some (render value)
    | none =>
      if !request.initializePrimitive then none
      else if request.isOptional then request.nullIfUsed
      else primitiveZero? request.typeName
  else if request.isOptional then request.nullIfUsed
  else none

end DefaultRequest

namespace Resolver

/-! ## Names of types -/

/-- A type without a name keeps that of the model. -/
def parentName (resolver : Resolver) (type : TypeRef) : String :=
  (resolver.naming type).getD type.name

def elementTypeName (resolver : Resolver) (type : Option TypeRef) : String :=
  (resolver.naming.nameOf? type).getD resolver.fallbackTypeName

/-! ## Classes, interfaces and enumerations -/

def classDefinition (resolver : Resolver) (element : Class) (decorators : List (Decorator κ))
    (options : ClassOptions) : Outcome (ClassDefinition κ) :=
  match requiredName .ofClass element.name with
  | .error failure => { result := .error failure }
  | .ok name =>
    let features := options.features.getD .all
    let qualifiers :=
      (Qualifiers.mk options.exported options.declared).withPrefix options.legacyPrefix
    let general := element.generalizations.map fun relation => resolver.parentName relation.general
    let realized := element.realizations.map fun relation => resolver.parentName relation.contract
    { warnings := prefixWarnings element.name options.legacyPrefix
      result := .ok {
        name
        description := if features.description then commentBodies element.comments else []
        isExported := resolveExport qualifiers.exported element.visibility
        isDeclared := qualifiers.declared.getD false
        decorators
        isAbstract := element.isAbstract
        parents := if features.generalizations then general ++ options.parents else []
        contracts := if features.realizations then realized ++ options.contracts else [] } }

def interfaceDefinition (resolver : Resolver) (element : Interface)
    (options : InterfaceOptions) : Outcome InterfaceDefinition :=
  match requiredName .ofInterface element.name with
  | .error failure => { result := .error failure }
  | .ok name =>
    let features := options.features.getD .all
    let qualifiers :=
      (Qualifiers.mk options.exported options.declared).withPrefix options.legacyPrefix
    let general := element.generalizations.map fun relation => resolver.parentName relation.general
    { warnings := prefixWarnings element.name options.legacyPrefix
      result := .ok {
        name
        description := if features.description then commentBodies element.comments else []
        isExported := resolveExport qualifiers.exported element.visibility
        isDeclared := qualifiers.declared.getD false
        parents := if features.generalizations then general ++ options.parents else [] } }

/-- An integer is a number, any other value a text. -/
def enumValue : ValueSpec → EnumValue
  | .integer value => .number value
  | value => .text value.plainText

def enumMember (features : EnumFeatures) (literal : EnumLiteral) :
    Except BuildFailure EnumMember :=
  (requiredName .ofEnumMember literal.name).map fun name => {
    name
    description := if features.description then commentBodies literal.comments else []
    value := if features.initializers then literal.specification.map enumValue else none }

/-- The warning about the prefix stands even if a literal has no name. -/
def enumDefinition (element : Enumeration) (options : EnumOptions) : Outcome EnumDefinition :=
  match requiredName .ofEnum element.name with
  | .error failure => { result := .error failure }
  | .ok name =>
    let features := options.features.getD .all
    let qualifiers :=
      (Qualifiers.mk options.exported options.declared).withPrefix options.legacyPrefix
    { warnings := prefixWarnings element.name options.legacyPrefix
      result := (element.literals.mapM (enumMember features)).map fun members => {
        name
        description := if features.description then commentBodies element.comments else []
        isExported := resolveExport qualifiers.exported element.visibility
        isDeclared := qualifiers.declared.getD false
        isConst := options.isConst
        members } }

def stringLiteralType (element : Enumeration) (options : StringLiteralOptions) :
    Except BuildFailure StringLiteralType :=
  (requiredName .ofStringLiteralType element.name).map fun name => {
    name
    description := commentBodies element.comments
    isExported := resolveExport options.exported element.visibility
    isDeclared := options.declared.getD false
    literals := element.literals.map EnumLiteral.name }

/-! ## Properties and operations -/

/-- By default all that its owner admits. -/
def propertyFeatures (property : Property) (options : PropertyOptions) : PropertyFeatures :=
  options.features.getD (if property.owner.isInterface then .ofInterface else .all)

/-- Owned by an interface, a property has neither access, initializer nor mark; a derived one is
always readonly. -/
def propertyDefinition (resolver : Resolver) (property : Property)
    (decorators : List (Decorator κ)) (options : PropertyOptions) :
    Except BuildFailure (PropertyDefinition κ) :=
  (requiredName .ofProperty property.name).map fun name =>
    let inInterface := property.owner.isInterface
    let features := propertyFeatures property options
    let optionality := options.optionality.getD .questionToken
    let typeName := resolver.elementTypeName property.type
    let isMultivalued := property.multiplicity.isMultivalued
    let isOptional := property.multiplicity.isOptional && features.optionalModifier
    let defaultValue :=
      if features.initializer && !inInterface then
        DefaultRequest.initializer {
          typeName, isMultivalued, isOptional, optionality
          value := property.defaultValue
          initializePrimitive := options.initializePrimitive
          initializeArray := options.initializeArray }
      else none
    { name
      description := if features.description then commentBodies property.comments else []
      typeName
      isMultivalued
      access :=
        if features.accessModifier && !inInterface then
          property.visibility.bind AccessModifier.ofVisibility?
        else none
      isReadonly := (features.readonlyModifier && property.isReadOnly) || property.isDerived
      isStatic := property.isStatic
      isOptional
      usesQuestionToken := isOptional && optionality.usesQuestionToken
      hasNullUnion := isOptional && optionality.usesNull
      usesDefiniteAssignment :=
        !isOptional && defaultValue.isNone && !inInterface && features.definiteAssignment
      defaultValue
      decorators }

def parameterDefinition (resolver : Resolver) (inConstructor : Bool)
    (features : ParameterFeatures) (optionality : Optionality) (parameter : Parameter) :
    Except BuildFailure ParameterDefinition :=
  (requiredName .ofParameter parameter.name).map fun name =>
    let isOptional := parameter.multiplicity.isOptional && features.optionalModifier
    { name
      description := if features.description then commentBodies parameter.comments else []
      typeName := resolver.elementTypeName parameter.type
      isMultivalued := parameter.multiplicity.isMultivalued
      isOptional
      isResult := parameter.isResult
      usesQuestionToken := isOptional && optionality.usesQuestionToken
      hasNullUnion := isOptional && optionality.usesNull
      access :=
        if inConstructor then parameter.visibility.bind AccessModifier.ofVisibility? else none
      inDocs := features.description }

/-- A constructor has none. -/
def functionName (operation : Operation) : Except BuildFailure (Option String) :=
  if operation.isConstructor then .ok none
  else (requiredName .ofFunction operation.name).map some

/-- A constructor declares none. -/
def declaredResult? (operation : Operation) : Option Parameter :=
  if operation.isConstructor then none else operation.result?

def functionDefinition (resolver : Resolver) (operation : Operation)
    (options : FunctionOptions) : Except BuildFailure FunctionDefinition :=
  (functionName operation).bind fun name =>
    let inInterface := operation.owner.isInterface
    let features := options.features.getD .all
    let parameterFeatures := options.parameterFeatures.getD .all
    let parameterOptionality := options.parameterOptionality.getD .questionToken
    let returnOptionality := options.returnOptionality.getD .nullKeyword
    let result? := declaredResult? operation
    let returnsOptional :=
      result?.any fun result => result.multiplicity.isOptional && features.optionalModifier
    (operation.parameters.mapM (resolver.parameterDefinition operation.isConstructor
      parameterFeatures parameterOptionality)).map fun parameters => {
        name
        description := if features.description then commentBodies operation.comments else []
        access :=
          if features.accessModifier && !inInterface then
            operation.visibility.bind AccessModifier.ofVisibility?
          else none
        isAbstract := operation.isAbstract && !operation.isConstructor && !inInterface
        isStatic := operation.isStatic
        isConstructor := operation.isConstructor
        returnTypeName := result?.map fun result => resolver.elementTypeName result.type
        returnsMultivalued := result?.any fun result => result.multiplicity.isMultivalued
        returnsOptional
        returnUsesQuestionToken := returnsOptional && returnOptionality.usesQuestionToken
        returnHasNullUnion := returnsOptional && returnOptionality.usesNull
        parameters
        multiLineSignature := options.multiLineSignature }

end Resolver

/-! ## Names that are required -/

theorem requiredName_of_ne {element : Named} {name : String} (named : name ≠ "") :
    requiredName element name = .ok name := by
  rw [requiredName, if_neg]
  simpa using named

theorem eq_of_requiredName {element : Named} {name given : String}
    (isOk : requiredName element name = .ok given) : given = name := by
  rw [requiredName] at isOk
  split at isOk
  · simp at isOk
  · exact (Except.ok.inj isOk).symm

end Typescribe
