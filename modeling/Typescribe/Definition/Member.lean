import Typescribe.Definition.Decorator
import Typescribe.Definition.Modifier
/-!
# Members

Plain data for the properties and functions of classes and interfaces, and for functions that
stand alone. Marks for optional elements are written only on elements that are optional.
-/
set_option autoImplicit false

namespace Typescribe

variable {κ : Type}

structure PropertyDefinition (κ : Type) where
  name : String := ""
  description : List String := []
  /-- The type of one element, without brackets. -/
  typeName : String := ""
  isMultivalued : Bool := false
  access : Option AccessModifier := none
  isReadonly : Bool := false
  isStatic : Bool := false
  isOptional : Bool := false
  usesQuestionToken : Bool := false
  hasNullUnion : Bool := false
  /-- Written only if the property is required and has no initializer. -/
  usesDefiniteAssignment : Bool := false
  defaultValue : Option String := none
  decorators : List (Decorator κ) := []

namespace PropertyDefinition

def ofType (name typeName : String) : PropertyDefinition κ := { name, typeName }

def toJson? (definition : PropertyDefinition κ) : Option Json :=
  (Decorator.listField? definition.decorators).map fun decorators => .record (
    [("name", toJson definition.name)]
    ++ unlessEmpty "description" definition.description
    ++ [("type_name", toJson definition.typeName),
      ("is_multivalued", toJson definition.isMultivalued),
      ("access_modifier", toJson definition.access),
      ("is_readonly", toJson definition.isReadonly),
      ("is_static", toJson definition.isStatic),
      ("is_optional", toJson definition.isOptional),
      ("use_question_token", toJson definition.usesQuestionToken),
      ("has_null_union_type", toJson definition.hasNullUnion),
      ("use_definite_assignment_assertion_modifier", toJson definition.usesDefiniteAssignment),
      ("default_value", toJson definition.defaultValue)]
    ++ decorators)

def ofJson? (value : Json) : Option (PropertyDefinition κ) := do
  let [name, description, typeName, isMultivalued, access, isReadonly, isStatic, isOptional,
      usesQuestionToken, hasNullUnion, usesDefiniteAssignment, defaultValue, decorators] ←
      value.fields? ["name", "description", "type_name", "is_multivalued", "access_modifier",
        "is_readonly", "is_static", "is_optional", "use_question_token",
        "has_null_union_type", "use_definite_assignment_assertion_modifier", "default_value",
        "decorators"]
    | none
  return {
    name := ← orElse "" name
    description := ← orElse [] description
    typeName := ← orElse "" typeName
    isMultivalued := ← orElse false isMultivalued
    access := ← orElse none access
    isReadonly := ← orElse false isReadonly
    isStatic := ← orElse false isStatic
    isOptional := ← orElse false isOptional
    usesQuestionToken := ← orElse false usesQuestionToken
    hasNullUnion := ← orElse false hasNullUnion
    usesDefiniteAssignment := ← orElse false usesDefiniteAssignment
    defaultValue := ← orElse none defaultValue
    decorators := ← Decorator.readList? decorators }

end PropertyDefinition

structure ParameterDefinition where
  name : String := ""
  description : List String := []
  typeName : String := ""
  isMultivalued : Bool := false
  isOptional : Bool := false
  /-- A result is documented, but not written among the parameters. -/
  isResult : Bool := false
  usesQuestionToken : Bool := false
  hasNullUnion : Bool := false
  /-- Written only in constructors. -/
  access : Option AccessModifier := none
  /-- A doc tag is written even without a description. -/
  inDocs : Bool := false
  deriving DecidableEq

namespace ParameterDefinition

def ofType (name typeName : String) : ParameterDefinition := { name, typeName }

instance : JsonForm ParameterDefinition where
  toJson definition := .record (
    [("name", toJson definition.name)]
    ++ unlessEmpty "description" definition.description
    ++ [("type_name", toJson definition.typeName),
      ("is_multivalued", toJson definition.isMultivalued),
      ("is_optional", toJson definition.isOptional),
      ("is_return", toJson definition.isResult),
      ("use_question_token", toJson definition.usesQuestionToken),
      ("has_null_union_type", toJson definition.hasNullUnion),
      ("access_modifier", toJson definition.access),
      ("include_in_js_doc", toJson definition.inDocs)])
  ofJson? value := do
    let [name, description, typeName, isMultivalued, isOptional, isResult, usesQuestionToken,
        hasNullUnion, access, inDocs] ← value.fields? ["name", "description", "type_name",
          "is_multivalued", "is_optional", "is_return", "use_question_token",
          "has_null_union_type", "access_modifier", "include_in_js_doc"]
      | none
    return {
      name := ← orElse "" name
      description := ← orElse [] description
      typeName := ← orElse "" typeName
      isMultivalued := ← orElse false isMultivalued
      isOptional := ← orElse false isOptional
      isResult := ← orElse false isResult
      usesQuestionToken := ← orElse false usesQuestionToken
      hasNullUnion := ← orElse false hasNullUnion
      access := ← orElse none access
      inDocs := ← orElse false inDocs }

end ParameterDefinition

structure FunctionDefinition where
  /-- Absent only for constructors. -/
  name : Option String := none
  description : List String := []
  access : Option AccessModifier := none
  isAbstract : Bool := false
  isStatic : Bool := false
  isConstructor : Bool := false
  /-- Written as `void` if absent. -/
  returnTypeName : Option String := none
  returnsMultivalued : Bool := false
  returnsOptional : Bool := false
  returnUsesQuestionToken : Bool := false
  returnHasNullUnion : Bool := false
  parameters : List ParameterDefinition := []
  multiLineSignature : Bool := false
  deriving DecidableEq

namespace FunctionDefinition

def ofName (name : String) : FunctionDefinition := { name := some name }

def constructor : FunctionDefinition := { isConstructor := true }

def withParameter (definition : FunctionDefinition) (parameter : ParameterDefinition) :
    FunctionDefinition :=
  { definition with parameters := definition.parameters ++ [parameter] }

def returning (definition : FunctionDefinition) (typeName : String) : FunctionDefinition :=
  { definition with returnTypeName := some typeName }

def inputs (definition : FunctionDefinition) : List ParameterDefinition :=
  definition.parameters.filter fun parameter => !parameter.isResult

instance : JsonForm FunctionDefinition where
  toJson definition := .record (
    [("name", toJson definition.name)]
    ++ unlessEmpty "description" definition.description
    ++ [("access_modifier", toJson definition.access),
      ("is_abstract", toJson definition.isAbstract),
      ("is_static", toJson definition.isStatic),
      ("is_constructor", toJson definition.isConstructor),
      ("return_type_name", toJson definition.returnTypeName),
      ("returns_multivalued", toJson definition.returnsMultivalued),
      ("returns_optional", toJson definition.returnsOptional),
      ("return_uses_question_token", toJson definition.returnUsesQuestionToken),
      ("return_has_null_union_type", toJson definition.returnHasNullUnion),
      ("parameters", toJson definition.parameters),
      ("multi_line_signature", toJson definition.multiLineSignature)])
  ofJson? value := do
    let [name, description, access, isAbstract, isStatic, isConstructor, returnTypeName,
        returnsMultivalued, returnsOptional, returnUsesQuestionToken, returnHasNullUnion,
        parameters, multiLineSignature] ← value.fields? ["name", "description",
          "access_modifier", "is_abstract", "is_static", "is_constructor",
          "return_type_name", "returns_multivalued", "returns_optional",
          "return_uses_question_token", "return_has_null_union_type", "parameters",
          "multi_line_signature"]
      | none
    return {
      name := ← orElse none name
      description := ← orElse [] description
      access := ← orElse none access
      isAbstract := ← orElse false isAbstract
      isStatic := ← orElse false isStatic
      isConstructor := ← orElse false isConstructor
      returnTypeName := ← orElse none returnTypeName
      returnsMultivalued := ← orElse false returnsMultivalued
      returnsOptional := ← orElse false returnsOptional
      returnUsesQuestionToken := ← orElse false returnUsesQuestionToken
      returnHasNullUnion := ← orElse false returnHasNullUnion
      parameters := ← orElse [] parameters
      multiLineSignature := ← orElse false multiLineSignature }

end FunctionDefinition

end Typescribe
