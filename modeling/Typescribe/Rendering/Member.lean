import Typescribe.Definition.Member
import Typescribe.Text.Split
/-!
# Text of members

Properties, parameters and signatures of functions, without indentation. A signature has a
head, a list of parameters and a tail, and the layout of the parameters is left to the writer.
-/
set_option autoImplicit false

namespace Typescribe

variable {κ : Type}

def accessPrefix : Option AccessModifier → String
  | none => ""
  | some access => access.keyword ++ " "

def typeText (typeName : String) (isMultivalued withNull : Bool) : String :=
  typeName ++ (if isMultivalued then "[]" else "") ++ if withNull then " | null" else ""

namespace PropertyDefinition

def mark (definition : PropertyDefinition κ) : String :=
  if definition.isOptional && definition.usesQuestionToken then "?"
  else if !definition.isOptional && definition.defaultValue.isNone
      && definition.usesDefiniteAssignment then "!"
  else ""

def content (definition : PropertyDefinition κ) : String :=
  accessPrefix definition.access
    ++ (if definition.isStatic then "static " else "")
    ++ (if definition.isReadonly then "readonly " else "")
    ++ definition.name ++ definition.mark ++ ": "
    ++ typeText definition.typeName definition.isMultivalued
        (definition.isOptional && definition.hasNullUnion)
    ++ (match definition.defaultValue with
      | none => ""
      | some value => " = " ++ value)
    ++ ";"

end PropertyDefinition

def ParameterDefinition.content (inConstructor : Bool) (definition : ParameterDefinition) :
    String :=
  (if inConstructor then accessPrefix definition.access else "")
    ++ definition.name
    ++ (if definition.isOptional && definition.usesQuestionToken then "?" else "")
    ++ ": "
    ++ typeText definition.typeName definition.isMultivalued
        (definition.isOptional && definition.hasNullUnion)

namespace FunctionDefinition

/-- A static function is not marked abstract. -/
def modifier (definition : FunctionDefinition) : String :=
  if definition.isStatic then "static "
  else if definition.isAbstract then "abstract "
  else ""

def head (definition : FunctionDefinition) : String :=
  if definition.isConstructor then "constructor"
  else
    accessPrefix definition.access ++ definition.modifier ++ definition.name.getD ""
      ++ if definition.returnsOptional && definition.returnUsesQuestionToken then "?" else ""

def parameterTexts (definition : FunctionDefinition) : List String :=
  definition.inputs.map (ParameterDefinition.content definition.isConstructor)

/-- The type of the result, except in constructors. -/
def tail (definition : FunctionDefinition) : String :=
  if definition.isConstructor then ""
  else ": " ++ typeText (definition.returnTypeName.getD "void") definition.returnsMultivalued
    (definition.returnsOptional && definition.returnHasNullUnion)

def isMultiLine (definition : FunctionDefinition) : Bool :=
  definition.multiLineSignature && !definition.inputs.isEmpty

end FunctionDefinition

end Typescribe
