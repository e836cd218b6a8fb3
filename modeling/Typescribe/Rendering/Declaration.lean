import Typescribe.Definition.Declaration
import Typescribe.Text.Casing
/-!
# Text of declarations

The lines that open classes, interfaces and enums, and the whole text of declarations of one
line, without indentation.
-/
set_option autoImplicit false

namespace Typescribe

variable {κ : Type}

def exportKeywords (isExported isDeclared : Bool) : String :=
  (if isExported then "export " else "") ++ if isDeclared then "declare " else ""

/-- Nothing if there are no names. -/
def nameList (keyword : String) (names : List String) : String :=
  if names.isEmpty then "" else keyword ++ ", ".intercalate names

def ClassDefinition.header (definition : ClassDefinition κ) : String :=
  exportKeywords definition.isExported definition.isDeclared
    ++ (if definition.isAbstract then "abstract " else "")
    ++ "class " ++ definition.name
    ++ nameList " extends " definition.parents
    ++ nameList " implements " definition.contracts

def InterfaceDefinition.header (definition : InterfaceDefinition) : String :=
  exportKeywords definition.isExported definition.isDeclared
    ++ "interface " ++ definition.name ++ nameList " extends " definition.parents

def EnumDefinition.header (definition : EnumDefinition) : String :=
  exportKeywords definition.isExported definition.isDeclared
    ++ (if definition.isConst then "const " else "") ++ "enum " ++ definition.name

def EnumMember.content (member : EnumMember) : String :=
  member.name ++ match member.value with
    | none => ""
    | some value => " = " ++ value.render

/-- The empty union is `never`. -/
def StringLiteralType.union (definition : StringLiteralType) : String :=
  if definition.literals.isEmpty then "never"
  else " | ".intercalate (definition.literals.map Text.quotedString)

def StringLiteralType.content (definition : StringLiteralType) : String :=
  exportKeywords definition.isExported definition.isDeclared
    ++ "type " ++ definition.name ++ " = " ++ definition.union ++ ";"

def VariableDefinition.content (definition : VariableDefinition) : String :=
  exportKeywords definition.isExported definition.isDeclared
    ++ definition.kind.keyword ++ " " ++ definition.name
    ++ (match definition.typeName with
      | none => ""
      | some typeName => ": " ++ typeName)
    ++ (match definition.initializer with
      | none => ""
      | some initializer => " = " ++ initializer)
    ++ ";"

/-! ## Imports -/

/-- Every backslash becomes a slash. -/
def modulePath (name : String) : String := String.ofList (Text.replaced '\\' '/' name.toList)

def namedImport? (name : String) (names : List String) : Option String :=
  if name.isEmpty || names.isEmpty then none
  else some ("import \x7b " ++ ", ".intercalate names ++ " \x7d from '" ++ modulePath name ++ "';")

def importAlias (name : String) (given : Option String) : String :=
  match given with
  | some text => if text.isEmpty then derived else text
  | none => derived
where
  derived : String := String.ofList (Text.moduleAlias (modulePath name).toList)

def wholeImport? (name : String) (given : Option String) : Option String :=
  if name.isEmpty then none
  else some ("import * as " ++ importAlias name given ++ " from '" ++ modulePath name ++ "';")

end Typescribe
