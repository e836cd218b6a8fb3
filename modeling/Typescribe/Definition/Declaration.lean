import Typescribe.Definition.Decorator
import Typescribe.Definition.Modifier
import Typescribe.Text.Quoted
/-!
# Declarations

Plain data for everything that is declared at the level of a module: classes, interfaces,
enums, string literal types and variables. A declaration holds exactly what is written; no
option or feature is consulted after it is built. Empty lists of texts and decorators are left
out of the JSON form.
-/
set_option autoImplicit false

namespace Typescribe

variable {κ : Type}

structure ClassDefinition (κ : Type) where
  name : String := ""
  description : List String := []
  isExported : Bool := false
  isDeclared : Bool := false
  decorators : List (Decorator κ) := []
  isAbstract : Bool := false
  parents : List String := []
  contracts : List String := []

namespace ClassDefinition

def ofName (name : String) : ClassDefinition κ := { name }

def toJson? (definition : ClassDefinition κ) : Option Json :=
  (Decorator.listField? definition.decorators).map fun decorators => .record (
    [("name", toJson definition.name)]
    ++ unlessEmpty "description" definition.description
    ++ [("export", toJson definition.isExported), ("declare", toJson definition.isDeclared)]
    ++ decorators
    ++ [("is_abstract", toJson definition.isAbstract)]
    ++ unlessEmpty "extends" definition.parents
    ++ unlessEmpty "implements" definition.contracts)

def ofJson? (value : Json) : Option (ClassDefinition κ) := do
  let [name, description, isExported, isDeclared, decorators, isAbstract, parents, contracts] ←
      value.fields? ["name", "description", "export", "declare", "decorators", "is_abstract",
        "extends", "implements"]
    | none
  return {
    name := ← orElse "" name
    description := ← orElse [] description
    isExported := ← orElse false isExported
    isDeclared := ← orElse false isDeclared
    decorators := ← Decorator.readList? decorators
    isAbstract := ← orElse false isAbstract
    parents := ← orElse [] parents
    contracts := ← orElse [] contracts }

end ClassDefinition

structure InterfaceDefinition where
  name : String := ""
  description : List String := []
  isExported : Bool := false
  isDeclared : Bool := false
  parents : List String := []
  deriving DecidableEq

namespace InterfaceDefinition

def ofName (name : String) : InterfaceDefinition := { name }

instance : JsonForm InterfaceDefinition where
  toJson definition := .record (
    [("name", toJson definition.name)]
    ++ unlessEmpty "description" definition.description
    ++ [("export", toJson definition.isExported), ("declare", toJson definition.isDeclared)]
    ++ unlessEmpty "extends" definition.parents)
  ofJson? value := do
    let [name, description, isExported, isDeclared, parents] ← value.fields?
        ["name", "description", "export", "declare", "extends"]
      | none
    return {
      name := ← orElse "" name
      description := ← orElse [] description
      isExported := ← orElse false isExported
      isDeclared := ← orElse false isDeclared
      parents := ← orElse [] parents }

end InterfaceDefinition

inductive EnumValue where
  | number (value : Int64)
  | text (value : String)
  deriving DecidableEq, Repr

namespace EnumValue

def render : EnumValue → String
  | .number value => toString value.toInt
  | .text value => Text.quotedString value

instance : JsonForm EnumValue where
  toJson
    | .number value => toJson value
    | .text value => toJson value
  ofJson? value := ((ofJson? value).map .number).orElse fun _ => (ofJson? value).map .text

end EnumValue

structure EnumMember where
  name : String := ""
  description : List String := []
  value : Option EnumValue := none
  deriving DecidableEq

namespace EnumMember

def ofName (name : String) : EnumMember := { name }

instance : JsonForm EnumMember where
  toJson member := .record (
    [("name", toJson member.name)]
    ++ unlessEmpty "description" member.description
    ++ [("value", toJson member.value)])
  ofJson? value := do
    let [name, description, value] ← value.fields? ["name", "description", "value"] | none
    return {
      name := ← orElse "" name
      description := ← orElse [] description
      value := ← orElse none value }

end EnumMember

structure EnumDefinition where
  name : String := ""
  description : List String := []
  isExported : Bool := false
  isDeclared : Bool := false
  isConst : Bool := false
  members : List EnumMember := []
  deriving DecidableEq

namespace EnumDefinition

def ofName (name : String) : EnumDefinition := { name }

def withMember (definition : EnumDefinition) (member : EnumMember) : EnumDefinition :=
  { definition with members := definition.members ++ [member] }

instance : JsonForm EnumDefinition where
  toJson definition := .record (
    [("name", toJson definition.name)]
    ++ unlessEmpty "description" definition.description
    ++ [("export", toJson definition.isExported), ("declare", toJson definition.isDeclared),
      ("const", toJson definition.isConst), ("members", toJson definition.members)])
  ofJson? value := do
    let [name, description, isExported, isDeclared, isConst, members] ← value.fields?
        ["name", "description", "export", "declare", "const", "members"]
      | none
    return {
      name := ← orElse "" name
      description := ← orElse [] description
      isExported := ← orElse false isExported
      isDeclared := ← orElse false isDeclared
      isConst := ← orElse false isConst
      members := ← orElse [] members }

end EnumDefinition

structure StringLiteralType where
  name : String := ""
  description : List String := []
  isExported : Bool := false
  isDeclared : Bool := false
  literals : List String := []
  deriving DecidableEq

instance : JsonForm StringLiteralType where
  toJson definition := .record (
    [("name", toJson definition.name)]
    ++ unlessEmpty "description" definition.description
    ++ [("export", toJson definition.isExported), ("declare", toJson definition.isDeclared),
      ("literals", toJson definition.literals)])
  ofJson? value := do
    let [name, description, isExported, isDeclared, literals] ← value.fields?
        ["name", "description", "export", "declare", "literals"]
      | none
    return {
      name := ← orElse "" name
      description := ← orElse [] description
      isExported := ← orElse false isExported
      isDeclared := ← orElse false isDeclared
      literals := ← orElse [] literals }

structure VariableDefinition where
  name : String := ""
  description : List String := []
  isExported : Bool := false
  isDeclared : Bool := false
  kind : VariableKind := .constant
  typeName : Option String := none
  initializer : Option String := none
  deriving DecidableEq

namespace VariableDefinition

def ofName (name : String) : VariableDefinition := { name }

instance : JsonForm VariableDefinition where
  toJson definition := .record (
    [("name", toJson definition.name)]
    ++ unlessEmpty "description" definition.description
    ++ [("export", toJson definition.isExported), ("declare", toJson definition.isDeclared),
      ("kind", toJson definition.kind), ("type_name", toJson definition.typeName),
      ("initializer", toJson definition.initializer)])
  ofJson? value := do
    let [name, description, isExported, isDeclared, kind, typeName, initializer] ←
        value.fields? ["name", "description", "export", "declare", "kind", "type_name",
          "initializer"]
      | none
    return {
      name := ← orElse "" name
      description := ← orElse [] description
      isExported := ← orElse false isExported
      isDeclared := ← orElse false isDeclared
      kind := ← orElse .constant kind
      typeName := ← orElse none typeName
      initializer := ← orElse none initializer }

end VariableDefinition

end Typescribe
