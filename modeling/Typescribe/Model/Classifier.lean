import Typescribe.Model.Member
/-!
# Classes, interfaces and enumerations

The elements that a declaration is written for. Adding a member to a class or an interface
makes that element the owner of the member.
-/
set_option autoImplicit false

namespace Typescribe

structure Generalization where
  general : TypeRef
  deriving DecidableEq, Repr

instance : JsonForm Generalization where
  toJson relation := .record [("general", toJson relation.general)]
  ofJson? value := do
    let [general] ← value.fields? ["general"] | none
    return { general := ← required general }

structure Realization where
  contract : TypeRef
  deriving DecidableEq, Repr

instance : JsonForm Realization where
  toJson relation := .record [("contract", toJson relation.contract)]
  ofJson? value := do
    let [contract] ← value.fields? ["contract"] | none
    return { contract := ← required contract }

structure Class where
  name : String
  visibility : Option Visibility := none
  comments : List Comment := []
  isAbstract : Bool := false
  generalizations : List Generalization := []
  realizations : List Realization := []
  attributes : List Property := []
  operations : List Operation := []

namespace Class

def ofName (name : String) : Class := { name, visibility := some .pub }

def withComment (element : Class) (body : String) : Class :=
  { element with comments := element.comments ++ [⟨body⟩] }

def extending (element : Class) (general : TypeRef) : Class :=
  { element with generalizations := element.generalizations ++ [⟨general⟩] }

def realizing (element : Class) (contract : TypeRef) : Class :=
  { element with realizations := element.realizations ++ [⟨contract⟩] }

def withAttribute (element : Class) (property : Property) : Class :=
  { element with attributes := element.attributes ++ [{ property with owner := .ofClass }] }

def withOperation (element : Class) (operation : Operation) : Class :=
  { element with operations := element.operations ++ [{ operation with owner := .ofClass }] }

instance : JsonForm Class where
  toJson element := .record [
    ("name", toJson element.name),
    ("visibility", toJson element.visibility),
    ("owned_comments", toJson element.comments),
    ("is_abstract", toJson element.isAbstract),
    ("generalizations", toJson element.generalizations),
    ("interface_realizations", toJson element.realizations),
    ("owned_attributes", toJson element.attributes),
    ("owned_operations", toJson element.operations)]
  ofJson? value := do
    let [name, visibility, comments, isAbstract, generalizations, realizations, attributes,
        operations] ← value.fields? ["name", "visibility", "owned_comments", "is_abstract",
          "generalizations", "interface_realizations", "owned_attributes", "owned_operations"]
      | none
    return {
      name := ← required name
      visibility := ← orElse none visibility
      comments := ← orElse [] comments
      isAbstract := ← orElse false isAbstract
      generalizations := ← orElse [] generalizations
      realizations := ← orElse [] realizations
      attributes := ← orElse [] attributes
      operations := ← orElse [] operations }

end Class

structure Interface where
  name : String
  visibility : Option Visibility := none
  comments : List Comment := []
  generalizations : List Generalization := []
  attributes : List Property := []
  operations : List Operation := []

namespace Interface

def ofName (name : String) : Interface := { name, visibility := some .pub }

def withComment (element : Interface) (body : String) : Interface :=
  { element with comments := element.comments ++ [⟨body⟩] }

def extending (element : Interface) (general : TypeRef) : Interface :=
  { element with generalizations := element.generalizations ++ [⟨general⟩] }

def withAttribute (element : Interface) (property : Property) : Interface :=
  { element with
    attributes := element.attributes ++ [{ property with owner := .ofInterface }] }

def withOperation (element : Interface) (operation : Operation) : Interface :=
  { element with
    operations := element.operations ++ [{ operation with owner := .ofInterface }] }

instance : JsonForm Interface where
  toJson element := .record [
    ("name", toJson element.name),
    ("visibility", toJson element.visibility),
    ("owned_comments", toJson element.comments),
    ("generalizations", toJson element.generalizations),
    ("owned_attributes", toJson element.attributes),
    ("owned_operations", toJson element.operations)]
  ofJson? value := do
    let [name, visibility, comments, generalizations, attributes, operations] ←
        value.fields? ["name", "visibility", "owned_comments", "generalizations",
          "owned_attributes", "owned_operations"]
      | none
    return {
      name := ← required name
      visibility := ← orElse none visibility
      comments := ← orElse [] comments
      generalizations := ← orElse [] generalizations
      attributes := ← orElse [] attributes
      operations := ← orElse [] operations }

end Interface

structure EnumLiteral where
  name : String
  comments : List Comment := []
  specification : Option ValueSpec := none

namespace EnumLiteral

def ofName (name : String) : EnumLiteral := { name }

def withComment (literal : EnumLiteral) (body : String) : EnumLiteral :=
  { literal with comments := literal.comments ++ [⟨body⟩] }

instance : JsonForm EnumLiteral where
  toJson literal := .record [
    ("name", toJson literal.name),
    ("owned_comments", toJson literal.comments),
    ("specification", toJson literal.specification)]
  ofJson? value := do
    let [name, comments, specification] ←
        value.fields? ["name", "owned_comments", "specification"]
      | none
    return {
      name := ← required name
      comments := ← orElse [] comments
      specification :=
        ← readOrElse (readNullable ValueSpec.ofJsonWithReals?) none specification }

end EnumLiteral

structure Enumeration where
  name : String
  visibility : Option Visibility := none
  comments : List Comment := []
  literals : List EnumLiteral := []

namespace Enumeration

def ofName (name : String) : Enumeration := { name, visibility := some .pub }

def withComment (element : Enumeration) (body : String) : Enumeration :=
  { element with comments := element.comments ++ [⟨body⟩] }

def withLiterals (element : Enumeration) (literals : List EnumLiteral) : Enumeration :=
  { element with literals := element.literals ++ literals }

instance : JsonForm Enumeration where
  toJson element := .record [
    ("name", toJson element.name),
    ("visibility", toJson element.visibility),
    ("owned_comments", toJson element.comments),
    ("owned_literals", toJson element.literals)]
  ofJson? value := do
    let [name, visibility, comments, literals] ←
        value.fields? ["name", "visibility", "owned_comments", "owned_literals"]
      | none
    return {
      name := ← required name
      visibility := ← orElse none visibility
      comments := ← orElse [] comments
      literals := ← orElse [] literals }

end Enumeration

end Typescribe
