import Typescribe.Json.Form
/-!
# References to types

A type of the model is one of five primitives, or a data type, class, interface or enumeration
that is known by its name.
-/
set_option autoImplicit false

namespace Typescribe

inductive Primitive where
  | boolean
  | integer
  | real
  | string
  | object
  deriving DecidableEq, Repr

namespace Primitive

def name : Primitive → String
  | .boolean => "Boolean"
  | .integer => "Integer"
  | .real => "Real"
  | .string => "String"
  | .object => "Object"

instance : JsonForm Primitive where
  toJson primitive := .text primitive.name
  ofJson? value := value.choice?.bind fun choice =>
    match choice.1, Json.carriesNothing choice.2 with
    | "Boolean", true => some .boolean
    | "Integer", true => some .integer
    | "Real", true => some .real
    | "String", true => some .string
    | "Object", true => some .object
    | _, _ => none

end Primitive

inductive TypeRef where
  | primitive (kind : Primitive)
  | dataType (name : String)
  | classType (name : String)
  | interfaceType (name : String)
  | enumerationType (name : String)
  deriving DecidableEq, Repr

namespace TypeRef

def name : TypeRef → String
  | .primitive kind => kind.name
  | .dataType name | .classType name | .interfaceType name | .enumerationType name => name

def asPrimitive? : TypeRef → Option Primitive
  | .primitive kind => some kind
  | _ => none

def isDataType : TypeRef → Bool
  | .primitive _ | .dataType _ => true
  | _ => false

instance : JsonForm TypeRef where
  toJson
    | .primitive kind => .record [("primitive", toJson kind)]
    | .dataType name => .record [("data_type", toJson name)]
    | .classType name => .record [("class", toJson name)]
    | .interfaceType name => .record [("interface", toJson name)]
    | .enumerationType name => .record [("enumeration", toJson name)]
  ofJson? value := value.choice?.bind fun choice =>
    match choice with
    | ("primitive", some carried) => (ofJson? carried).map .primitive
    | ("data_type", some carried) => (ofJson? carried).map .dataType
    | ("class", some carried) => (ofJson? carried).map .classType
    | ("interface", some carried) => (ofJson? carried).map .interfaceType
    | ("enumeration", some carried) => (ofJson? carried).map .enumerationType
    | _ => none

end TypeRef

end Typescribe
