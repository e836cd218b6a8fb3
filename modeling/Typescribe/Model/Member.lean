import Typescribe.Model.Multiplicity
import Typescribe.Model.TypeRef
import Typescribe.Model.ValueSpec
import Typescribe.Model.Visibility
/-!
# Members of classifiers

Properties, and operations with their parameters. The result of an operation is a parameter
whose direction is `result`.
-/
set_option autoImplicit false

namespace Typescribe

structure Property where
  name : String
  visibility : Option Visibility := none
  comments : List Comment := []
  type : Option TypeRef := none
  multiplicity : Multiplicity := .one
  isReadOnly : Bool := false
  isStatic : Bool := false
  isDerived : Bool := false
  defaultValue : Option ValueSpec := none
  owner : Owner := .unowned

namespace Property

def ofType (name : String) (type : TypeRef) : Property := { name, type := some type }

def withComment (property : Property) (body : String) : Property :=
  { property with comments := property.comments ++ [⟨body⟩] }

def read (readValue : Json → Option ValueSpec) (value : Json) : Option Property := do
  let [name, visibility, comments, type, multiplicity, isReadOnly, isStatic, isDerived,
      defaultValue, owner] ← value.fields? ["name", "visibility", "owned_comments", "type",
        "multiplicity", "is_read_only", "is_static", "is_derived", "default_value", "owner"]
    | none
  return {
    name := ← required name
    visibility := ← orElse none visibility
    comments := ← orElse [] comments
    type := ← orElse none type
    multiplicity := ← orElse .one multiplicity
    isReadOnly := ← orElse false isReadOnly
    isStatic := ← orElse false isStatic
    isDerived := ← orElse false isDerived
    defaultValue := ← readOrElse (readNullable readValue) none defaultValue
    owner := ← orElse .unowned owner }

instance : JsonForm Property where
  toJson property := .record [
    ("name", toJson property.name),
    ("visibility", toJson property.visibility),
    ("owned_comments", toJson property.comments),
    ("type", toJson property.type),
    ("multiplicity", toJson property.multiplicity),
    ("is_read_only", toJson property.isReadOnly),
    ("is_static", toJson property.isStatic),
    ("is_derived", toJson property.isDerived),
    ("default_value", toJson property.defaultValue),
    ("owner", toJson property.owner)]
  ofJson? := read ofJson?

def ofJsonWithReals? : Json → Option Property := read ValueSpec.ofJsonWithReals?

end Property

inductive Direction where
  | input
  | output
  | both
  | result
  deriving DecidableEq, Repr

namespace Direction

def name : Direction → String
  | .input => "in"
  | .output => "out"
  | .both => "in_out"
  | .result => "return"

instance : JsonForm Direction where
  toJson direction := .text direction.name
  ofJson? value := value.choice?.bind fun choice =>
    match choice.1, Json.carriesNothing choice.2 with
    | "in", true => some .input
    | "out", true => some .output
    | "in_out", true => some .both
    | "return", true => some .result
    | _, _ => none

end Direction

structure Parameter where
  name : String
  /-- Of use only for parameters of constructors. -/
  visibility : Option Visibility := none
  comments : List Comment := []
  type : Option TypeRef := none
  multiplicity : Multiplicity := .one
  direction : Direction := .input

namespace Parameter

def ofType (name : String) (type : TypeRef) : Parameter := { name, type := some type }

def returning (type : TypeRef) : Parameter :=
  { ofType "return" type with direction := .result }

def withComment (parameter : Parameter) (body : String) : Parameter :=
  { parameter with comments := parameter.comments ++ [⟨body⟩] }

def isResult (parameter : Parameter) : Bool := parameter.direction == .result

instance : JsonForm Parameter where
  toJson parameter := .record [
    ("name", toJson parameter.name),
    ("visibility", toJson parameter.visibility),
    ("owned_comments", toJson parameter.comments),
    ("type", toJson parameter.type),
    ("multiplicity", toJson parameter.multiplicity),
    ("direction", toJson parameter.direction)]
  ofJson? value := do
    let [name, visibility, comments, type, multiplicity, direction] ←
        value.fields? ["name", "visibility", "owned_comments", "type", "multiplicity",
          "direction"]
      | none
    return {
      name := ← required name
      visibility := ← orElse none visibility
      comments := ← orElse [] comments
      type := ← orElse none type
      multiplicity := ← orElse .one multiplicity
      direction := ← orElse .input direction }

end Parameter

structure Operation where
  name : String
  visibility : Option Visibility := none
  comments : List Comment := []
  parameters : List Parameter := []
  isStatic : Bool := false
  isAbstract : Bool := false
  isConstructor : Bool := false
  owner : Owner := .unowned

namespace Operation

def ofName (name : String) : Operation := { name }

def constructor : Operation := { name := "constructor", isConstructor := true }

def withComment (operation : Operation) (body : String) : Operation :=
  { operation with comments := operation.comments ++ [⟨body⟩] }

def withParameter (operation : Operation) (parameter : Parameter) : Operation :=
  { operation with parameters := operation.parameters ++ [parameter] }

def returning (operation : Operation) (type : TypeRef) : Operation :=
  operation.withParameter (.returning type)

def result? (operation : Operation) : Option Parameter :=
  operation.parameters.find? Parameter.isResult

instance : JsonForm Operation where
  toJson operation := .record [
    ("name", toJson operation.name),
    ("visibility", toJson operation.visibility),
    ("owned_comments", toJson operation.comments),
    ("owned_parameters", toJson operation.parameters),
    ("is_static", toJson operation.isStatic),
    ("is_abstract", toJson operation.isAbstract),
    ("is_constructor", toJson operation.isConstructor),
    ("owner", toJson operation.owner)]
  ofJson? value := do
    let [name, visibility, comments, parameters, isStatic, isAbstract, isConstructor, owner] ←
        value.fields? ["name", "visibility", "owned_comments", "owned_parameters", "is_static",
          "is_abstract", "is_constructor", "owner"]
      | none
    return {
      name := ← required name
      visibility := ← orElse none visibility
      comments := ← orElse [] comments
      parameters := ← orElse [] parameters
      isStatic := ← orElse false isStatic
      isAbstract := ← orElse false isAbstract
      isConstructor := ← orElse false isConstructor
      owner := ← orElse .unowned owner }

end Operation

end Typescribe
