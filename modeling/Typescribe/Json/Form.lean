import Typescribe.Json.Basic
/-!
# JSON forms

A type with a JSON form can be written as a JSON value and read back; reading fails on a value
of another shape. `required` and `orElse` read one field of a record, given what
`Json.fields?` found for it.
-/
set_option autoImplicit false

namespace Typescribe

class JsonForm (α : Type) where
  toJson : α → Json
  ofJson? : Json → Option α

export JsonForm (toJson ofJson?)

def required {α : Type} [JsonForm α] : Option Json → Option α
  | some value => ofJson? value
  | none => none

/-- A field that is there is read, `null` included. -/
def orElse {α : Type} [JsonForm α] (absent : α) : Option Json → Option α
  | some value => ofJson? value
  | none => some absent

def readNullable {α : Type} (read : Json → Option α) : Json → Option (Option α)
  | .null => some none
  | value => (read value).map some

def readOrElse {α : Type} (read : Json → Option α) (absent : α) : Option Json → Option α
  | some value => read value
  | none => some absent

def unlessEmpty {α : Type} [JsonForm (List α)] (name : String) (items : List α) :
    List (String × Json) :=
  if items.isEmpty then [] else [(name, toJson items)]

instance : JsonForm String where
  toJson := .text
  ofJson?
    | .text value => some value
    | _ => none

instance : JsonForm Bool where
  toJson := .bool
  ofJson?
    | .bool value => some value
    | _ => none

instance : JsonForm UInt8 where
  toJson value := .int value.toNat
  ofJson?
    | .int value =>
      if 0 ≤ value ∧ value.toNat < UInt8.size then some value.toNat.toUInt8 else none
    | _ => none

instance : JsonForm UInt32 where
  toJson value := .int value.toNat
  ofJson?
    | .int value =>
      if 0 ≤ value ∧ value.toNat < UInt32.size then some value.toNat.toUInt32 else none
    | _ => none

instance : JsonForm UInt64 where
  toJson value := .int value.toNat
  ofJson?
    | .int value =>
      if 0 ≤ value ∧ value.toNat < UInt64.size then some value.toNat.toUInt64 else none
    | _ => none

instance : JsonForm Int64 where
  toJson value := .int value.toInt
  ofJson?
    | .int value =>
      if Int64.minValue.toInt ≤ value ∧ value ≤ Int64.maxValue.toInt then
        some (Int64.ofInt value)
      else none
    | _ => none

instance {α : Type} [JsonForm α] : JsonForm (List α) where
  toJson items := .list (items.map toJson)
  ofJson?
    | .list items => items.mapM ofJson?
    | _ => none

instance {α : Type} [JsonForm α] : JsonForm (Option α) where
  toJson
    | none => .null
    | some value => toJson value
  ofJson?
    | .null => some none
    | value => (ofJson? value).map some

end Typescribe
