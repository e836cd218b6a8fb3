import Typescribe.Decimal.Binary64
import Typescribe.Json.Basic
/-!
# TOML values

What a TOML document holds. A table remembers how it came to be, since that decides what later
lines may add to it. The records of this library read a document through its JSON form, which
a document with an oversized number does not have.
-/
set_option autoImplicit false

namespace Typescribe

inductive TableOrigin where
  | inline
  /-- It lies on the way to the table of a header. -/
  | implied
  | headed
  /-- It lies on the way of a dotted key. -/
  | dotted
  deriving DecidableEq, Repr

inductive Toml where
  | text (value : String)
  | integer (value : Int)
  | real (value : Binary64)
  /-- Too large for an integer or a real. -/
  | oversized
  | bool (value : Bool)
  /-- A date, a time of day or both; no record holds one, so it is not kept. -/
  | moment
  | list (items : List Toml)
  | table (origin : TableOrigin) (fields : List (String × Toml))
  | tables (elements : List (List (String × Toml)))

namespace Toml

mutual

/-- A moment is a record of one field that no record of this library has. -/
def toJson? : Toml → Option Json
  | .text value => some (.text value)
  | .integer value => some (.int value)
  | .real _ => some .fraction
  | .oversized => none
  | .bool value => some (.bool value)
  | .moment => some (.record [("moment", .null)])
  | .list items => (itemsToJson? items).map .list
  | .table _ fields => (fieldsToJson? fields).map .record
  | .tables elements => (elementsToJson? elements).map .list

def itemsToJson? : List Toml → Option (List Json)
  | [] => some []
  | item :: items => do return (← item.toJson?) :: (← itemsToJson? items)

def fieldsToJson? : List (String × Toml) → Option (List (String × Json))
  | [] => some []
  | (name, value) :: fields => do return (name, ← value.toJson?) :: (← fieldsToJson? fields)

def elementsToJson? : List (List (String × Toml)) → Option (List Json)
  | [] => some []
  | fields :: elements => do
    return .record (← fieldsToJson? fields) :: (← elementsToJson? elements)

end

end Toml

end Typescribe
