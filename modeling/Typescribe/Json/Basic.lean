/-!
# JSON values

A JSON value as the records of this library are written and read. The library writes whole
numbers only, so a number with a fraction or an exponent is kept as `fraction`, without its
value: no record accepts it. A record is the list of its fields in the order written.
-/
set_option autoImplicit false

namespace Typescribe

inductive Json where
  | null
  | bool (value : Bool)
  | int (value : Int)
  | fraction
  | text (value : String)
  | list (items : List Json)
  | record (fields : List (String × Json))

namespace Json

/-- Other fields are ignored. A list of the first field values, in order, is a record too. -/
def fields? (names : List String) : Json → Option (List (Option Json))
  | .record fields => some (names.map fun name => fields.lookup name)
  | .list items =>
    if items.length ≤ names.length then
      some (items.map some ++ List.replicate (names.length - items.length) none)
    else none
  | _ => none

/-- As `fields?`, but other fields are refused. -/
def onlyFields? (names : List String) : Json → Option (List (Option Json))
  | .record fields =>
    if fields.all fun field => names.contains field.1 then (Json.record fields).fields? names
    else none
  | value => value.fields? names

def choice? : Json → Option (String × Option Json)
  | .text name => some (name, none)
  | .record [(name, carried)] => some (name, some carried)
  | _ => none

def carriesNothing : Option Json → Bool
  | none => true
  | some .null => true
  | some _ => false

end Json

end Typescribe
