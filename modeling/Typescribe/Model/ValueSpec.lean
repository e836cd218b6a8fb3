import Typescribe.Decimal.Reading
import Typescribe.Decimal.Shortest
import Typescribe.Json.Form
/-!
# Values in a model

A literal, or an expression kept as source text. A real literal has no number in JSON: where it
is allowed it is written as the text of the real, so that every value has a form.
-/
set_option autoImplicit false

namespace Typescribe

inductive ValueSpec where
  | text (value : String)
  | integer (value : Int64)
  | real (value : Binary64)
  | boolean (value : Bool)
  | null
  | expression (source : String)
  deriving DecidableEq, Repr

namespace ValueSpec

def plainText : ValueSpec → String
  | .text value => value
  | .integer value => toString value.toInt
  | .real value => value.text
  | .boolean value => if value then "true" else "false"
  | .null => "null"
  | .expression source => source

def isText : ValueSpec → Bool
  | .text _ => true
  | _ => false

def isInteger : ValueSpec → Bool
  | .integer _ => true
  | _ => false

/-- A real literal is read by `ofJsonWithReals?` alone. -/
instance : JsonForm ValueSpec where
  toJson
    | .text value => .record [("literal_string", toJson value)]
    | .integer value => .record [("literal_integer", toJson value)]
    | .real value => .record [("literal_real", .text value.text)]
    | .boolean value => .record [("literal_boolean", toJson value)]
    | .null => .text "literal_null"
    | .expression source => .record [("expression", toJson source)]
  ofJson? value := value.choice?.bind fun choice =>
    match choice with
    | ("literal_string", some carried) => (ofJson? carried).map .text
    | ("literal_integer", some carried) => (ofJson? carried).map .integer
    | ("literal_boolean", some carried) => (ofJson? carried).map .boolean
    | ("literal_null", carried) => if Json.carriesNothing carried then some .null else none
    | ("expression", some carried) => (ofJson? carried).map .expression
    | _ => none

def ofJsonWithReals? : Json → Option ValueSpec
  | .record [("literal_real", .text written)] => (Binary64.ofText? written).map .real
  | value => ofJson? value

end ValueSpec

end Typescribe
