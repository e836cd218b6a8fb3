import Typescribe.Json.Form
/-!
# Indentation

The text of one level of indentation: a tab, or two, four or eight spaces. Any other number of
spaces counts as four.
-/
set_option autoImplicit false

namespace Typescribe

inductive Indent where
  | spaces (width : UInt8)
  | tab
  deriving DecidableEq, Repr

namespace Indent

def standard : Indent := .spaces 2

def unit : Indent → String
  | .spaces width =>
    if width = 2 then "  " else if width = 8 then "        " else "    "
  | .tab => "\t"

instance : JsonForm Indent where
  toJson
    | .spaces width => .record [("spaces", toJson width)]
    | .tab => .text "tab"
  ofJson? value := value.choice?.bind fun choice =>
    match choice with
    | ("spaces", some carried) => (ofJson? carried).map .spaces
    | ("tab", carried) => if Json.carriesNothing carried then some .tab else none
    | _ => none

end Indent

end Typescribe
