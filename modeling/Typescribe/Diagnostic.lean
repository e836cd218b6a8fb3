import Typescribe.Json.Form
/-!
# Diagnostics

Warnings that are collected while definitions are built. A warning never stops the work; it
names something that the caller should change, and usually the element it was found on.
-/
set_option autoImplicit false

namespace Typescribe

structure Diagnostic where
  message : String
  location : Option String := none
  deriving DecidableEq, Repr

namespace Diagnostic

def warning (message : String) : Diagnostic := { message }

def located (diagnostic : Diagnostic) (location : String) : Diagnostic :=
  { diagnostic with location := some location }

def display (diagnostic : Diagnostic) : String :=
  "warning: " ++ diagnostic.message ++
    match diagnostic.location with
    | none => ""
    | some location => " (at " ++ location ++ ")"

def toJson (diagnostic : Diagnostic) : Json := .record [
  ("message", JsonForm.toJson diagnostic.message),
  ("location", JsonForm.toJson diagnostic.location)]

def deprecatedPrefix (element : String) : Diagnostic :=
  (warning
    "the 'prefix' option is deprecated, use the 'export' or 'declare' option instead").located
    element

end Diagnostic

end Typescribe
