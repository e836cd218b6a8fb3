import Typescribe.Json.Form
/-!
# Decorators

A decorator such as `@Component(...)`. Its arguments are literal text, or are written by a
callback; `κ` is the type of callbacks. A callback has no JSON form, so a decorator that holds
one cannot be written as JSON.
-/
set_option autoImplicit false

namespace Typescribe

inductive Arguments (κ : Type) where
  | text (content : String)
  | callback (run : κ)

structure Decorator (κ : Type) where
  name : String
  isCalled : Bool := false
  arguments : Option (Arguments κ) := none

namespace Decorator

variable {κ : Type}

def ofName (name : String) : Decorator κ := { name }

def called (decorator : Decorator κ) : Decorator κ := { decorator with isCalled := true }

def withText (decorator : Decorator κ) (content : String) : Decorator κ :=
  { decorator with arguments := some (.text content) }

def withCallback (decorator : Decorator κ) (run : κ) : Decorator κ :=
  { decorator with arguments := some (.callback run) }

def hasParentheses (decorator : Decorator κ) : Bool :=
  decorator.isCalled || decorator.arguments.isSome

def argumentsToJson? : Option (Arguments κ) → Option Json
  | none => some .null
  | some (.text content) => some (.record [("text", toJson content)])
  | some (.callback _) => none

def argumentsOfJson? : Json → Option (Option (Arguments κ))
  | .null => some none
  | value => value.choice?.bind fun choice =>
    match choice with
    | ("text", some carried) => (ofJson? carried).map fun content => some (.text content)
    | _ => none

def toJson? (decorator : Decorator κ) : Option Json :=
  (argumentsToJson? decorator.arguments).map fun arguments => .record [
    ("name", toJson decorator.name),
    ("has_parameters", toJson decorator.isCalled),
    ("parameters", arguments)]

def ofJson? (value : Json) : Option (Decorator κ) := do
  let [name, isCalled, arguments] ← value.fields? ["name", "has_parameters", "parameters"]
    | none
  return {
    name := ← required name
    isCalled := ← orElse false isCalled
    arguments := ← match arguments with
      | some given => argumentsOfJson? given
      | none => some none }

/-- The field is left out if there are no decorators. -/
def listField? (decorators : List (Decorator κ)) : Option (List (String × Json)) :=
  if decorators.isEmpty then some []
  else (decorators.mapM toJson?).map fun items => [("decorators", .list items)]

def readList? : Option Json → Option (List (Decorator κ))
  | none => some []
  | some (.list items) => items.mapM ofJson?
  | some _ => none

end Decorator

end Typescribe
