import Typescribe.Json.Form
/-!
# Multiplicities

How often an element may occur: at least `lower` times, and at most `upper` times or without
bound.
-/
set_option autoImplicit false

namespace Typescribe

structure Multiplicity where
  lower : UInt32
  /-- No bound if absent. -/
  upper : Option UInt32
  deriving DecidableEq, Repr

namespace Multiplicity

def one : Multiplicity := ⟨1, some 1⟩

def optional : Multiplicity := ⟨0, some 1⟩

def many : Multiplicity := ⟨0, none⟩

def oneOrMore : Multiplicity := ⟨1, none⟩

def isOptional (multiplicity : Multiplicity) : Bool := multiplicity.lower == 0

def isMultivalued (multiplicity : Multiplicity) : Bool :=
  match multiplicity.upper with
  | none => true
  | some upper => 1 < upper

/-- A list of field values has to hold the upper bound; a record may leave it out. -/
instance : JsonForm Multiplicity where
  toJson multiplicity :=
    .record [("lower", toJson multiplicity.lower), ("upper", toJson multiplicity.upper)]
  ofJson? value := do
    let [lower, upper] ← value.fields? ["lower", "upper"] | none
    let listed := match value with
      | .list _ => true
      | _ => false
    return {
      lower := ← required lower
      upper := ← if listed then required upper else orElse none upper }

end Multiplicity

end Typescribe
