import Typescribe.Toml.Basic
/-!
# Building tables

Keys and headers may each be given once. A dotted key goes through tables of dotted keys and
through those that only headers imply, and what it adds at the end stands in a table of dotted
keys. A header goes through any table but one in braces. Of several tables under a header in
double brackets, both go through the last one.
-/
set_option autoImplicit false

namespace Typescribe.Toml

abbrev Fields := List (String × Toml)

namespace Fields

def replace (name : String) (value : Toml) (fields : Fields) : Fields :=
  fields.map fun field => if field.1 = name then (name, value) else field

def insertNew? (name : String) (value : Toml) (fields : Fields) : Option Fields :=
  if (fields.lookup name).isSome then none else some (fields ++ [(name, value)])

def lastOf (elements : List Fields) : Fields := elements.getLast?.getD []

def define? (value : Toml) : List String → Fields → Option Fields
  | [], _ => none
  | [name], fields => fields.insertNew? name value
  | name :: next :: names, fields =>
    match fields.lookup name with
    | none => (define? value (next :: names) []).map fun inner =>
      fields ++ [(name, .table .dotted inner)]
    | some (.table .dotted inner) => (define? value (next :: names) inner).map fun inner =>
      fields.replace name (.table .dotted inner)
    | some (.table .implied inner) =>
      if names.isEmpty then none
      else (define? value (next :: names) inner).map fun inner =>
        fields.replace name (.table .implied inner)
    | some (.tables elements) =>
      if names.isEmpty then none
      else (define? value (next :: names) (lastOf elements)).map fun inner =>
        fields.replace name (.tables (elements.dropLast ++ [inner]))
    | some _ => none

def atHeader? (change : Fields → Option Fields) : List String → Fields → Option Fields
  | [], fields => change fields
  | name :: names, fields =>
    match fields.lookup name with
    | none => (atHeader? change names []).map fun inner =>
      fields ++ [(name, .table .implied inner)]
    | some (.table .inline _) => none
    | some (.table origin inner) => (atHeader? change names inner).map fun inner =>
      fields.replace name (.table origin inner)
    | some (.tables elements) =>
      (atHeader? change names (lastOf elements)).map fun inner =>
        fields.replace name (.tables (elements.dropLast ++ [inner]))
    | some _ => none

def openTable? (name : String) (fields : Fields) : Option Fields :=
  match fields.lookup name with
  | none => some (fields ++ [(name, .table .headed [])])
  | some (.table .implied inner) => some (fields.replace name (.table .headed inner))
  | some _ => none

def openElement? (name : String) (fields : Fields) : Option Fields :=
  match fields.lookup name with
  | none => some (fields ++ [(name, .tables [[]])])
  | some (.tables elements) => some (fields.replace name (.tables (elements ++ [[]])))
  | some _ => none

end Fields

end Typescribe.Toml
