import Typescribe.Toml.Value
/-!
# Documents

A document is a list of statements on lines of their own: headers, and keys with values, which
belong to the table of the last header in front of them. A byte order mark at the very front
does not count.
-/
set_option autoImplicit false

namespace Typescribe.Toml

inductive Statement where
  | field (key : List String) (value : Toml)
  | table (key : List String)
  | element (key : List String)

def statement? : List Char → Option (Statement × List Char)
  | '[' :: '[' :: rest => do
    match ← key? rest with
    | (key, ']' :: ']' :: rest) => return (.element key, rest)
    | _ => none
  | '[' :: rest => do
    match ← key? rest with
    | (key, ']' :: rest) => return (.table key, rest)
    | _ => none
  | input => (keyValue? (value? maxDepth) input).map fun (key, value, rest) =>
    (.field key value, rest)

def statements? (input : List Char) : Option (List Statement) := do
  let line := afterSpace input
  match nextLine? line with
  | some rest =>
    if line.isEmpty then return []
    else if rest.length < input.length then statements? rest
    else none
  | none =>
    let (statement, rest) ← statement? line
    let rest ← nextLine? rest
    if rest.length < input.length then
      let statements ← statements? rest
      return statement :: statements
    else none
termination_by input.length

/-- The fields so far, and the table of the last header. -/
structure Draft where
  fields : Fields := []
  header : List String := []

def Draft.add? (draft : Draft) : Statement → Option Draft
  | .field key value =>
    (draft.fields.atHeader? (Fields.define? value key) draft.header).map fun fields =>
      { draft with fields }
  | .table key => opened (fun name => Fields.openTable? name) key
  | .element key => opened (fun name => Fields.openElement? name) key
where
  opened (change : String → Fields → Option Fields) (key : List String) : Option Draft :=
    key.getLast?.bind fun name =>
      (draft.fields.atHeader? (change name) key.dropLast).map fun fields =>
        { fields, header := key }

def afterMark : List Char → List Char
  | '\ufeff' :: rest => rest
  | input => input

def ofText? (content : String) : Option Fields := do
  let statements ← statements? (afterMark content.toList)
  let draft ← statements.foldlM Draft.add? {}
  return draft.fields

end Typescribe.Toml
