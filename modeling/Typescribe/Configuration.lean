import Typescribe.Failure
import Typescribe.Options
import Typescribe.Toml.Document
import Typescribe.Writer.Basic
/-!
# Configurations

A configuration holds the options for every construct. It has a JSON form, and it is read from
TOML documents with a section for each construct; a section of another name is refused.
-/
set_option autoImplicit false

namespace Typescribe

structure Configuration where
  writer : WriterOptions := {}
  classes : ClassOptions := {}
  interfaces : InterfaceOptions := {}
  enums : EnumOptions := {}
  properties : PropertyOptions := {}
  functions : FunctionOptions := {}
  deriving DecidableEq

namespace Configuration

def read (readWriter : Json → Option WriterOptions) (value : Json) : Option Configuration := do
  let [writer, classes, interfaces, enums, properties, functions] ← value.onlyFields?
      ["writer", "class", "interface", "enum", "property", "function"]
    | none
  return {
    writer := ← readOrElse readWriter {} writer
    classes := ← orElse {} classes
    interfaces := ← orElse {} interfaces
    enums := ← orElse {} enums
    properties := ← orElse {} properties
    functions := ← orElse {} functions }

instance : JsonForm Configuration where
  toJson config := .record [
    ("writer", toJson config.writer),
    ("class", toJson config.classes),
    ("interface", toJson config.interfaces),
    ("enum", toJson config.enums),
    ("property", toJson config.properties),
    ("function", toJson config.functions)]
  ofJson? := read ofJson?

/-! ## TOML documents -/

/-- A document has no `null`; an empty table or list says that `tab` carries nothing. -/
def indentOfDocument? (value : Json) : Option Indent :=
  match value with
  | .record [("tab", .record [])] | .record [("tab", .list [])] => some .tab
  | value => ofJson? value

def sectionSizes : List (String × Nat) :=
  [("writer", 3), ("class", 6), ("interface", 5), ("enum", 5), ("property", 4), ("function", 5)]

/-- What stands behind the last field of a section is not looked at. -/
def clipped (field : String × Toml) : String × Toml :=
  match field with
  | (name, .list items) => (name, .list (items.take ((sectionSizes.lookup name).getD 0)))
  | field => field

def ofToml? (content : String) : Option Configuration := do
  let fields ← Toml.ofText? content
  let sections ← Toml.fieldsToJson? (fields.map clipped)
  read (WriterOptions.read indentOfDocument?) (.record sections)

def standardFilename : String := "tsemit.toml"

def ofDocument (filename content : String) : Except LoadFailure Configuration :=
  match ofToml? content with
  | some config => .ok config
  | none => .error (.malformed filename)

def newWriter (config : Configuration) : Writer := .ofOptions config.writer

end Configuration

end Typescribe
