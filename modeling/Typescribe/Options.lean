import Typescribe.Feature
import Typescribe.Indent
/-!
# Options

What a caller can choose for each kind of definition and for the writer. An absent feature set
stands for all features of the construct; an absent `exported` leaves the choice to the
visibility of the element.
-/
set_option autoImplicit false

namespace Typescribe

structure ClassOptions where
  features : Option ClassFeatures := none
  contracts : List String := []
  parents : List String := []
  exported : Option Bool := none
  declared : Option Bool := none
  /-- Deprecated: `exported` and `declared` say the same. -/
  legacyPrefix : Option String := none
  deriving DecidableEq

instance : JsonForm ClassOptions where
  toJson options := .record [
    ("features", toJson options.features),
    ("implements", toJson options.contracts),
    ("inherits", toJson options.parents),
    ("export", toJson options.exported),
    ("declare", toJson options.declared),
    ("prefix", toJson options.legacyPrefix)]
  ofJson? value := do
    let [features, contracts, parents, exported, declared, legacyPrefix] ← value.fields?
        ["features", "implements", "inherits", "export", "declare", "prefix"]
      | none
    return {
      features := ← orElse none features
      contracts := ← orElse [] contracts
      parents := ← orElse [] parents
      exported := ← orElse none exported
      declared := ← orElse none declared
      legacyPrefix := ← orElse none legacyPrefix }

structure InterfaceOptions where
  features : Option InterfaceFeatures := none
  parents : List String := []
  exported : Option Bool := none
  declared : Option Bool := none
  legacyPrefix : Option String := none
  deriving DecidableEq

instance : JsonForm InterfaceOptions where
  toJson options := .record [
    ("features", toJson options.features),
    ("inherits", toJson options.parents),
    ("export", toJson options.exported),
    ("declare", toJson options.declared),
    ("prefix", toJson options.legacyPrefix)]
  ofJson? value := do
    let [features, parents, exported, declared, legacyPrefix] ← value.fields?
        ["features", "inherits", "export", "declare", "prefix"]
      | none
    return {
      features := ← orElse none features
      parents := ← orElse [] parents
      exported := ← orElse none exported
      declared := ← orElse none declared
      legacyPrefix := ← orElse none legacyPrefix }

structure EnumOptions where
  features : Option EnumFeatures := none
  exported : Option Bool := none
  declared : Option Bool := none
  isConst : Bool := false
  legacyPrefix : Option String := none
  deriving DecidableEq

instance : JsonForm EnumOptions where
  toJson options := .record [
    ("features", toJson options.features),
    ("export", toJson options.exported),
    ("declare", toJson options.declared),
    ("const", toJson options.isConst),
    ("prefix", toJson options.legacyPrefix)]
  ofJson? value := do
    let [features, exported, declared, isConst, legacyPrefix] ← value.fields?
        ["features", "export", "declare", "const", "prefix"]
      | none
    return {
      features := ← orElse none features
      exported := ← orElse none exported
      declared := ← orElse none declared
      isConst := ← orElse false isConst
      legacyPrefix := ← orElse none legacyPrefix }

structure StringLiteralOptions where
  exported : Option Bool := none
  declared : Option Bool := none
  deriving DecidableEq

instance : JsonForm StringLiteralOptions where
  toJson options := .record [
    ("export", toJson options.exported),
    ("declare", toJson options.declared)]
  ofJson? value := do
    let [exported, declared] ← value.fields? ["export", "declare"] | none
    return { exported := ← orElse none exported, declared := ← orElse none declared }

structure PropertyOptions where
  /-- If absent, all those that the owner allows. -/
  features : Option PropertyFeatures := none
  /-- If absent, the question mark. -/
  optionality : Option Optionality := none
  initializeArray : Bool := false
  initializePrimitive : Bool := false
  deriving DecidableEq

instance : JsonForm PropertyOptions where
  toJson options := .record [
    ("features", toJson options.features),
    ("optionality", toJson options.optionality),
    ("initialize_array", toJson options.initializeArray),
    ("initialize_primitive_type", toJson options.initializePrimitive)]
  ofJson? value := do
    let [features, optionality, initializeArray, initializePrimitive] ← value.fields?
        ["features", "optionality", "initialize_array", "initialize_primitive_type"]
      | none
    return {
      features := ← orElse none features
      optionality := ← orElse none optionality
      initializeArray := ← orElse false initializeArray
      initializePrimitive := ← orElse false initializePrimitive }

structure FunctionOptions where
  features : Option FunctionFeatures := none
  parameterFeatures : Option ParameterFeatures := none
  /-- If absent, the question mark. -/
  parameterOptionality : Option Optionality := none
  /-- If absent, the union with `null`. -/
  returnOptionality : Option Optionality := none
  multiLineSignature : Bool := false
  deriving DecidableEq

instance : JsonForm FunctionOptions where
  toJson options := .record [
    ("features", toJson options.features),
    ("parameter_features", toJson options.parameterFeatures),
    ("parameter_optionality", toJson options.parameterOptionality),
    ("return_optionality", toJson options.returnOptionality),
    ("multi_line_signature", toJson options.multiLineSignature)]
  ofJson? value := do
    let [features, parameterFeatures, parameterOptionality, returnOptionality,
        multiLineSignature] ← value.fields? ["features", "parameter_features",
          "parameter_optionality", "return_optionality", "multi_line_signature"]
      | none
    return {
      features := ← orElse none features
      parameterFeatures := ← orElse none parameterFeatures
      parameterOptionality := ← orElse none parameterOptionality
      returnOptionality := ← orElse none returnOptionality
      multiLineSignature := ← orElse false multiLineSignature }

structure WriterOptions where
  /-- Zero wraps no line. -/
  commentWidth : UInt64 := 100
  indent : Indent := .standard
  fallbackTypeName : String := "any"
  deriving DecidableEq

namespace WriterOptions

def read (readIndent : Json → Option Indent) (value : Json) : Option WriterOptions := do
  let [commentWidth, indent, fallbackTypeName] ← value.fields?
      ["max_comment_width", "indent", "fallback_type_name"]
    | none
  return {
    commentWidth := ← orElse 100 commentWidth
    indent := ← readOrElse readIndent .standard indent
    fallbackTypeName := ← orElse "any" fallbackTypeName }

instance : JsonForm WriterOptions where
  toJson options := .record [
    ("max_comment_width", toJson options.commentWidth),
    ("indent", toJson options.indent),
    ("fallback_type_name", toJson options.fallbackTypeName)]
  ofJson? := read ofJson?

end WriterOptions

end Typescribe
