import Typescribe.Flags
/-!
# Features of definitions

The optional parts of each kind of definition, as flag sets, and the two ways in which an
optional element can be marked.
-/
set_option autoImplicit false

namespace Typescribe

/-- How an element that may be absent is marked. -/
abbrev Optionality := FlagSet ["NULL_KEYWORD", "QUESTION_TOKEN"]

namespace Optionality

def nullKeyword : Optionality := .single 0

def questionToken : Optionality := .single 1

def usesNull (optionality : Optionality) : Bool := optionality.has 0

def usesQuestionToken (optionality : Optionality) : Bool := optionality.has 1

end Optionality

abbrev ClassFeatures :=
  FlagSet ["JS_DOC_DESCRIPTION", "GENERALIZATIONS", "INTERFACE_REALIZATIONS"]

namespace ClassFeatures

def description (features : ClassFeatures) : Bool := features.has 0

def generalizations (features : ClassFeatures) : Bool := features.has 1

def realizations (features : ClassFeatures) : Bool := features.has 2

end ClassFeatures

abbrev InterfaceFeatures := FlagSet ["JS_DOC_DESCRIPTION", "GENERALIZATIONS"]

namespace InterfaceFeatures

def description (features : InterfaceFeatures) : Bool := features.has 0

def generalizations (features : InterfaceFeatures) : Bool := features.has 1

end InterfaceFeatures

abbrev EnumFeatures := FlagSet ["JS_DOC_DESCRIPTION", "INITIALIZERS"]

namespace EnumFeatures

def description (features : EnumFeatures) : Bool := features.has 0

def initializers (features : EnumFeatures) : Bool := features.has 1

end EnumFeatures

abbrev PropertyFeatures :=
  FlagSet ["JS_DOC_DESCRIPTION", "ACCESS_MODIFIER", "READONLY_MODIFIER", "OPTIONAL_MODIFIER",
    "INITIALIZER", "DEFINITE_ASSIGNMENT_ASSERTION_MODIFIER"]

namespace PropertyFeatures

def description (features : PropertyFeatures) : Bool := features.has 0

def accessModifier (features : PropertyFeatures) : Bool := features.has 1

def readonlyModifier (features : PropertyFeatures) : Bool := features.has 2

def optionalModifier (features : PropertyFeatures) : Bool := features.has 3

def initializer (features : PropertyFeatures) : Bool := features.has 4

def definiteAssignment (features : PropertyFeatures) : Bool := features.has 5

def ofInterface : PropertyFeatures :=
  ((FlagSet.single 0).union (.single 2)).union (.single 3)

end PropertyFeatures

abbrev FunctionFeatures :=
  FlagSet ["JS_DOC_DESCRIPTION", "ACCESS_MODIFIER", "OPTIONAL_MODIFIER"]

namespace FunctionFeatures

def description (features : FunctionFeatures) : Bool := features.has 0

def accessModifier (features : FunctionFeatures) : Bool := features.has 1

def optionalModifier (features : FunctionFeatures) : Bool := features.has 2

end FunctionFeatures

abbrev ParameterFeatures := FlagSet ["JS_DOC_DESCRIPTION", "OPTIONAL_MODIFIER"]

namespace ParameterFeatures

def description (features : ParameterFeatures) : Bool := features.has 0

def optionalModifier (features : ParameterFeatures) : Bool := features.has 1

end ParameterFeatures

end Typescribe
