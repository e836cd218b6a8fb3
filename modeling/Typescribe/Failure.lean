/-!
# Failures

Why a definition cannot be built, and why a configuration cannot be loaded. Every failure has
a message, a code and, for some, a hint how to repair it.
-/
set_option autoImplicit false

namespace Typescribe

inductive Named where
  | ofClass
  | ofInterface
  | ofEnum
  | ofEnumMember
  | ofStringLiteralType
  | ofProperty
  | ofFunction
  | ofParameter
  deriving DecidableEq, Repr

def Named.noun : Named → String
  | .ofClass => "class"
  | .ofInterface => "interface"
  | .ofEnum => "enum"
  | .ofEnumMember => "enum member"
  | .ofStringLiteralType => "string literal type"
  | .ofProperty => "property"
  | .ofFunction => "function"
  | .ofParameter => "parameter"

inductive BuildFailure where
  | missingName (element : Named)
  deriving DecidableEq, Repr

namespace BuildFailure

def message : BuildFailure → String
  | .missingName element => "cannot build a " ++ element.noun ++ " definition without a name"

def code : BuildFailure → String
  | .missingName _ => "tsemit::missing_name"

def help : BuildFailure → Option String
  | .missingName element =>
    some ("give the " ++ element.noun ++ " a non-empty name in the model")

end BuildFailure

inductive LoadFailure where
  | unreadable (path : String)
  | malformed (filename : String)
  deriving DecidableEq, Repr

namespace LoadFailure

def message : LoadFailure → String
  | .unreadable path => "failed to read '" ++ path ++ "'"
  | .malformed _ => "failed to parse emitter configuration"

def code : LoadFailure → String
  | .unreadable _ => "tsemit::io_error"
  | .malformed _ => "tsemit::parse_error"

end LoadFailure

end Typescribe
