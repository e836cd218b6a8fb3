import Typescribe.Model.Visibility
/-!
# Modifiers and keywords

The access modifiers of members, and the keywords that open a variable declaration.
-/
set_option autoImplicit false

namespace Typescribe

inductive AccessModifier where
  | pub
  | priv
  | prot
  deriving DecidableEq, Repr

namespace AccessModifier

/-- Package visibility has no modifier. -/
def ofVisibility? : Visibility → Option AccessModifier
  | .pub => some .pub
  | .priv => some .priv
  | .prot => some .prot
  | .pack => none

def keyword : AccessModifier → String
  | .pub => "public"
  | .priv => "private"
  | .prot => "protected"

instance : JsonForm AccessModifier where
  toJson modifier := .text modifier.keyword
  ofJson? value := value.choice?.bind fun choice =>
    match choice.1, Json.carriesNothing choice.2 with
    | "public", true => some .pub
    | "private", true => some .priv
    | "protected", true => some .prot
    | _, _ => none

end AccessModifier

inductive VariableKind where
  | constant
  | blockScoped
  | functionScoped
  deriving DecidableEq, Repr

namespace VariableKind

def keyword : VariableKind → String
  | .constant => "const"
  | .blockScoped => "let"
  | .functionScoped => "var"

instance : JsonForm VariableKind where
  toJson kind := .text kind.keyword
  ofJson? value := value.choice?.bind fun choice =>
    match choice.1, Json.carriesNothing choice.2 with
    | "const", true => some .constant
    | "let", true => some .blockScoped
    | "var", true => some .functionScoped
    | _, _ => none

end VariableKind

end Typescribe
