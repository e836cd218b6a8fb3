import Typescribe.Json.Form
/-!
# Visibility, ownership and comments

What every element of a model may carry: who may see it, what kind of element owns it, and the
comments written about it.
-/
set_option autoImplicit false

namespace Typescribe

inductive Visibility where
  | pub
  | priv
  | prot
  | pack
  deriving DecidableEq, Repr

namespace Visibility

def name : Visibility → String
  | .pub => "public"
  | .priv => "private"
  | .prot => "protected"
  | .pack => "package"

def isExportedByDefault : Visibility → Bool
  | .pub | .pack => true
  | .priv | .prot => false

instance : JsonForm Visibility where
  toJson visibility := .text visibility.name
  ofJson? value := value.choice?.bind fun choice =>
    match choice.1, Json.carriesNothing choice.2 with
    | "public", true => some .pub
    | "private", true => some .priv
    | "protected", true => some .prot
    | "package", true => some .pack
    | _, _ => none

end Visibility

inductive Owner where
  | ofClass
  | ofInterface
  | ofDataType
  | unowned
  deriving DecidableEq, Repr

namespace Owner

def isInterface : Owner → Bool
  | .ofInterface => true
  | _ => false

def name : Owner → String
  | .ofClass => "class"
  | .ofInterface => "interface"
  | .ofDataType => "data_type"
  | .unowned => "none"

instance : JsonForm Owner where
  toJson owner := .text owner.name
  ofJson? value := value.choice?.bind fun choice =>
    match choice.1, Json.carriesNothing choice.2 with
    | "class", true => some .ofClass
    | "interface", true => some .ofInterface
    | "data_type", true => some .ofDataType
    | "none", true => some .unowned
    | _, _ => none

end Owner

structure Comment where
  body : String
  deriving DecidableEq, Repr

instance : JsonForm Comment where
  toJson comment := .record [("body", toJson comment.body)]
  ofJson? value := do
    let [body] ← value.fields? ["body"] | none
    return { body := ← required body }

def commentBodies (comments : List Comment) : List String := comments.map Comment.body

end Typescribe
