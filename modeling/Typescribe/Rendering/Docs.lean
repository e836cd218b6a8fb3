import Typescribe.Definition.Member
import Typescribe.Text.Wrap
/-!
# Doc comments

A doc comment is a block of lines between `/**` and `*/`. The text of a line cannot end the
block early, since every `*/` in it is broken up. Lines longer than the comment width are
wrapped.
-/
set_option autoImplicit false

namespace Typescribe.Docs

/-- A backslash stands inside every end of a comment. -/
def guarded : List Char → List Char
  | '*' :: '/' :: rest => '*' :: '\\' :: '/' :: guarded rest
  | letter :: rest => letter :: guarded rest
  | [] => []

def laidOut (width : Nat) (text : List Char) : List (List Char) :=
  if width ≠ 0 ∧ width < text.length then Text.wrapped width text else [text]

def shown (width : Nat) (line : String) : List String :=
  match guarded line.toList with
  | [] => ["*"]
  | text => (laidOut width text).map fun part => "* " ++ String.ofList part

def block (width : Nat) (lines : List String) : List String :=
  if lines.isEmpty then [] else "/**" :: (lines.flatMap (shown width) ++ ["*/"])

def paragraphLines (paragraphs : List String) : List String :=
  (paragraphs.filter fun paragraph => !paragraph.isEmpty).intersperse ""

def parameterTag (parameter : ParameterDefinition) : String :=
  let type := parameter.typeName ++ if parameter.isMultivalued then "[]" else ""
  let tag :=
    if parameter.isResult then "@returns \x7b" ++ type ++ "\x7d"
    else "@param \x7b" ++ type ++ "\x7d " ++ parameter.name
  let description := " ".intercalate parameter.description
  if description.isEmpty then tag else tag ++ " " ++ description

/-- Those that ask for a tag and those with a description. -/
def taggedParameters (function : FunctionDefinition) : List ParameterDefinition :=
  function.parameters.filter fun parameter =>
    parameter.inDocs || !parameter.description.isEmpty

/-- Without a description there are none, not even tags. -/
def functionLines (function : FunctionDefinition) : List String :=
  if function.description.isEmpty then []
  else paragraphLines function.description ++ (taggedParameters function).map parameterTag

end Typescribe.Docs
