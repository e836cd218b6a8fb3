import Typescribe.Writer.Basic
/-!
# Writing definitions

How each kind of definition is written: its doc comment, its decorators, its own lines and, for
blocks, the contents between the opening line and the closing one. Callbacks of decorators are
functions on writers. A definition that is absent is not written.
-/
set_option autoImplicit false

namespace Typescribe

abbrev Callback := Writer → Writer

namespace Writer

/-! ## Blocks -/

def codeBlock {β : Type} (contents : Writer → β × Writer) (writer : Writer) : β × Writer :=
  (writer.line "\x7b").enclosed "\x7d" contents

def decoratorBlock {β : Type} (name : String) (contents : Writer → β × Writer)
    (writer : Writer) : β × Writer :=
  (writer.line ("@" ++ name ++ "(\x7b")).enclosed "\x7d)" contents

/-! ## Decorators -/

def arguments : Option (Arguments Callback) → Writer → Writer
  | none, writer => writer
  | some (.text content), writer => writer.write content
  | some (.callback run), writer => run writer

def decorator (decorator : Decorator Callback) (writer : Writer) : Writer :=
  let named := (writer.write "@").write decorator.name
  if decorator.hasParentheses then
    (arguments decorator.arguments (named.write "(")).write ")"
  else named

def decoratorLines (decorators : List (Decorator Callback)) (writer : Writer) : Writer :=
  decorators.foldl (fun before next => (before.startLine.decorator next).endLine "") writer

def decoratorPieces (decorators : List (Decorator Callback)) (writer : Writer) : Writer :=
  decorators.foldl (fun before next => (before.decorator next).write " ") writer

/-! ## Declarations -/

def classBlock {β : Type} (definition : ClassDefinition Callback)
    (contents : Writer → β × Writer) (writer : Writer) : β × Writer :=
  let decorated := (writer.docParagraphs definition.description).decoratorLines
    definition.decorators
  (decorated.line (definition.header ++ " \x7b")).enclosed "\x7d" contents

def interfaceBlock {β : Type} (definition : InterfaceDefinition)
    (contents : Writer → β × Writer) (writer : Writer) : β × Writer :=
  let documented := writer.docParagraphs definition.description
  (documented.line (definition.header ++ " \x7b")).enclosed "\x7d" contents

def enumMembers : List EnumMember → Writer → Writer
  | [], writer => writer
  | [member], writer => (writer.docParagraphs member.description).line member.content
  | member :: next :: members, writer =>
    enumMembers (next :: members)
      ((writer.docParagraphs member.description).line (member.content ++ ","))

def enum (definition : EnumDefinition) (writer : Writer) : Writer :=
  let documented := writer.docParagraphs definition.description
  let opened := documented.line (definition.header ++ " \x7b")
  (opened.nested (enumMembers definition.members)).line "\x7d"

def stringLiteralType (definition : StringLiteralType) (writer : Writer) : Writer :=
  (writer.docParagraphs definition.description).line definition.content

def variableDeclaration (definition : VariableDefinition) (writer : Writer) : Writer :=
  (writer.docParagraphs definition.description).line definition.content

/-! ## Members -/

def property (definition : PropertyDefinition Callback) (writer : Writer) : Writer :=
  let started := (writer.docParagraphs definition.description).startLine
  (started.decoratorPieces definition.decorators).endLine definition.content

def parameterList (definition : FunctionDefinition) (writer : Writer) : Writer :=
  if definition.isMultiLine then
    let rows := definition.parameterTexts.map fun text => text ++ ","
    (((writer.endLine "(").nested (lines rows)).startLine).write ")"
  else writer.write ("(" ++ ", ".intercalate definition.parameterTexts ++ ")")

def signature (definition : FunctionDefinition) (writer : Writer) : Writer :=
  let started := (writer.docLines (Docs.functionLines definition)).startLine
  ((started.write definition.head).parameterList definition).write definition.tail

def functionDeclaration (definition : FunctionDefinition) (writer : Writer) : Writer :=
  (writer.signature definition).endLine ";"

/-- An abstract function has no body, and its contents do not run. -/
def functionBlock {β : Type} (definition : FunctionDefinition)
    (contents : Writer → β × Writer) (writer : Writer) : Option β × Writer :=
  if definition.isAbstract then (none, writer.functionDeclaration definition)
  else
    let opened := (writer.signature definition).endLine " \x7b"
    let (result, after) := opened.enclosed "\x7d" contents
    (some result, after)

/-! ## Imports -/

def line? : Option String → Writer → Writer
  | none, writer => writer
  | some content, writer => writer.line content

end Writer

end Typescribe
