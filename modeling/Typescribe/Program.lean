import Typescribe.Writer.FromModel
/-!
# Programs of writer steps

A program is a list of steps, and contents of blocks and callbacks of decorators are programs
in turn. Running a program on a writer gives an answer to each step: the text that it added,
its result, and the answers of its contents if they ran. The answers of callbacks are dropped.
-/
set_option autoImplicit false

namespace Typescribe

inductive Step where
  | line (content : String)
  | blankLine
  | write (piece : String)
  | startLine
  | endLine (piece : String)
  | deeper
  | shallower
  | commentWidth
  | setCommentWidth (width : UInt64)
  | elementTypeName (type : Option TypeRef)
  | namedImport (name : String) (names : List String)
  | wholeImport (name : String) (given : Option String)
  | codeBlock (contents : List Step)
  | decoratorBlock (name : String) (contents : List Step)
  | classBlock (definition : Option (ClassDefinition (List Step))) (contents : List Step)
  | interfaceBlock (definition : Option InterfaceDefinition) (contents : List Step)
  | enum (definition : Option EnumDefinition)
  | stringLiteralType (definition : Option StringLiteralType)
  | property (definition : Option (PropertyDefinition (List Step)))
  | functionDeclaration (definition : Option FunctionDefinition)
  | functionBlock (definition : Option FunctionDefinition) (contents : List Step)
  | variableDeclaration (definition : Option VariableDefinition)
  | writeClass (element : Class) (decorators : List (Decorator (List Step)))
      (options : ClassOptions) (contents : List Step)
  | writeInterface (element : Interface) (options : InterfaceOptions) (contents : List Step)
  | writeEnumeration (element : Enumeration) (options : EnumOptions)
  | writeProperty (element : Property) (decorators : List (Decorator (List Step)))
      (options : PropertyOptions)
  | writeFunction (element : Operation) (options : FunctionOptions) (contents : List Step)
  | docParagraphs (paragraphs : List String)
  | docComments (comments : List Comment)
  | docLines (lines : List String)
  | dropDiagnostics
  | build (request : BuildStep (List Step))

abbrev Program := List Step

inductive StepResult where
  | done
  | width (value : UInt64)
  | name (value : Option String)
  | failed (failure : BuildFailure)
  | answered (answer : BuildAnswer Program)

structure Answer where
  out : String
  result : StepResult := .done
  contents : Option (List Answer) := none

/-- Its result, the answers of its contents and the writer behind it. -/
structure Performed where
  result : StepResult := .done
  contents : Option (List Answer) := none
  writer : Writer

namespace Performed

def ofWriter (writer : Writer) : Performed := { writer }

def ofContents (ran : List Answer × Writer) : Performed :=
  { contents := some ran.1, writer := ran.2 }

def ofContents? (ran : Option (List Answer) × Writer) : Performed :=
  { contents := ran.1, writer := ran.2 }

def ofWrite {α : Type} (contents : α → Option (List Answer))
    (written : Except BuildFailure α × Writer) : Performed :=
  match written.1 with
  | .error failure => { result := .failed failure, writer := written.2 }
  | .ok value => { contents := contents value, writer := written.2 }

end Performed

/-- What a writer has added since an earlier state. -/
def addedText (earlier later : Writer) : String :=
  String.ofList (later.text.toList.drop earlier.text.length)

mutual

def Step.perform : Step → Writer → Performed
  | .line content, writer => .ofWriter (writer.line content)
  | .blankLine, writer => .ofWriter writer.blankLine
  | .write piece, writer => .ofWriter (writer.write piece)
  | .startLine, writer => .ofWriter writer.startLine
  | .endLine piece, writer => .ofWriter (writer.endLine piece)
  | .deeper, writer => .ofWriter writer.deeper
  | .shallower, writer => .ofWriter writer.shallower
  | .commentWidth, writer => { result := .width writer.commentWidth, writer }
  | .setCommentWidth width, writer => .ofWriter { writer with commentWidth := width }
  | .elementTypeName type, writer =>
    { result := .name (writer.builder.resolver.naming.nameOf? type), writer }
  | .namedImport name names, writer => .ofWriter (writer.line? (namedImport? name names))
  | .wholeImport name given, writer => .ofWriter (writer.line? (wholeImport? name given))
  | .codeBlock contents, writer => .ofContents (writer.codeBlock (Step.runAll contents))
  | .decoratorBlock name contents, writer =>
    .ofContents (writer.decoratorBlock name (Step.runAll contents))
  | .classBlock definition contents, writer =>
    match Step.classCallbacks? definition with
    | none => .ofWriter writer
    | some definition => .ofContents (writer.classBlock definition (Step.runAll contents))
  | .interfaceBlock definition contents, writer =>
    match definition with
    | none => .ofWriter writer
    | some definition => .ofContents (writer.interfaceBlock definition (Step.runAll contents))
  | .enum definition, writer => .ofWriter (definition.elim writer writer.enum)
  | .stringLiteralType definition, writer =>
    .ofWriter (definition.elim writer writer.stringLiteralType)
  | .property definition, writer =>
    .ofWriter ((Step.propertyCallbacks? definition).elim writer writer.property)
  | .functionDeclaration definition, writer =>
    .ofWriter (definition.elim writer writer.functionDeclaration)
  | .functionBlock definition contents, writer =>
    match definition with
    | none => .ofWriter writer
    | some definition => .ofContents? (writer.functionBlock definition (Step.runAll contents))
  | .variableDeclaration definition, writer =>
    .ofWriter (definition.elim writer writer.variableDeclaration)
  | .writeClass element decorators options contents, writer =>
    .ofWrite some
      (writer.writeClass element (Step.callbacks decorators) options (Step.runAll contents))
  | .writeInterface element options contents, writer =>
    .ofWrite some (writer.writeInterface element options (Step.runAll contents))
  | .writeEnumeration element options, writer =>
    .ofWrite (fun _ => none) (writer.writeEnumeration element options)
  | .writeProperty element decorators options, writer =>
    .ofWrite (fun _ => none) (writer.writeProperty element (Step.callbacks decorators) options)
  | .writeFunction element options contents, writer =>
    .ofWrite id (writer.writeFunction element options (Step.runAll contents))
  | .docParagraphs paragraphs, writer => .ofWriter (writer.docParagraphs paragraphs)
  | .docComments comments, writer => .ofWriter (writer.docParagraphs (commentBodies comments))
  | .docLines lines, writer => .ofWriter (writer.docLines lines)
  | .dropDiagnostics, writer =>
    let builder := writer.builder.drained
    { result := .answered (.diagnostics builder.pending), writer := { writer with builder } }
  | .build request, writer =>
    let (answer, builder) := request.run writer.builder
    { result := .answered answer, writer := { writer with builder } }

def Step.runAll : List Step → Writer → List Answer × Writer
  | [], writer => ([], writer)
  | step :: steps, writer =>
    let performed := Step.perform step writer
    let (answers, last) := Step.runAll steps performed.writer
    ({ out := addedText writer performed.writer
       result := performed.result
       contents := performed.contents } :: answers, last)

def Step.argumentsCallback : Arguments (List Step) → Arguments Callback
  | .text content => .text content
  | .callback program => .callback fun writer => (Step.runAll program writer).2

def Step.argumentsCallback? : Option (Arguments (List Step)) → Option (Arguments Callback)
  | none => none
  | some arguments => some (Step.argumentsCallback arguments)

def Step.decoratorCallback : Decorator (List Step) → Decorator Callback
  | { name, isCalled, arguments } =>
    { name, isCalled, arguments := Step.argumentsCallback? arguments }

def Step.callbacks : List (Decorator (List Step)) → List (Decorator Callback)
  | [] => []
  | decorator :: decorators =>
    Step.decoratorCallback decorator :: Step.callbacks decorators

def Step.classCallbacks : ClassDefinition (List Step) → ClassDefinition Callback
  | { name, description, isExported, isDeclared, decorators, isAbstract, parents, contracts } =>
    { name, description, isExported, isDeclared, isAbstract, parents, contracts
      decorators := Step.callbacks decorators }

def Step.classCallbacks? :
    Option (ClassDefinition (List Step)) → Option (ClassDefinition Callback)
  | none => none
  | some definition => some (Step.classCallbacks definition)

def Step.propertyCallbacks : PropertyDefinition (List Step) → PropertyDefinition Callback
  | { name, description, typeName, isMultivalued, access, isReadonly, isStatic, isOptional,
      usesQuestionToken, hasNullUnion, usesDefiniteAssignment, defaultValue, decorators } =>
    { name, description, typeName, isMultivalued, access, isReadonly, isStatic, isOptional,
      usesQuestionToken, hasNullUnion, usesDefiniteAssignment, defaultValue
      decorators := Step.callbacks decorators }

def Step.propertyCallbacks? :
    Option (PropertyDefinition (List Step)) → Option (PropertyDefinition Callback)
  | none => none
  | some definition => some (Step.propertyCallbacks definition)

end

end Typescribe
