import Typescribe.Proofs.Comments
import Typescribe.Proofs.Changes
/-!
# Descriptions do not touch the code

A definition is written as it is without its descriptions, with doc comments put in front of
its declaration and, in an enum, in front of members. The comments end where the writer ends
them, so no description can change what a reader of the code sees.
-/
set_option autoImplicit false

namespace Typescribe

/-! ## Definitions without descriptions -/

def EnumMember.undocumented (member : EnumMember) : EnumMember :=
  { member with description := [] }

def EnumDefinition.undocumented (definition : EnumDefinition) : EnumDefinition :=
  { definition with description := [], members := definition.members.map EnumMember.undocumented }

def ParameterDefinition.undocumented (parameter : ParameterDefinition) : ParameterDefinition :=
  { parameter with description := [] }

def FunctionDefinition.undocumented (definition : FunctionDefinition) : FunctionDefinition :=
  { definition with
    description := []
    parameters := definition.parameters.map ParameterDefinition.undocumented }

/-- The step for the same definition with every description emptied. -/
def Step.undocumented : Step → Step
  | .classBlock definition contents =>
    .classBlock (definition.map fun given => { given with description := [] }) contents
  | .interfaceBlock definition contents =>
    .interfaceBlock (definition.map fun given => { given with description := [] }) contents
  | .enum definition => .enum (definition.map EnumDefinition.undocumented)
  | .stringLiteralType definition =>
    .stringLiteralType (definition.map fun given => { given with description := [] })
  | .property definition => .property (definition.map fun given => { given with description := [] })
  | .functionDeclaration definition =>
    .functionDeclaration (definition.map FunctionDefinition.undocumented)
  | .functionBlock definition contents =>
    .functionBlock (definition.map FunctionDefinition.undocumented) contents
  | .variableDeclaration definition =>
    .variableDeclaration (definition.map fun given => { given with description := [] })
  | step => step

/-! ## Places of doc comments -/

/-- A part of a text that can have a doc comment in front of it. -/
structure Piece where
  margin : String
  text : String

/-- A text is a plain one with at most one doc comment added in front of each piece. -/
inductive Documented : List Piece → String → String → Prop
  | last (text : String) : Documented [] text text
  | bare {piece : Piece} {pieces : List Piece} {plain text : String}
      (others : Documented pieces plain text) :
      Documented (piece :: pieces) (piece.text ++ plain) (piece.text ++ text)
  | commented {piece : Piece} {pieces : List Piece} {plain text comment : String}
      (isComment : IsDocComment piece.margin comment) (others : Documented pieces plain text) :
      Documented (piece :: pieces) (piece.text ++ plain) (comment ++ piece.text ++ text)

/-- In an enum the header and each member are pieces, else the whole declaration is. -/
def Step.pieces (writer : Writer) (plain : String) : Step → List Piece
  | .enum (some definition) =>
    ⟨writer.margin, lineText writer.margin (definition.header ++ " \x7b")⟩ ::
      (memberLines definition.members).map fun content =>
        ⟨writer.innerMargin, lineText writer.innerMargin content⟩
  | _ => [⟨writer.margin, plain⟩]

structure OnlyComments (step : Step) (writer : Writer) (plain text : String) : Prop where
  undocumented : (step.undocumented.perform writer).writer.text = writer.text ++ plain
  documented : (step.perform writer).writer.text = writer.text ++ text
  comments : Documented (step.pieces writer plain) plain text
  alike : Alike (step.perform writer).writer (step.undocumented.perform writer).writer

/-! ## Comments in front of pieces -/

theorem Documented.docText {piece : Piece} {pieces : List Piece} {plain text : String}
    (isMargin : IsMargin piece.margin) (width : UInt64) (contents : List String)
    (others : Documented pieces plain text) :
    Documented (piece :: pieces) (piece.text ++ plain)
      (docText piece.margin width contents ++ piece.text ++ text) := by
  rcases isDocComment_docText isMargin width contents with noText | isComment
  · rw [noText, String.empty_append]
    exact .bare others
  · exact .commented isComment others

theorem onlyComments_of_body {step : Step} {body : Writer → Writer} {writer : Writer}
    (contents : List String) (blind : Blind body)
    (documented : (step.perform writer).writer = body (writer.docLines contents))
    (undocumented : (step.undocumented.perform writer).writer = body writer)
    (onePiece : ∀ plain, step.pieces writer plain = [⟨writer.margin, plain⟩]) :
    ∃ plain text, OnlyComments step writer plain text := by
  have comment := Writer.docLines_eq_write contents writer
  obtain ⟨alike, -, plain, documentedText, plainText⟩ :=
    blind _ _ ((Alike.refl writer).write_left (docText writer.margin writer.commentWidth contents))
  have isMargin : IsMargin writer.margin := isMargin_copies _ _
  have commented : Documented [⟨writer.margin, plain⟩] (plain ++ "")
      (docText writer.margin writer.commentWidth contents ++ plain ++ "") :=
    Documented.docText isMargin writer.commentWidth contents (.last "")
  simp only [String.append_empty] at commented
  refine ⟨plain, docText writer.margin writer.commentWidth contents ++ plain, ?_, ?_, ?_, ?_⟩
  · rw [undocumented, plainText]
  · rw [documented, comment, documentedText, Writer.text_write, String.append_assoc]
  · rw [onePiece]
    exact commented
  · rw [documented, comment, undocumented]
    exact alike

theorem documented_members {margin : String} (isMargin : IsMargin margin) (width : UInt64)
    (last : String) (members : List EnumMember) :
    Documented ((memberLines members).map fun content => ⟨margin, lineText margin content⟩)
      (membersText margin width (members.map EnumMember.undocumented) ++ last)
      (membersText margin width members ++ last) := by
  have bare (member : EnumMember) :
      docText margin width (Docs.paragraphLines member.undocumented.description) = "" := rfl
  have sameContent (member : EnumMember) : member.undocumented.content = member.content := rfl
  match members with
  | [] => exact .last _
  | [member] =>
    have commented : Documented [⟨margin, lineText margin member.content⟩] _ _ :=
      Documented.docText isMargin width (Docs.paragraphLines member.description) (.last last)
    simpa only [memberLines, membersText, List.map_cons, List.map_nil, bare, sameContent,
      String.empty_append] using commented
  | member :: next :: members =>
    have others := documented_members isMargin width last (next :: members)
    have commented : Documented (⟨margin, lineText margin (member.content ++ ",")⟩ :: _) _ _ :=
      Documented.docText isMargin width (Docs.paragraphLines member.description) others
    simpa only [memberLines, membersText, List.map_cons, bare, sameContent, String.empty_append,
      String.append_assoc] using commented

theorem onlyComments_of_enum (definition : EnumDefinition) (writer : Writer) :
    ∃ plain text, OnlyComments (.enum (some definition)) writer plain text := by
  have isMargin : IsMargin writer.margin := isMargin_copies _ _
  have isInnerMargin : IsMargin writer.innerMargin := isMargin_copies _ _
  have members := documented_members isInnerMargin writer.commentWidth
    (lineText writer.margin "\x7d") definition.members
  have documented : Documented
      (⟨writer.margin, lineText writer.margin (definition.header ++ " \x7b")⟩ :: _) _ _ :=
    Documented.docText isMargin writer.commentWidth
      (Docs.paragraphLines definition.description) members
  refine ⟨_, _, ?_, ?_, documented, ?_⟩
  · have plain : docText writer.margin writer.commentWidth
        (Docs.paragraphLines definition.undocumented.description) = "" := rfl
    simp only [Step.undocumented, Step.perform, Option.map_some, Option.elim_some,
      Performed.writer_ofWriter, Writer.enum_eq_write, Writer.text_write, plain,
      String.empty_append, String.append_assoc]
    rfl
  · simp only [Step.perform, Option.elim_some, Performed.writer_ofWriter, Writer.enum_eq_write,
      Writer.text_write, String.append_assoc]
  · simp only [Step.undocumented, Step.perform, Option.map_some, Option.elim_some,
      Performed.writer_ofWriter, Writer.enum_eq_write]
    exact (Alike.refl writer).write _ _

/-! ## Signatures without comments -/

theorem parameterTexts_undocumented (definition : FunctionDefinition) :
    definition.undocumented.parameterTexts = definition.parameterTexts := by
  have inputs : definition.undocumented.inputs =
      definition.inputs.map ParameterDefinition.undocumented := by
    simp only [FunctionDefinition.inputs, FunctionDefinition.undocumented, List.filter_map]
    rfl
  rw [FunctionDefinition.parameterTexts, inputs, List.map_map]
  rfl

theorem signatureText_undocumented (margin inner : String) (definition : FunctionDefinition) :
    signatureText margin inner definition.undocumented =
      signatureText margin inner definition := by
  have isMultiLine : definition.undocumented.isMultiLine = definition.isMultiLine := by
    have inputs := congrArg List.isEmpty (parameterTexts_undocumented definition)
    simp only [FunctionDefinition.parameterTexts, List.isEmpty_map] at inputs
    simp only [FunctionDefinition.isMultiLine, inputs]
    rfl
  simp only [signatureText, parameterListText, parameterTexts_undocumented, isMultiLine]
  rfl

def Writer.bareSignature (definition : FunctionDefinition) (writer : Writer) : Writer :=
  writer.write (signatureText writer.margin writer.innerMargin definition)

theorem Blind.bareSignature (definition : FunctionDefinition) :
    Blind (Writer.bareSignature definition) :=
  ofWrite _ (fun _ => rfl) fun alike => by rw [alike.margin, alike.innerMargin]

theorem Writer.signature_eq_bareSignature (definition : FunctionDefinition) (writer : Writer) :
    writer.signature definition =
      (writer.docLines (Docs.functionLines definition)).bareSignature definition := by
  rw [signature_eq_docLines, docLines_eq_write]
  rfl

theorem Writer.signature_undocumented (definition : FunctionDefinition) (writer : Writer) :
    writer.signature definition.undocumented = writer.bareSignature definition := by
  have noLines : Docs.functionLines definition.undocumented = [] := rfl
  rw [signature_eq_docLines, noLines, docLines_eq_write, docText_nil, write_empty,
    signatureText_undocumented]
  rfl

/-! ## The text of a step -/

theorem onlyComments_of_functionBlock (definition : FunctionDefinition) (program : Program)
    (writer : Writer) :
    ∃ plain text, OnlyComments (.functionBlock (some definition) program) writer plain text := by
  have signature := Blind.bareSignature definition
  cases abstract : definition.isAbstract with
  | true =>
    have undocumented : definition.undocumented.isAbstract = true := abstract
    refine onlyComments_of_body (Docs.functionLines definition)
      (signature.andThen (Blind.endLine ";")) ?_ ?_ fun _ => rfl
    · simp only [Step.perform, Performed.writer_ofContents?, Writer.functionBlock, abstract,
        if_true, Writer.functionDeclaration, Writer.signature_eq_bareSignature]
    · simp only [Step.undocumented, Option.map_some, Step.perform, Performed.writer_ofContents?,
        Writer.functionBlock, undocumented, if_true, Writer.functionDeclaration,
        Writer.signature_undocumented]
  | false =>
    have undocumented : definition.undocumented.isAbstract = false := abstract
    refine onlyComments_of_body (Docs.functionLines definition)
      ((signature.andThen (Blind.endLine " \x7b")).andThen
        (Blind.enclosed "\x7d" (Blind.run program))) ?_ ?_ fun _ => rfl
    · simp only [Step.perform, Performed.writer_ofContents?, Writer.functionBlock, abstract,
        Bool.false_eq_true, if_false, Writer.signature_eq_bareSignature]
    · simp only [Step.undocumented, Option.map_some, Step.perform, Performed.writer_ofContents?,
        Writer.functionBlock, undocumented, Bool.false_eq_true, if_false,
        Writer.signature_undocumented]

/-- Whatever its descriptions say, a definition adds what it adds without them, and doc comments in
front of the declaration and of members, which end at their own last lines. -/
theorem descriptions_stay_in_comments (step : Step) (writer : Writer) :
    ∃ plain text, OnlyComments step writer plain text := by
  have contents (program : Program) : Blind fun writer => (Step.runAll program writer).2 :=
    Blind.run program
  have callbacks (decorators : List (Decorator Program)) :
      ∀ decorator ∈ Step.callbacks decorators, decorator.EachCallback Blind :=
    Step.eachCallback fun program _ => Blind.run program
  have unchanged (same : step.undocumented = step)
      (onePiece : ∀ plain, step.pieces writer plain = [⟨writer.margin, plain⟩]) :
      ∃ plain text, OnlyComments step writer plain text :=
    onlyComments_of_body [] (Blind.perform step fun program _ => Blind.run program) rfl
      (by rw [same]) onePiece
  cases step
  case enum definition =>
    cases definition with
    | none => exact unchanged rfl fun _ => rfl
    | some definition => exact onlyComments_of_enum definition writer
  case classBlock definition program =>
    cases definition with
    | none => exact unchanged rfl fun _ => rfl
    | some definition =>
      refine onlyComments_of_body (Docs.paragraphLines definition.description)
        (((Blind.decoratorLines (callbacks definition.decorators)).andThen
          (Blind.line (definition.header ++ " \x7b"))).andThen
          (Blind.enclosed "\x7d" (contents program))) ?_ ?_ fun _ => rfl
      · rw [Step.perform, Step.classCallbacks?, Step.classCallbacks]
        rfl
      · rw [Step.undocumented, Option.map_some, Step.perform, Step.classCallbacks?,
          Step.classCallbacks]
        rfl
  case interfaceBlock definition program =>
    cases definition with
    | none => exact unchanged rfl fun _ => rfl
    | some definition =>
      refine onlyComments_of_body (Docs.paragraphLines definition.description)
        ((Blind.line (definition.header ++ " \x7b")).andThen
          (Blind.enclosed "\x7d" (contents program))) ?_ ?_ fun _ => rfl
      · rw [Step.perform]
        rfl
      · rw [Step.undocumented, Option.map_some, Step.perform]
        rfl
  case stringLiteralType definition =>
    cases definition with
    | none => exact unchanged rfl fun _ => rfl
    | some definition =>
      refine onlyComments_of_body (Docs.paragraphLines definition.description)
        (Blind.line definition.content) ?_ ?_ fun _ => rfl
      · rw [Step.perform]
        rfl
      · rw [Step.undocumented, Option.map_some, Step.perform]
        rfl
  case variableDeclaration definition =>
    cases definition with
    | none => exact unchanged rfl fun _ => rfl
    | some definition =>
      refine onlyComments_of_body (Docs.paragraphLines definition.description)
        (Blind.line definition.content) ?_ ?_ fun _ => rfl
      · rw [Step.perform]
        rfl
      · rw [Step.undocumented, Option.map_some, Step.perform]
        rfl
  case property definition =>
    cases definition with
    | none => exact unchanged rfl fun _ => rfl
    | some definition =>
      refine onlyComments_of_body (Docs.paragraphLines definition.description)
        ((Blind.startLine.andThen
          (Blind.decoratorPieces (callbacks definition.decorators))).andThen
          (Blind.endLine definition.content)) ?_ ?_ fun _ => rfl
      · rw [Step.perform, Step.propertyCallbacks?, Step.propertyCallbacks]
        rfl
      · rw [Step.undocumented, Option.map_some, Step.perform, Step.propertyCallbacks?,
          Step.propertyCallbacks]
        rfl
  case functionDeclaration definition =>
    cases definition with
    | none => exact unchanged rfl fun _ => rfl
    | some definition =>
      refine onlyComments_of_body (Docs.functionLines definition)
        ((Blind.bareSignature definition).andThen (Blind.endLine ";")) ?_ ?_ fun _ => rfl
      · rw [Step.perform, Option.elim_some, Performed.writer_ofWriter,
          Writer.functionDeclaration, Writer.signature_eq_bareSignature]
      · rw [Step.undocumented, Option.map_some, Step.perform, Option.elim_some,
          Performed.writer_ofWriter, Writer.functionDeclaration, Writer.signature_undocumented]
  case functionBlock definition program =>
    cases definition with
    | none => exact unchanged rfl fun _ => rfl
    | some definition => exact onlyComments_of_functionBlock definition program writer
  all_goals exact unchanged rfl fun _ => rfl

end Typescribe
