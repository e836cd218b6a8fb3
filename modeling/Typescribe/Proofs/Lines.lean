import Typescribe.Writer.Block
/-!
# Text that a writer adds

What a definition without callbacks adds to a writer depends on the margins and the comment
width alone. This module gives that text for lines, doc comments, enums, signatures and the
declarations of one line, and shows that nothing else of the writer changes.
-/
set_option autoImplicit false

namespace Typescribe

def lineText (margin content : String) : String := margin ++ content ++ "\n"

def linesText (margin : String) : List String → String
  | [] => ""
  | content :: contents => lineText margin content ++ linesText margin contents

def docText (margin : String) (width : UInt64) (contents : List String) : String :=
  linesText margin (Docs.block width.toNat contents)

/-- The lines of the members of an enum, without their doc comments. -/
def memberLines : List EnumMember → List String
  | [] => []
  | [member] => [member.content]
  | member :: next :: members => (member.content ++ ",") :: memberLines (next :: members)

def membersText (margin : String) (width : UInt64) : List EnumMember → String
  | [] => ""
  | [member] =>
    docText margin width (Docs.paragraphLines member.description)
      ++ lineText margin member.content
  | member :: next :: members =>
    docText margin width (Docs.paragraphLines member.description)
      ++ lineText margin (member.content ++ ",")
      ++ membersText margin width (next :: members)

def parameterListText (margin inner : String) (definition : FunctionDefinition) : String :=
  if definition.isMultiLine then
    "(\n" ++ linesText inner (definition.parameterTexts.map fun text => text ++ ",")
      ++ margin ++ ")"
  else "(" ++ ", ".intercalate definition.parameterTexts ++ ")"

/-- Without its doc comment. -/
def signatureText (margin inner : String) (definition : FunctionDefinition) : String :=
  margin ++ definition.head ++ parameterListText margin inner definition ++ definition.tail

namespace Writer

def margin (writer : Writer) : String := writer.sheet.margin

def innerMargin (writer : Writer) : String := (writer.setLevel (writer.level + 1)).margin

/-! ## Pieces of text -/

@[simp] theorem text_write (piece : String) (writer : Writer) :
    (writer.write piece).text = writer.text ++ piece := rfl

@[simp] theorem level_write (piece : String) (writer : Writer) :
    (writer.write piece).level = writer.level := rfl

@[simp] theorem margin_write (piece : String) (writer : Writer) :
    (writer.write piece).margin = writer.margin := rfl

@[simp] theorem innerMargin_write (piece : String) (writer : Writer) :
    (writer.write piece).innerMargin = writer.innerMargin := rfl

@[simp] theorem commentWidth_write (piece : String) (writer : Writer) :
    (writer.write piece).commentWidth = writer.commentWidth := rfl

@[simp] theorem write_write (first second : String) (writer : Writer) :
    (writer.write first).write second = writer.write (first ++ second) := by
  simp only [write, onSheet, Sheet.write, String.append_assoc]

@[simp] theorem write_empty (writer : Writer) : writer.write "" = writer := by
  simp only [write, onSheet, Sheet.write, String.append_empty]

theorem setLevel_write (level : Nat) (piece : String) (writer : Writer) :
    (writer.write piece).setLevel level = (writer.setLevel level).write piece := rfl

@[simp] theorem text_setLevel (level : Nat) (writer : Writer) :
    (writer.setLevel level).text = writer.text := rfl

@[simp] theorem level_setLevel (level : Nat) (writer : Writer) :
    (writer.setLevel level).level = level := rfl

@[simp] theorem commentWidth_setLevel (level : Nat) (writer : Writer) :
    (writer.setLevel level).commentWidth = writer.commentWidth := rfl

@[simp] theorem setLevel_setLevel (first second : Nat) (writer : Writer) :
    (writer.setLevel first).setLevel second = writer.setLevel second := rfl

@[simp] theorem setLevel_level (writer : Writer) : writer.setLevel writer.level = writer := rfl

/-! ## Lines -/

theorem startLine_eq_write (writer : Writer) :
    writer.startLine = writer.write writer.margin := rfl

theorem endLine_eq_write (piece : String) (writer : Writer) :
    writer.endLine piece = writer.write (piece ++ "\n") := rfl

theorem line_eq_write (content : String) (writer : Writer) :
    writer.line content = writer.write (lineText writer.margin content) := by
  have twoPieces : writer.line content =
      (writer.write writer.margin).write (content ++ "\n") := rfl
  rw [twoPieces, write_write, lineText, String.append_assoc]

theorem lines_eq_write (contents : List String) (writer : Writer) :
    writer.lines contents = writer.write (linesText writer.margin contents) := by
  induction contents generalizing writer with
  | nil => simp [lines, linesText]
  | cons content contents ih =>
    have oneMore : writer.lines (content :: contents) = (writer.line content).lines contents :=
      rfl
    rw [oneMore, ih, line_eq_write, margin_write, write_write, linesText]

theorem nested_eq_write (contents : Writer → Writer) (added : Writer → String)
    (writes : ∀ inner : Writer, contents inner = inner.write (added inner)) (writer : Writer) :
    writer.nested contents = writer.write (added (writer.setLevel (writer.level + 1))) := by
  rw [nested, writes, setLevel_write, setLevel_setLevel, setLevel_level]

/-! ## Definitions -/

theorem docLines_eq_write (contents : List String) (writer : Writer) :
    writer.docLines contents =
      writer.write (docText writer.margin writer.commentWidth contents) :=
  lines_eq_write _ _

theorem docParagraphs_eq_write (paragraphs : List String) (writer : Writer) :
    writer.docParagraphs paragraphs =
      writer.write (docText writer.margin writer.commentWidth (Docs.paragraphLines paragraphs)) :=
  lines_eq_write _ _

theorem enumMembers_eq_write (members : List EnumMember) (writer : Writer) :
    writer.enumMembers members =
      writer.write (membersText writer.margin writer.commentWidth members) := by
  induction members generalizing writer with
  | nil => simp [enumMembers, membersText]
  | cons member members ih =>
    cases members with
    | nil =>
      simp only [enumMembers, docParagraphs_eq_write, line_eq_write, margin_write, write_write,
        membersText]
    | cons next members =>
      rw [enumMembers, ih]
      simp only [docParagraphs_eq_write, line_eq_write, margin_write, commentWidth_write,
        write_write, membersText, String.append_assoc]

theorem enum_eq_write (definition : EnumDefinition) (writer : Writer) :
    writer.enum definition = writer.write
      (docText writer.margin writer.commentWidth (Docs.paragraphLines definition.description)
        ++ lineText writer.margin (definition.header ++ " \x7b")
        ++ membersText writer.innerMargin writer.commentWidth definition.members
        ++ lineText writer.margin "\x7d") := by
  simp only [enum, docParagraphs_eq_write, line_eq_write, margin_write, write_write]
  rw [nested_eq_write _ _ (enumMembers_eq_write definition.members)]
  simp only [write_write, margin_write, commentWidth_setLevel, commentWidth_write, level_write,
    innerMargin, setLevel_write, String.append_assoc]

theorem parameterList_eq_write (definition : FunctionDefinition) (writer : Writer) :
    writer.parameterList definition =
      writer.write (parameterListText writer.margin writer.innerMargin definition) := by
  rw [parameterList, parameterListText]
  split
  · dsimp only
    rw [nested_eq_write _ _ (lines_eq_write _)]
    simp only [endLine_eq_write, startLine_eq_write, write_write, margin_write, level_write,
      setLevel_write, innerMargin, String.append_assoc]
    rfl
  · rfl

theorem signature_eq_write (definition : FunctionDefinition) (writer : Writer) :
    writer.signature definition = writer.write
      (docText writer.margin writer.commentWidth (Docs.functionLines definition)
        ++ signatureText writer.margin writer.innerMargin definition) := by
  simp only [signature, docLines_eq_write, startLine_eq_write, parameterList_eq_write,
    write_write, margin_write, innerMargin_write, signatureText, String.append_assoc]

theorem signature_eq_docLines (definition : FunctionDefinition) (writer : Writer) :
    writer.signature definition = (writer.docLines (Docs.functionLines definition)).write
      (signatureText writer.margin writer.innerMargin definition) := by
  rw [signature_eq_write, docLines_eq_write, write_write]

theorem stringLiteralType_eq_write (definition : StringLiteralType) (writer : Writer) :
    writer.stringLiteralType definition = writer.write
      (docText writer.margin writer.commentWidth (Docs.paragraphLines definition.description)
        ++ lineText writer.margin definition.content) := by
  simp only [stringLiteralType, docParagraphs_eq_write, line_eq_write, margin_write, write_write]

end Writer

end Typescribe
