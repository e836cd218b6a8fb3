import Typescribe.Proofs.Lines
import Typescribe.Program
/-!
# Parts of members

Properties, parameters and functions are written from the same parts: keywords, a name with a
mark right behind it, and a type with the brackets of an array and the union with `null`. In a
function the list of parameters stands between the marked name and the type. This module names
the parts and gives the text of each kind of member in terms of them.
-/
set_option autoImplicit false

namespace Typescribe

variable {κ : Type}

/-- Keywords, each with a blank behind it. -/
def keywordsText : List String → String
  | [] => ""
  | keyword :: keywords => keyword ++ " " ++ keywordsText keywords

def keywordIf (condition : Bool) (keyword : String) : List String :=
  if condition then [keyword] else []

def accessKeywords (access : Option AccessModifier) : List String :=
  (access.map AccessModifier.keyword).toList

structure Member where
  keywords : List String := []
  name : String
  mark : String := ""
  typeName : String
  isMultivalued : Bool := false
  withNull : Bool := false
  deriving DecidableEq

namespace Member

def front (member : Member) : String :=
  keywordsText member.keywords ++ member.name ++ member.mark

def back (member : Member) : String :=
  ": " ++ typeText member.typeName member.isMultivalued member.withNull

def text (member : Member) : String := member.front ++ member.back

end Member

/-! ## Keywords -/

theorem keywordsText_append (first second : List String) :
    keywordsText (first ++ second) = keywordsText first ++ keywordsText second := by
  induction first with
  | nil => simp [keywordsText]
  | cons keyword keywords ih =>
    simp only [List.cons_append, keywordsText, ih, String.append_assoc]

theorem keywordsText_accessKeywords (access : Option AccessModifier) :
    keywordsText (accessKeywords access) = accessPrefix access := by
  cases access with
  | none => rfl
  | some access => simp [accessKeywords, keywordsText, accessPrefix]

theorem keywordsText_keywordIf (condition : Bool) (keyword : String) :
    keywordsText (keywordIf condition keyword) = if condition then keyword ++ " " else "" := by
  cases condition <;> simp [keywordIf, keywordsText]

theorem mem_keywordIf {condition : Bool} {keyword other : String} :
    other ∈ keywordIf condition keyword ↔ condition = true ∧ other = keyword := by
  cases condition <;> simp [keywordIf]

theorem mem_accessKeywords {access : Option AccessModifier} {keyword : String} :
    keyword ∈ accessKeywords access ↔ ∃ modifier, access = some modifier ∧
      modifier.keyword = keyword := by
  cases access <;> simp [accessKeywords, eq_comm]

/-! ## Properties -/

namespace PropertyDefinition

def member (definition : PropertyDefinition κ) : Member where
  keywords := accessKeywords definition.access ++ keywordIf definition.isStatic "static"
    ++ keywordIf definition.isReadonly "readonly"
  name := definition.name
  mark := definition.mark
  typeName := definition.typeName
  isMultivalued := definition.isMultivalued
  withNull := definition.isOptional && definition.hasNullUnion

def initializerText (definition : PropertyDefinition κ) : String :=
  match definition.defaultValue with
  | none => ""
  | some value => " = " ++ value

theorem content_eq_member (definition : PropertyDefinition κ) :
    definition.content = definition.member.text ++ definition.initializerText ++ ";" := by
  have static : "static" ++ " " = "static " := rfl
  have readonly : "readonly" ++ " " = "readonly " := rfl
  rw [content, initializerText]
  cases definition.defaultValue <;>
    simp only [Member.text, Member.front, Member.back, member, keywordsText_append,
      keywordsText_accessKeywords, keywordsText_keywordIf, static, readonly, String.append_assoc]

end PropertyDefinition

/-! ## Parameters and functions -/

def questionMark (condition : Bool) : String := if condition then "?" else ""

namespace ParameterDefinition

/-- Only parameters of constructors show theirs. -/
def shownAccess (inConstructor : Bool) (definition : ParameterDefinition) :
    Option AccessModifier :=
  if inConstructor then definition.access else none

def member (inConstructor : Bool) (definition : ParameterDefinition) : Member where
  keywords := accessKeywords (definition.shownAccess inConstructor)
  name := definition.name
  mark := questionMark (definition.isOptional && definition.usesQuestionToken)
  typeName := definition.typeName
  isMultivalued := definition.isMultivalued
  withNull := definition.isOptional && definition.hasNullUnion

theorem content_eq_member (inConstructor : Bool) (definition : ParameterDefinition) :
    definition.content inConstructor = (definition.member inConstructor).text := by
  have keywords : keywordsText (accessKeywords (definition.shownAccess inConstructor)) =
      if inConstructor then accessPrefix definition.access else "" := by
    rw [keywordsText_accessKeywords, shownAccess]
    cases inConstructor <;> rfl
  simp only [content, Member.text, Member.front, Member.back, member, questionMark, keywords,
    String.append_assoc]

end ParameterDefinition

/-- What stands between the parentheses of a signature, in one of the two layouts. -/
def parametersText (multiLine : Bool) (margin inner : String) (texts : List String) : String :=
  if multiLine && !texts.isEmpty then
    "\n" ++ linesText inner (texts.map fun text => text ++ ",") ++ margin
  else ", ".intercalate texts

namespace FunctionDefinition

def member (definition : FunctionDefinition) : Member where
  keywords := accessKeywords definition.access ++ keywordIf definition.isStatic "static"
    ++ keywordIf (!definition.isStatic && definition.isAbstract) "abstract"
  name := definition.name.getD ""
  mark := questionMark (definition.returnsOptional && definition.returnUsesQuestionToken)
  typeName := definition.returnTypeName.getD "void"
  isMultivalued := definition.returnsMultivalued
  withNull := definition.returnsOptional && definition.returnHasNullUnion

def inputMembers (definition : FunctionDefinition) : List Member :=
  definition.inputs.map (ParameterDefinition.member definition.isConstructor)

variable {definition : FunctionDefinition}

theorem head_eq_member (function : definition.isConstructor = false) :
    definition.head = definition.member.front := by
  have modifier : definition.modifier =
      keywordsText (keywordIf definition.isStatic "static"
        ++ keywordIf (!definition.isStatic && definition.isAbstract) "abstract") := by
    rw [FunctionDefinition.modifier, keywordsText_append, keywordsText_keywordIf,
      keywordsText_keywordIf]
    cases definition.isStatic <;> cases definition.isAbstract <;> rfl
  simp only [head, function, Bool.false_eq_true, if_false, modifier, Member.front, member,
    questionMark, keywordsText_append, keywordsText_accessKeywords, String.append_assoc]

theorem tail_eq_member (function : definition.isConstructor = false) :
    definition.tail = definition.member.back := by
  simp only [tail, function, Bool.false_eq_true, if_false, Member.back, member]

theorem parameterTexts_eq_members (definition : FunctionDefinition) :
    definition.parameterTexts = definition.inputMembers.map Member.text := by
  rw [parameterTexts, inputMembers, List.map_map]
  apply List.map_congr_left
  intro parameter _
  exact parameter.content_eq_member definition.isConstructor

theorem parameterListText_eq (margin inner : String) (definition : FunctionDefinition) :
    parameterListText margin inner definition = "(" ++
      parametersText definition.multiLineSignature margin inner definition.parameterTexts
        ++ ")" := by
  have isEmpty : definition.parameterTexts.isEmpty = definition.inputs.isEmpty := by
    rw [parameterTexts, List.isEmpty_map]
  rw [parameterListText, parametersText, isMultiLine, isEmpty]
  split
  · simp only [← String.append_assoc]
    rfl
  · rfl

end FunctionDefinition

/-! ## Added text -/

theorem addedText_of_text {earlier later : Writer} {added : String}
    (grown : later.text = earlier.text ++ added) : addedText earlier later = added := by
  rw [addedText, grown, String.toList_append, ← String.length_toList, List.drop_left,
    String.ofList_toList]

namespace Writer

theorem margin_congr {left right : Writer} (sameIndent : left.sheet.indent = right.sheet.indent)
    (sameLevel : left.level = right.level) : left.margin = right.margin := by
  have level : left.sheet.level = right.sheet.level := sameLevel
  simp only [margin, Sheet.margin, sameIndent, level]

theorem innerMargin_congr {left right : Writer}
    (sameIndent : left.sheet.indent = right.sheet.indent) (sameLevel : left.level = right.level) :
    left.innerMargin = right.innerMargin := by
  rw [innerMargin, innerMargin, sameLevel]
  exact margin_congr sameIndent rfl

theorem addedText_property {definition : PropertyDefinition Callback} (writer : Writer)
    (noDescription : definition.description = []) (noDecorators : definition.decorators = []) :
    addedText writer (writer.property definition) =
      writer.margin ++ definition.content ++ "\n" := by
  apply addedText_of_text
  have line : writer.property definition = writer.line definition.content := by
    rw [property, noDescription, noDecorators]
    rfl
  rw [line, line_eq_write, text_write, lineText]

theorem addedText_functionDeclaration {definition : FunctionDefinition} (writer : Writer)
    (noDescription : definition.description = []) :
    addedText writer (writer.functionDeclaration definition) =
      signatureText writer.margin writer.innerMargin definition ++ ";\n" := by
  apply addedText_of_text
  have noLines : Docs.functionLines definition = [] := by
    rw [Docs.functionLines, noDescription]
    rfl
  have noComment : docText writer.margin writer.commentWidth [] = "" := rfl
  rw [functionDeclaration, signature_eq_write, noLines, noComment, endLine_eq_write, write_write,
    text_write, String.empty_append]
  rfl

end Writer

end Typescribe
