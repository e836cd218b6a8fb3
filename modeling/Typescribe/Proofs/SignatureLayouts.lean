import Typescribe.Proofs.Levels
import Typescribe.Proofs.Members
/-!
# The two layouts of a signature

The parameters of a signature stand on one line or on lines of their own. The choice is one of
layout alone: the text in front of the parenthesis, the parameters and the text behind them are
the same, and so are the level and the text of whatever comes next.
-/
set_option autoImplicit false

namespace Typescribe

def FunctionDefinition.inLayout (multiLine : Bool) (definition : FunctionDefinition) :
    FunctionDefinition :=
  { definition with multiLineSignature := multiLine }

/-- The same head and tail around the same parameters in the two layouts. -/
structure LaidOut (write : FunctionDefinition → Callback) (definition : FunctionDefinition)
    (writer : Writer) (head : String) (parameters : List String) (tail : String) : Prop where
  oneLine : (write (definition.inLayout false) writer).text =
    writer.text ++ head ++ "(" ++ ", ".intercalate parameters ++ ")" ++ tail
  /-- Each parameter has a comma behind it, the last one too. -/
  ownLines : parameters ≠ [] → (write (definition.inLayout true) writer).text =
    writer.text ++ head ++ "(\n"
      ++ linesText writer.innerMargin (parameters.map fun parameter => parameter ++ ",")
      ++ writer.margin ++ ")" ++ tail
  noParameters : parameters = [] → (write (definition.inLayout true) writer).text =
    (write (definition.inLayout false) writer).text
  level : ∀ multiLine, (write (definition.inLayout multiLine) writer).level = writer.level
  alike : Alike (write (definition.inLayout false) writer) (write (definition.inLayout true) writer)

namespace LaidOut

variable {write other : FunctionDefinition → Callback} {definition : FunctionDefinition}
  {writer : Writer} {head tail : String} {parameters : List String}

theorem followed (laidOut : LaidOut write definition writer head parameters tail) {rest : String}
    (adds : ∀ multiLine, (other (definition.inLayout multiLine) writer).text =
      (write (definition.inLayout multiLine) writer).text ++ rest)
    (keeps : ∀ multiLine, (other (definition.inLayout multiLine) writer).level =
      (write (definition.inLayout multiLine) writer).level)
    (alike : Alike (other (definition.inLayout false) writer)
      (other (definition.inLayout true) writer)) :
    LaidOut other definition writer head parameters (tail ++ rest) where
  oneLine := by rw [adds, laidOut.oneLine, String.append_assoc]
  ownLines some := by rw [adds, laidOut.ownLines some, String.append_assoc]
  noParameters none := by rw [adds, adds, laidOut.noParameters none]
  level multiLine := by rw [keeps, laidOut.level]
  alike := alike

theorem followed_blind (laidOut : LaidOut write definition writer head parameters tail)
    {next : Callback} (blind : Blind next) (keeps : KeepsLevel next)
    (isNext : ∀ multiLine, other (definition.inLayout multiLine) writer =
      next (write (definition.inLayout multiLine) writer)) :
    ∃ rest, LaidOut other definition writer head parameters (tail ++ rest) := by
  obtain ⟨alike, -, rest, afterOneLine, afterOwnLines⟩ := blind _ _ laidOut.alike
  refine ⟨rest, laidOut.followed (fun multiLine => ?_) (fun multiLine => ?_) ?_⟩
  · rw [isNext]
    cases multiLine with
    | false => exact afterOneLine
    | true => exact afterOwnLines
  · rw [isNext, keeps]
  · rw [isNext, isNext]
    exact alike

end LaidOut

namespace Writer

variable (definition : FunctionDefinition) (writer : Writer)

def signatureHead : String :=
  docText writer.margin writer.commentWidth (Docs.functionLines definition)
    ++ writer.margin ++ definition.head

theorem signature_inLayout (multiLine : Bool) :
    writer.signature (definition.inLayout multiLine) = writer.write
      (writer.signatureHead definition ++ "("
        ++ parametersText multiLine writer.margin writer.innerMargin definition.parameterTexts
        ++ ")" ++ definition.tail) := by
  have list : parameterListText writer.margin writer.innerMargin (definition.inLayout multiLine) =
      "(" ++ parametersText multiLine writer.margin writer.innerMargin definition.parameterTexts
        ++ ")" :=
    FunctionDefinition.parameterListText_eq _ _ _
  have lines : Docs.functionLines (definition.inLayout multiLine) =
      Docs.functionLines definition := rfl
  have head : (definition.inLayout multiLine).head = definition.head := rfl
  have tail : (definition.inLayout multiLine).tail = definition.tail := rfl
  rw [signature_eq_write, signatureText, list, lines, head, tail, signatureHead]
  simp only [String.append_assoc]

theorem laidOut_signature :
    LaidOut signature definition writer (writer.signatureHead definition)
      definition.parameterTexts definition.tail where
  oneLine := by
    rw [signature_inLayout, text_write, parametersText]
    simp only [Bool.false_and, Bool.false_eq_true, if_false, String.append_assoc]
  ownLines some := by
    have shown : (true && !definition.parameterTexts.isEmpty) = true := by simpa using some
    have opening : "(\n" = "(" ++ "\n" := rfl
    rw [signature_inLayout, text_write, parametersText, if_pos shown, opening]
    simp only [String.append_assoc]
  noParameters none := by
    rw [signature_inLayout, signature_inLayout, none]
    rfl
  level multiLine := by rw [signature_inLayout, level_write]
  alike := by
    rw [signature_inLayout, signature_inLayout]
    exact (Alike.refl writer).write _ _

end Writer

/-! ## Functions -/

/-- The layout changes a signature between its parentheses and nothing else. -/
theorem layouts_of_signature (definition : FunctionDefinition) (writer : Writer) :
    ∃ head parameters tail,
      parameters = definition.inputs.map (ParameterDefinition.content definition.isConstructor) ∧
      LaidOut Writer.signature definition writer head parameters tail ∧
      LaidOut (fun function before =>
          (Step.perform (.functionDeclaration (some function)) before).writer)
        definition writer head parameters (tail ++ ";\n") ∧
      ∀ contents : Program, ∃ rest,
        LaidOut (fun function before =>
            (Step.perform (.functionBlock (some function) contents) before).writer)
          definition writer head parameters (tail ++ rest) := by
  have signature := Writer.laidOut_signature definition writer
  refine ⟨_, _, _, rfl, signature, ?_, fun contents => ?_⟩
  · exact signature.followed (fun _ => rfl) (fun _ => rfl) (signature.alike.write _ _)
  · cases kind : definition.isAbstract with
    | true =>
      refine signature.followed_blind (.endLine ";") (fun _ => rfl) fun multiLine => ?_
      simp only [Step.perform, Writer.functionBlock, FunctionDefinition.inLayout, kind, if_true]
      rfl
    | false =>
      have blind : Blind fun before =>
          ((before.endLine " \x7b").enclosed "\x7d" (Step.runAll contents)).2 :=
        (Blind.endLine " \x7b").andThen (Blind.enclosed "\x7d" (Blind.run contents))
      refine signature.followed_blind blind (fun _ => rfl) fun multiLine => ?_
      simp only [Step.perform, Writer.functionBlock, FunctionDefinition.inLayout, kind,
        Bool.false_eq_true, if_false]
      rfl

/-- A list that holds the result alone has no lines to break. -/
example :
    let result : ParameterDefinition := { name := "result", typeName := "A", isResult := true }
    let definition : FunctionDefinition := { name := some "f", parameters := [result] }
    (Writer.signature (definition.inLayout true) {}).text = "f(): void" := by
  decide

end Typescribe
