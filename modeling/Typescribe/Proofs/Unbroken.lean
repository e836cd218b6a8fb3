import Typescribe.Proofs.Literals
import Typescribe.Proofs.Rendered
/-!
# Texts of one line

A text without a line feed stays on the line that it stands on. If the texts of a definition are
of one line, so is everything that is put together from them, and what the definition writes is a
list of rows: each is started by a margin and ended once. The rows of a signature are those of
its parameters, and those around them, with what ends the signature on the last.
-/
set_option autoImplicit false

namespace Typescribe

def Unbroken (text : String) : Prop := Avoids ['\n'] text

instance : DecidablePred Unbroken := fun text => inferInstanceAs (Decidable (Avoids ['\n'] text))

namespace Unbroken

theorem rules : TextRules Unbroken where
  own avoids := avoids.mono (by decide)
  append := Avoids.append
  between frame inside := by
    obtain ⟨before, behind⟩ := frame.avoid_lineFeed
    exact (before.append inside).append behind
  quoted {text} _ := by
    intro letter member isBreak
    have visible := Text.isVisible_of_mem_quotedString member
    rw [List.mem_singleton.mp isBreak] at visible
    exact absurd visible (by decide)

theorem unit (indent : Indent) : Unbroken indent.unit := by
  have isMargin : IsMargin indent.unit := by
    simpa [copies] using isMargin_copies 1 indent
  exact .margin isMargin (by decide) (by decide)

theorem block {width : Nat} {lines : List String} (unbroken : ∀ line ∈ lines, Unbroken line) :
    ∀ row ∈ Docs.block width lines, Unbroken row :=
  Docs.avoids_of_block (by decide) unbroken

end Unbroken

/-! ## Decorators -/

section Decorators

variable {κ : Type}

def Decorator.literal (decorator : Decorator κ) : String :=
  match decorator.arguments with
  | some (.text content) => content
  | _ => ""

def Decorator.content (decorator : Decorator κ) : String :=
  "@" ++ decorator.name ++ if decorator.hasParentheses then "(" ++ decorator.literal ++ ")" else ""

def decoratorsText : List (Decorator κ) → String
  | [] => ""
  | decorator :: decorators => decorator.content ++ " " ++ decoratorsText decorators

theorem Decorator.unbroken_content {decorator : Decorator κ}
    (unbroken : ∀ text ∈ decorator.texts, Unbroken text) : Unbroken decorator.content := by
  simp only [texts, List.forall_mem_cons] at unbroken
  obtain ⟨name, given⟩ := unbroken
  have literal : Unbroken decorator.literal := by
    rw [Decorator.literal]
    split
    · next content isText => exact given content (by simp [isText])
    · exact Unbroken.rules.empty
  have parentheses : Unbroken ("(" ++ decorator.literal ++ ")") :=
    Unbroken.rules.between ⟨⟨[')'], fun _ => rfl, fun _ => rfl⟩, by decide⟩ literal
  have named : Unbroken ("@" ++ decorator.name) :=
    Unbroken.rules.append (Unbroken.rules.own (by decide)) name
  exact Unbroken.rules.append named (Unbroken.rules.ite parentheses Unbroken.rules.empty)

theorem unbroken_decoratorsText {decorators : List (Decorator κ)}
    (unbroken : ∀ text ∈ decorators.flatMap Decorator.texts, Unbroken text) :
    Unbroken (decoratorsText decorators) := by
  induction decorators with
  | nil => exact Unbroken.rules.empty
  | cons head rest ih =>
    rw [List.flatMap_cons, List.forall_mem_append] at unbroken
    have blank : Unbroken " " := Unbroken.rules.own (by decide)
    exact Unbroken.rules.append
      (Unbroken.rules.append (Decorator.unbroken_content unbroken.1) blank) (ih unbroken.2)

end Decorators

namespace Writer

variable {decorators : List (Decorator Callback)}

theorem decorator_eq_write {decorator : Decorator Callback}
    (noCallback : decorator.EachCallback fun _ => False) (writer : Writer) :
    writer.decorator decorator = writer.write decorator.content := by
  rw [Writer.decorator, Decorator.content]
  cases decorator.hasParentheses with
  | false => simp
  | true =>
    have arguments : ∀ before : Writer,
        arguments decorator.arguments before = before.write decorator.literal := by
      intro before
      rw [Decorator.literal]
      cases given : decorator.arguments with
      | none => exact (write_empty before).symm
      | some arguments =>
        cases arguments with
        | text content => rfl
        | callback run => exact (noCallback run given).elim
    simp only [if_true, arguments, write_write, String.append_assoc]

theorem decoratorLines_eq_lines
    (noCallbacks : ∀ decorator ∈ decorators, decorator.EachCallback fun _ => False)
    (writer : Writer) :
    writer.decoratorLines decorators = writer.lines (decorators.map Decorator.content) := by
  induction decorators generalizing writer with
  | nil => rfl
  | cons head rest ih =>
    have headLine : (writer.startLine.decorator head).endLine "" = writer.line head.content := by
      rw [decorator_eq_write (noCallbacks head (by simp)), startLine_eq_write, endLine_eq_write,
        line_eq_write, lineText, String.empty_append, write_write, write_write,
        String.append_assoc]
    have oneMore : writer.decoratorLines (head :: rest) =
        ((writer.startLine.decorator head).endLine "").decoratorLines rest := rfl
    rw [oneMore, headLine, ih fun next member => noCallbacks next (by simp [member])]
    rfl

theorem decoratorPieces_eq_write
    (noCallbacks : ∀ decorator ∈ decorators, decorator.EachCallback fun _ => False)
    (writer : Writer) :
    writer.decoratorPieces decorators = writer.write (decoratorsText decorators) := by
  induction decorators generalizing writer with
  | nil => exact (write_empty writer).symm
  | cons head rest ih =>
    have oneMore : writer.decoratorPieces (head :: rest) =
        ((writer.decorator head).write " ").decoratorPieces rest := rfl
    rw [oneMore, decorator_eq_write (noCallbacks head (by simp)),
      ih fun next member => noCallbacks next (by simp [member])]
    simp only [write_write, decoratorsText, String.append_assoc]

end Writer

/-! ## Rows of a signature -/

/-- The rows of a signature, without its doc comment, that ends in the given text. -/
def FunctionDefinition.rows (unit ending : String) (definition : FunctionDefinition) :
    List String :=
  if definition.isMultiLine then
    (definition.head ++ "(") :: (definition.parameterTexts.map fun text => unit ++ (text ++ ","))
      ++ [")" ++ definition.tail ++ ending]
  else
    [definition.head ++ "(" ++ ", ".intercalate definition.parameterTexts ++ ")"
      ++ definition.tail ++ ending]

theorem FunctionDefinition.unbroken_rows {definition : FunctionDefinition}
    (unbroken : ∀ text ∈ definition.texts, Unbroken text) {unit ending : String}
    (unitUnbroken : Unbroken unit) (endingUnbroken : Unbroken ending) :
    ∀ row ∈ definition.rows unit ending, Unbroken row := by
  have head := Unbroken.rules.functionHead unbroken
  have tail := Unbroken.rules.functionTail unbroken
  have parameters := Unbroken.rules.parameterTexts unbroken
  have opening : Unbroken "(" := by decide
  have closing : Unbroken ")" := by decide
  rw [rows]
  split
  · simp only [List.forall_mem_append, List.forall_mem_cons, List.forall_mem_map]
    refine ⟨⟨head.append opening, fun text member => ?_⟩, (closing.append tail).append
      endingUnbroken, by simp⟩
    exact unitUnbroken.append ((parameters text member).append (by decide))
  · simp only [List.forall_mem_cons]
    have list : Unbroken (", ".intercalate definition.parameterTexts) :=
      Unbroken.rules.intercalate (by decide) parameters
    exact ⟨((((head.append opening).append list).append closing).append tail).append
      endingUnbroken, by simp⟩

end Typescribe
