import Typescribe.Proofs.Changes
/-!
# Blocks around contents

A block is opened by a header at some level, runs its contents once, one level deeper, and is
closed by a line at the level of the header. The contents are any program: the level at which
they stop, below the block or above it, has no effect behind them.
-/
set_option autoImplicit false

namespace Typescribe

structure Block where
  lead : Writer → Writer
  /-- The header lines, from the margins of its level and of the next one. -/
  header : String → String → String
  contents : Program
  closing : String

namespace Step

/-- A function without a body is no block. -/
def block? : Step → Option Block
  | .codeBlock contents => some {
      lead := id
      header := fun margin _ => lineText margin "\x7b"
      contents
      closing := "\x7d" }
  | .decoratorBlock name contents => some {
      lead := id
      header := fun margin _ => lineText margin ("@" ++ name ++ "(\x7b")
      contents
      closing := "\x7d)" }
  | .classBlock (some definition) contents => some {
      lead := fun writer => (writer.docParagraphs definition.description).decoratorLines
        (callbacks definition.decorators)
      header := fun margin _ => lineText margin (definition.header ++ " \x7b")
      contents
      closing := "\x7d" }
  | .interfaceBlock (some definition) contents => some {
      lead := Writer.docParagraphs definition.description
      header := fun margin _ => lineText margin (definition.header ++ " \x7b")
      contents
      closing := "\x7d" }
  | .functionBlock (some definition) contents =>
    if definition.isAbstract then none
    else some {
      lead := Writer.docLines (Docs.functionLines definition)
      header := fun margin inner => signatureText margin inner definition ++ " \x7b\n"
      contents
      closing := "\x7d" }
  | _ => none

end Step

namespace Block

def level (block : Block) (writer : Writer) : Nat := (block.lead writer).level

def headerText (block : Block) (writer : Writer) : String :=
  block.header (block.lead writer).margin (block.lead writer).innerMargin

def entered (block : Block) (writer : Writer) : Writer :=
  ((block.lead writer).write (block.headerText writer)).setLevel (block.level writer + 1)

/-- What a block does to a writer: `front` stands before the header, `added` is of the contents. -/
structure Written (block : Block) (step : Step) (writer : Writer) (front added : String) :
    Prop where
  lead : (block.lead writer).text = writer.text ++ front
  /-- The contents would add the same to any writer that is as deep. -/
  inner : ∀ other, Alike other (block.entered writer) →
    (Step.run block.contents other).text = other.text ++ added
  contents : (step.perform writer).contents =
    some (Step.runAll block.contents (block.entered writer)).1
  after : (step.perform writer).writer =
    ((Step.run block.contents (block.entered writer)).setLevel (block.level writer)).line
      block.closing
  text : (step.perform writer).writer.text =
    writer.text ++ front ++ block.headerText writer ++ added
      ++ lineText (copies (block.level writer) writer.sheet.indent.unit) block.closing
  level : (step.perform writer).writer.level = block.level writer

variable {step : Step} {block : Block}

theorem perform_eq (isBlock : step.block? = some block) (writer : Writer) :
    step.perform writer = .ofContents
      (((block.lead writer).write (block.headerText writer)).enclosed block.closing
        (Step.runAll block.contents)) := by
  unfold Step.block? at isBlock
  split at isBlock
  case h_1 contents =>
    cases isBlock
    rw [Step.perform, Writer.codeBlock, Writer.line_eq_write]
    rfl
  case h_2 name contents =>
    cases isBlock
    rw [Step.perform, Writer.decoratorBlock, Writer.line_eq_write]
    rfl
  case h_3 definition contents =>
    cases isBlock
    have header : (Step.classCallbacks definition).header = definition.header := by
      rw [Step.classCallbacks]
      rfl
    have description : (Step.classCallbacks definition).description = definition.description := by
      rw [Step.classCallbacks]
    simp only [Step.perform, Step.classCallbacks?, Writer.classBlock, Writer.line_eq_write,
      Step.decorators_classCallbacks, header, description]
    rfl
  case h_4 definition contents =>
    cases isBlock
    simp only [Step.perform, Writer.interfaceBlock, Writer.line_eq_write]
    rfl
  case h_5 definition contents =>
    split at isBlock
    · cases isBlock
    · next concrete =>
      cases isBlock
      have opened : (writer.signature definition).endLine " \x7b" =
          (writer.docLines (Docs.functionLines definition)).write
            (signatureText writer.margin writer.innerMargin definition ++ " \x7b\n") := by
        rw [Writer.signature_eq_docLines, Writer.endLine_eq_write, Writer.write_write]
        rfl
      simp only [Step.perform, Writer.functionBlock, concrete, if_false, opened,
        Bool.false_eq_true, headerText, Writer.docLines_eq_write, Writer.margin_write,
        Writer.innerMargin_write]
      rfl
  case h_6 => cases isBlock

theorem blind_lead (isBlock : step.block? = some block) : Blind block.lead := by
  unfold Step.block? at isBlock
  split at isBlock
  case h_1 contents =>
    cases isBlock
    exact Blind.same
  case h_2 name contents =>
    cases isBlock
    exact Blind.same
  case h_3 definition contents =>
    cases isBlock
    exact (Blind.docParagraphs _).andThen
      (Blind.decoratorLines (Step.eachCallback fun program _ => Blind.run program))
  case h_4 definition contents =>
    cases isBlock
    exact Blind.docParagraphs _
  case h_5 definition contents =>
    split at isBlock
    · cases isBlock
    · cases isBlock
      exact Blind.docLines _
  case h_6 => cases isBlock

/-- Contents run once, one level below the header, and whatever they do to the level, the closing
line stands at that of the header. -/
theorem contents_run_in_scope (isBlock : step.block? = some block) (writer : Writer) :
    ∃ front added, block.Written step writer front added := by
  obtain ⟨_, leadKeeps, front, leadText, _⟩ := blind_lead isBlock writer writer (Alike.refl _)
  obtain ⟨_, runKeeps, added, runText, _⟩ :=
    Blind.run block.contents _ _ (Alike.refl (block.entered writer))
  have indent : (Step.run block.contents (block.entered writer)).sheet.indent =
      writer.sheet.indent := runKeeps.indent.trans leadKeeps.indent
  have performed : (step.perform writer).writer =
      ((Step.run block.contents (block.entered writer)).setLevel (block.level writer)).line
        block.closing := by
    rw [perform_eq isBlock]
    rfl
  refine ⟨front, added, leadText, ?_, ?_, performed, ?_, ?_⟩
  · intro other alike
    obtain ⟨_, _, piece, otherText, enteredText⟩ := Blind.run block.contents _ _ alike
    rw [runText, String.append_right_inj] at enteredText
    rw [otherText, ← enteredText]
  · rw [perform_eq isBlock]
    rfl
  · have entered : (block.entered writer).text =
        writer.text ++ front ++ block.headerText writer := by
      rw [← leadText]
      rfl
    have margin : ((Step.run block.contents (block.entered writer)).setLevel
        (block.level writer)).margin = copies (block.level writer) writer.sheet.indent.unit := by
      rw [← indent]
      rfl
    rw [performed, Writer.line_eq_write, Writer.text_write, Writer.text_setLevel, runText,
      entered, margin]
  · rw [performed, Writer.line_eq_write, Writer.level_write, Writer.level_setLevel]

theorem unbalanced_contents_run_in_scope :
    let step := Step.classBlock
      (some {
        name := "A"
        decorators := [{ name := "D", arguments := some (.callback [.deeper]) }] })
      [.shallower, .shallower, .line "x"]
    ∃ block, step.block? = some block ∧ block.level {} = 1 ∧
      (step.perform {}).writer.text = "@D()\n  class A \x7b\nx\n  \x7d\n" ∧
      ∃ front added, block.Written step {} front added :=
  ⟨_, rfl, rfl, by decide, contents_run_in_scope rfl _⟩

end Block

end Typescribe
