import Typescribe.Proofs.Lines
import Typescribe.Proofs.Traversal
import Typescribe.Writer.FromModel
/-!
# Writers do not look back

Two writers are `Alike` if they agree on everything but the text written so far and the pending
warnings. A change of writers is `Blind` if it adds the same text to any two writers that are
alike, leaves them alike, and keeps the style of indentation and the naming of types. Lines and
pieces are blind, and so are scopes and decorators if the contents and the callbacks that they
run are.
-/
set_option autoImplicit false

namespace Typescribe

/-- Two writers that differ at most in their text so far and their pending warnings. -/
structure Alike (left right : Writer) : Prop where
  indent : left.sheet.indent = right.sheet.indent
  level : left.level = right.level
  commentWidth : left.commentWidth = right.commentWidth
  resolver : left.builder.resolver = right.builder.resolver

structure SameSetting (before after : Writer) : Prop where
  indent : after.sheet.indent = before.sheet.indent
  resolver : after.builder.resolver = before.builder.resolver

def Decorator.EachCallback (holds : Callback → Prop) (decorator : Decorator Callback) : Prop :=
  ∀ run, decorator.arguments = some (.callback run) → holds run

/-- A change that adds the same text to writers that are alike, and leaves them alike. -/
def Blind (change : Writer → Writer) : Prop :=
  ∀ left right : Writer, Alike left right →
    Alike (change left) (change right) ∧ SameSetting left (change left) ∧
      ∃ added, (change left).text = left.text ++ added ∧
        (change right).text = right.text ++ added

namespace Alike

variable {left right : Writer}

theorem refl (writer : Writer) : Alike writer writer := ⟨rfl, rfl, rfl, rfl⟩

theorem write (alike : Alike left right) (first second : String) :
    Alike (left.write first) (right.write second) :=
  ⟨alike.indent, alike.level, alike.commentWidth, alike.resolver⟩

theorem write_left (alike : Alike left right) (piece : String) :
    Alike (left.write piece) right :=
  ⟨alike.indent, alike.level, alike.commentWidth, alike.resolver⟩

theorem setLevel (alike : Alike left right) (level : Nat) :
    Alike (left.setLevel level) (right.setLevel level) :=
  ⟨alike.indent, rfl, alike.commentWidth, alike.resolver⟩

theorem margin (alike : Alike left right) : left.margin = right.margin := by
  have level : left.sheet.level = right.sheet.level := alike.level
  simp only [Writer.margin, Sheet.margin, alike.indent, level]

theorem innerMargin (alike : Alike left right) : left.innerMargin = right.innerMargin := by
  rw [Writer.innerMargin, Writer.innerMargin, alike.level]
  exact (alike.setLevel _).margin

end Alike

/-! ## Decorators of built definitions -/

namespace Resolver

variable {κ : Type} {resolver : Resolver} {decorators : List (Decorator κ)}

theorem decorators_of_class {element : Class} {options : ClassOptions}
    {definition : ClassDefinition κ}
    (built : (resolver.classDefinition element decorators options).result = .ok definition) :
    definition.decorators = decorators := by
  unfold classDefinition at built
  cases named : requiredName .ofClass element.name with
  | error failure => simp [named] at built
  | ok name =>
    simp only [named, Except.ok.injEq] at built
    rw [← built]

theorem decorators_of_property {element : Property} {options : PropertyOptions}
    {definition : PropertyDefinition κ}
    (built : resolver.propertyDefinition element decorators options = .ok definition) :
    definition.decorators = decorators := by
  obtain ⟨name, -, rfl⟩ := exists_of_map_eq_ok built
  rfl

end Resolver

/-! ## Composition -/

namespace Blind

theorem ofQuiet {change : Writer → Writer} (quiet : ∀ writer, (change writer).text = writer.text)
    (keeps : ∀ writer, SameSetting writer (change writer))
    (respects : ∀ {left right}, Alike left right → Alike (change left) (change right)) :
    Blind change := by
  intro left right alike
  refine ⟨respects alike, keeps left, "", ?_, ?_⟩
  · rw [quiet, String.append_empty]
  · rw [quiet, String.append_empty]

theorem ofWrite {change : Writer → Writer} (piece : Writer → String)
    (writes : ∀ writer, change writer = writer.write (piece writer))
    (agrees : ∀ {left right}, Alike left right → piece left = piece right) : Blind change := by
  intro left right alike
  rw [writes, writes, agrees alike]
  exact ⟨alike.write _ _, ⟨rfl, rfl⟩, piece right, rfl, rfl⟩

theorem ofSetLevel {change : Writer → Writer} (level : Writer → Nat)
    (sets : ∀ writer, change writer = writer.setLevel (level writer))
    (agrees : ∀ {left right}, Alike left right → level left = level right) : Blind change := by
  refine ofQuiet (fun writer => ?_) (fun writer => ?_) fun alike => ?_
  · rw [sets, Writer.text_setLevel]
  · rw [sets]
    exact ⟨rfl, rfl⟩
  · rw [sets, sets, agrees alike]
    exact alike.setLevel _

theorem same : Blind fun writer => writer :=
  ofQuiet (fun _ => rfl) (fun _ => ⟨rfl, rfl⟩) id

theorem andThen {first second : Writer → Writer} (firstBlind : Blind first)
    (secondBlind : Blind second) : Blind fun writer => second (first writer) := by
  intro left right alike
  obtain ⟨middle, firstKeeps, firstAdded, firstLeft, firstRight⟩ := firstBlind left right alike
  obtain ⟨last, secondKeeps, secondAdded, secondLeft, secondRight⟩ := secondBlind _ _ middle
  refine ⟨last, ⟨secondKeeps.indent.trans firstKeeps.indent,
    secondKeeps.resolver.trans firstKeeps.resolver⟩, firstAdded ++ secondAdded, ?_, ?_⟩
  · rw [secondLeft, firstLeft, String.append_assoc]
  · rw [secondRight, firstRight, String.append_assoc]

theorem write (piece : String) : Blind (Writer.write piece) :=
  ofWrite (fun _ => piece) (fun _ => rfl) fun _ => rfl

theorem startLine : Blind Writer.startLine :=
  ofWrite _ Writer.startLine_eq_write Alike.margin

theorem endLine (piece : String) : Blind (Writer.endLine piece) :=
  ofWrite _ (Writer.endLine_eq_write piece) fun _ => rfl

theorem line (content : String) : Blind (Writer.line content) :=
  ofWrite _ (Writer.line_eq_write content) fun alike => by rw [alike.margin]

theorem docLines (contents : List String) : Blind (Writer.docLines contents) :=
  ofWrite _ (Writer.docLines_eq_write contents) fun alike => by
    rw [alike.margin, alike.commentWidth]

theorem docParagraphs (paragraphs : List String) : Blind (Writer.docParagraphs paragraphs) :=
  docLines _

theorem deeper : Blind Writer.deeper :=
  ofSetLevel (fun writer => writer.level + 1) (fun _ => rfl) fun alike => by rw [alike.level]

theorem shallower : Blind Writer.shallower :=
  ofSetLevel (fun writer => writer.level - 1) (fun _ => rfl) fun alike => by rw [alike.level]

/-! ## Scopes and decorators -/

theorem enclosed {β : Type} (closing : String) {contents : Writer → β × Writer}
    (blind : Blind fun writer => (contents writer).2) :
    Blind fun writer => (writer.enclosed closing contents).2 := by
  intro left right alike
  obtain ⟨inside, keeps, added, leftText, rightText⟩ :=
    blind _ _ (alike.setLevel (left.level + 1))
  obtain ⟨after, closedKeeps, closed, leftClosed, rightClosed⟩ :=
    line closing _ _ (inside.setLevel left.level)
  simp only [Writer.enclosed, Writer.inScope, ← alike.level]
  refine ⟨after, ⟨closedKeeps.indent.trans keeps.indent,
    closedKeeps.resolver.trans keeps.resolver⟩, added ++ closed, ?_, ?_⟩
  · rw [leftClosed, Writer.text_setLevel, leftText, Writer.text_setLevel, String.append_assoc]
  · rw [rightClosed, Writer.text_setLevel, rightText, Writer.text_setLevel, String.append_assoc]

theorem decorator {decorator : Decorator Callback} (blind : decorator.EachCallback Blind) :
    Blind (Writer.decorator decorator) := by
  have named : Blind fun writer => (writer.write "@").write decorator.name :=
    (write "@").andThen (write decorator.name)
  unfold Writer.decorator
  cases parentheses : decorator.hasParentheses with
  | false => simpa only [Bool.false_eq_true, if_false] using named
  | true =>
    have arguments : Blind (Writer.arguments decorator.arguments) := by
      cases given : decorator.arguments with
      | none => exact same
      | some arguments =>
        cases arguments with
        | text content => exact write content
        | callback run => exact blind run given
    simpa only [if_true] using
      ((named.andThen (write "(")).andThen arguments).andThen (write ")")

theorem decoratorLines {decorators : List (Decorator Callback)}
    (blind : ∀ decorator ∈ decorators, decorator.EachCallback Blind) :
    Blind (Writer.decoratorLines decorators) := by
  induction decorators with
  | nil => exact same
  | cons head rest ih =>
    have headBlind := (startLine.andThen (decorator (blind head (by simp)))).andThen (endLine "")
    exact headBlind.andThen (ih fun next member => blind next (by simp [member]))

theorem decoratorPieces {decorators : List (Decorator Callback)}
    (blind : ∀ decorator ∈ decorators, decorator.EachCallback Blind) :
    Blind (Writer.decoratorPieces decorators) := by
  induction decorators with
  | nil => exact same
  | cons head rest ih =>
    have headBlind := (decorator (blind head (by simp))).andThen (write " ")
    exact headBlind.andThen (ih fun next member => blind next (by simp [member]))

end Blind

end Typescribe
