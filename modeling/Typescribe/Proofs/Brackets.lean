import Typescribe.Proofs.Comments
/-!
# Brackets

Reading a text keeps a stack of the closing brackets that are due: an opening bracket adds its
closing one, and a closing bracket must be the one on top. A text is well nested if nothing is
due before and after it. `Shifts` says what a piece of text does to the top of the stack, whatever
lies below, so that it composes along a text; `Balanced` pieces leave the stack as it is.
-/
set_option autoImplicit false

namespace Typescribe

def closing? : Char → Option Char
  | '(' => some ')'
  | '[' => some ']'
  | '\x7b' => some '\x7d'
  | _ => none

def brackets : List Char := ['(', ')', '[', ']', '\x7b', '\x7d']

def isBracket (letter : Char) : Bool := brackets.contains letter

/-- A closing bracket that is not the one due first is an error. -/
def owe (stack : List Char) (letter : Char) : Option (List Char) :=
  match closing? letter with
  | some closing => some (closing :: stack)
  | none =>
    if isBracket letter then
      match stack with
      | top :: below => if letter = top then some below else none
      | [] => none
    else some stack

/-- The closing brackets that are due after a text. -/
def due (stack : List Char) : List Char → Option (List Char)
  | [] => some stack
  | letter :: rest => (owe stack letter).bind fun next => due next rest

/-- Every bracket that opens is closed by its own kind, in the order of a stack. -/
def WellNested (text : String) : Prop := due [] text.toList = some []

def BracketFree (text : String) : Prop := ∀ letter ∈ text.toList, isBracket letter = false

/-- A text takes `before` from the top of the stack and leaves `after` there. -/
def Shifts (before after : List Char) (text : String) : Prop :=
  ∀ stack, due (before ++ stack) text.toList = some (after ++ stack)

/-- The text leaves every stack as it is. -/
def Balanced (text : String) : Prop := Shifts [] [] text

instance : DecidablePred BracketFree := fun _ => List.decidableBAll _ _

instance : DecidablePred WellNested := fun text =>
  inferInstanceAs (Decidable (due [] text.toList = some []))

example : WellNested "f(a[0], \x7b\x7d)" ∧ ¬WellNested "([)]" := by decide

/-! ## Stacks -/

theorem due_append (stack first second : List Char) :
    due stack (first ++ second) = (due stack first).bind fun next => due next second := by
  induction first generalizing stack with
  | nil => rfl
  | cons letter first ih =>
    rw [List.cons_append, due, due]
    cases owe stack letter with
    | none => rfl
    | some next => exact ih next

theorem owe_of_not_bracket {letter : Char} (plain : isBracket letter = false)
    (stack : List Char) : owe stack letter = some stack := by
  have opensNothing : closing? letter = none := by
    unfold closing?
    split <;> simp_all [isBracket, brackets]
  simp [owe, opensNothing, plain]

theorem plain_of_class {kind : Char → Bool} (noBracket : brackets.any kind = false)
    {letter : Char} (inKind : kind letter = true) : isBracket letter = false := by
  refine Bool.eq_false_iff.mpr fun isOne => ?_
  exact List.any_eq_false.mp noBracket letter (List.contains_iff_mem.mp isOne) inKind

theorem due_filter (stack text : List Char) :
    due stack (text.filter isBracket) = due stack text := by
  induction text generalizing stack with
  | nil => rfl
  | cons letter rest ih =>
    cases plain : isBracket letter with
    | true =>
      rw [List.filter_cons_of_pos plain, due, due]
      simp only [ih]
    | false =>
      rw [List.filter_cons_of_neg (by simp [plain]), ih, due, owe_of_not_bracket plain]
      rfl

theorem due_of_plain {text : List Char} (plain : ∀ letter ∈ text, isBracket letter = false)
    (stack : List Char) : due stack text = some stack := by
  have noBrackets : text.filter isBracket = [] :=
    List.filter_eq_nil_iff.mpr fun letter member => by simp [plain letter member]
  rw [← due_filter, noBrackets, due]

/-! ## Shifts -/

namespace Shifts

variable {before middle after : List Char}

theorem append {first second : String} (leading : Shifts before middle first)
    (trailing : Shifts middle after second) : Shifts before after (first ++ second) := by
  intro stack
  rw [String.toList_append, due_append, leading stack, Option.bind_some, trailing stack]

end Shifts

theorem WellNested.of_balanced {text : String} (balanced : Balanced text) : WellNested text :=
  balanced []

/-! ## Balanced texts -/

namespace Balanced

theorem of_bracketFree {text : String} (free : BracketFree text) : Balanced text :=
  due_of_plain free

theorem empty : Balanced "" := fun _ => rfl

theorem append {first second : String} (leading : Balanced first) (trailing : Balanced second) :
    Balanced (first ++ second) :=
  Shifts.append leading trailing

theorem shifts {text : String} (balanced : Balanced text) (stack : List Char) :
    Shifts stack stack text :=
  fun rest => balanced (stack ++ rest)

theorem between {owed : List Char} {opening inside ending : String}
    (opens : Shifts [] owed opening) (balanced : Balanced inside)
    (closes : Shifts owed [] ending) : Balanced (opening ++ inside ++ ending) :=
  (opens.append (balanced.shifts owed)).append closes

theorem emptyList : Balanced "[]" := fun _ => rfl

end Balanced

/-! ## Doc comments -/

theorem filter_margin {margin : String} (isMargin : IsMargin margin) :
    margin.toList.filter isBracket = [] := by
  refine List.filter_eq_nil_iff.mpr fun letter member => ?_
  rcases isMargin letter member with rfl | rfl <;> decide

theorem Balanced.margin {margin : String} (isMargin : IsMargin margin) : Balanced margin := by
  intro stack
  rw [← due_filter, filter_margin isMargin]
  rfl

theorem filter_linesText {margin : String} (isMargin : IsMargin margin) (contents : List String) :
    (linesText margin contents).toList.filter isBracket =
      (contents.flatMap String.toList).filter isBracket := by
  induction contents with
  | nil => rfl
  | cons content contents ih =>
    have lineBreak : "\n".toList.filter isBracket = [] := rfl
    simp only [linesText, lineText, String.toList_append, List.filter_append, List.flatMap_cons,
      filter_margin isMargin, lineBreak, ih, List.nil_append, List.append_nil]

theorem filter_guarded (text : List Char) :
    (Docs.guarded text).filter isBracket = text.filter isBracket := by
  fun_induction Docs.guarded text with
  | case1 rest ih => simpa [isBracket, brackets] using ih
  | case2 letter rest notHere ih => rw [List.filter_cons, List.filter_cons, ih]
  | case3 => rfl

theorem filter_laidOut (width : Nat) (text : List Char) :
    (Docs.laidOut width text).flatten.filter isBracket = text.filter isBracket := by
  have blanks : ∀ letter, Text.isBlank letter = true → isBracket letter = false :=
    fun _ => plain_of_class (by decide)
  rw [Docs.laidOut]
  split
  · exact Text.filter_flatten_wrapped blanks width text
  · simp

theorem filter_shown (width : Nat) (line : String) :
    ((Docs.shown width line).flatMap String.toList).filter isBracket =
      line.toList.filter isBracket := by
  have marked (parts : List (List Char)) :
      ((parts.map fun part => "* " ++ String.ofList part).flatMap String.toList).filter isBracket =
        parts.flatten.filter isBracket := by
    induction parts with
    | nil => rfl
    | cons part parts ih =>
      simp only [List.map_cons, List.flatMap_cons, List.filter_append, String.toList_append,
        String.toList_ofList, List.flatten_cons, ih]
      rfl
  have sameBrackets := filter_guarded line.toList
  rw [Docs.shown]
  split
  · next noText =>
    rw [← sameBrackets, noText]
    rfl
  · rw [marked, filter_laidOut, sameBrackets]

/-- Neither the guard nor the wrapping of a doc comment loses a bracket. -/
theorem filter_docText {margin : String} (isMargin : IsMargin margin) (width : UInt64)
    (contents : List String) : (docText margin width contents).toList.filter isBracket =
      (contents.flatMap String.toList).filter isBracket := by
  have shown :
      ((contents.flatMap (Docs.shown width.toNat)).flatMap String.toList).filter isBracket =
        (contents.flatMap String.toList).filter isBracket := by
    induction contents with
    | nil => rfl
    | cons content contents ih =>
      simp only [List.flatMap_cons, List.flatMap_append, List.filter_append, ih, filter_shown]
  rw [docText, filter_linesText isMargin, Docs.block]
  cases contents with
  | nil => rfl
  | cons content contents =>
    rw [if_neg (by simp), List.flatMap_cons, List.flatMap_append, List.filter_append,
      List.filter_append, shown]
    simp [isBracket, brackets]

theorem due_flatMap_toList {contents : List String}
    (balanced : ∀ content ∈ contents, Balanced content) (stack : List Char) :
    due stack (contents.flatMap String.toList) = some stack := by
  induction contents with
  | nil => rfl
  | cons content contents ih =>
    have first : due stack content.toList = some stack := balanced content (by simp) stack
    rw [List.flatMap_cons, due_append, first, Option.bind_some,
      ih fun other member => balanced other (by simp [member])]

theorem Shifts.lineText {before after : List Char} {margin content : String}
    (isMargin : IsMargin margin) (shifts : Shifts before after content) :
    Shifts before after (lineText margin content) := by
  have lineBreak : Balanced "\n" := .of_bracketFree (by decide)
  exact (((Balanced.margin isMargin).shifts before).append shifts).append (lineBreak.shifts after)

namespace Balanced

variable {margin : String} {contents : List String}

theorem linesText (isMargin : IsMargin margin)
    (balanced : ∀ content ∈ contents, Balanced content) :
    Balanced (linesText margin contents) := by
  intro stack
  rw [List.nil_append, ← due_filter, filter_linesText isMargin, due_filter,
    due_flatMap_toList balanced]

theorem docText (isMargin : IsMargin margin) (width : UInt64)
    (balanced : ∀ content ∈ contents, Balanced content) :
    Balanced (docText margin width contents) := by
  intro stack
  rw [List.nil_append, ← due_filter, filter_docText isMargin, due_filter,
    due_flatMap_toList balanced]

end Balanced

end Typescribe
