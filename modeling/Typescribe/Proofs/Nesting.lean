import Typescribe.Proofs.LineRules
/-!
# Output is well nested

If no supplied text holds a bracket, whatever a program of steps writes is a well-nested text:
the brackets that a writer opens it closes again, in reverse order, on every path.
-/
set_option autoImplicit false

namespace Typescribe

/-- A change writes a text that takes `before` from the stack and leaves `after`, as long as the
naming of types makes no brackets. -/
def Nests (before after : List Char) (change : Writer → Writer) : Prop :=
  ∀ writer : Writer, BracketFreeNames writer.builder.resolver →
    BracketFreeNames (change writer).builder.resolver ∧
      ∃ added, (change writer).text = writer.text ++ added ∧ Shifts before after added

theorem Writer.isMargin_margin (writer : Writer) : IsMargin writer.margin :=
  isMargin_copies _ _

namespace Nests

variable {before middle after : List Char}

theorem ofWrite {change : Writer → Writer} (piece : Writer → String)
    (writes : ∀ writer, change writer = writer.write (piece writer))
    (shifts : ∀ writer, Shifts before after (piece writer)) : Nests before after change := by
  intro writer names
  rw [writes]
  exact ⟨names, piece writer, rfl, shifts writer⟩

theorem ofQuiet {change : Writer → Writer} (quiet : ∀ writer, (change writer).text = writer.text)
    (keeps : ∀ writer, (change writer).builder.resolver = writer.builder.resolver) :
    Nests [] [] change := by
  intro writer names
  refine ⟨by rwa [keeps], "", ?_, Balanced.empty⟩
  rw [quiet, String.append_empty]

theorem same : Nests [] [] fun writer => writer :=
  ofQuiet (fun _ => rfl) fun _ => rfl

theorem andThen {first second : Writer → Writer} (leading : Nests before middle first)
    (trailing : Nests middle after second) :
    Nests before after fun writer => second (first writer) := by
  intro writer names
  obtain ⟨firstNames, firstAdded, firstText, firstShifts⟩ := leading writer names
  obtain ⟨secondNames, secondAdded, secondText, secondShifts⟩ := trailing _ firstNames
  refine ⟨secondNames, firstAdded ++ secondAdded, ?_, firstShifts.append secondShifts⟩
  rw [secondText, firstText, String.append_assoc]

theorem above {change : Writer → Writer} (nests : Nests [] [] change) (owed : List Char) :
    Nests owed owed change := by
  intro writer names
  obtain ⟨kept, added, text, balanced⟩ := nests writer names
  exact ⟨kept, added, text, Balanced.shifts balanced owed⟩

theorem write {piece : String} (shifts : Shifts before after piece) :
    Nests before after (Writer.write piece) :=
  ofWrite (fun _ => piece) (fun _ => rfl) fun _ => shifts

theorem startLine : Nests [] [] Writer.startLine :=
  ofWrite _ Writer.startLine_eq_write fun writer => Balanced.margin writer.isMargin_margin

theorem endLine {piece : String} (shifts : Shifts before after piece) :
    Nests before after (Writer.endLine piece) :=
  have lineBreak : Balanced "\n" := .of_bracketFree (by decide)
  ofWrite _ (Writer.endLine_eq_write piece) fun _ => shifts.append (lineBreak.shifts after)

theorem line {content : String} (shifts : Shifts before after content) :
    Nests before after (Writer.line content) :=
  ofWrite _ (Writer.line_eq_write content) fun writer => shifts.lineText writer.isMargin_margin

theorem docLines {contents : List String} (balanced : ∀ content ∈ contents, Balanced content) :
    Nests [] [] (Writer.docLines contents) :=
  ofWrite _ (Writer.docLines_eq_write contents) fun writer =>
    Balanced.docText writer.isMargin_margin _ balanced

/-! ## Scopes and decorators -/

theorem nested {contents : Writer → Writer} (inside : Nests [] [] contents) :
    Nests [] [] (Writer.nested contents) := by
  intro writer names
  exact inside (writer.setLevel (writer.level + 1)) names

theorem enclosed {β : Type} {closing : String} (closes : Shifts before [] closing)
    {contents : Writer → β × Writer} (inside : Nests [] [] fun writer => (contents writer).2) :
    Nests before [] fun writer => (writer.enclosed closing contents).2 :=
  ((nested inside).above before).andThen (line closes)

theorem decorator {decorator : Decorator Callback}
    (balanced : ∀ text ∈ decorator.texts, Balanced text)
    (callbacks : decorator.EachCallback (Nests [] [])) :
    Nests [] [] (Writer.decorator decorator) := by
  simp only [Decorator.texts, List.forall_mem_cons] at balanced
  obtain ⟨name, literal⟩ := balanced
  have mark : Balanced "@" := .of_bracketFree (by decide)
  have named : Nests [] [] fun writer => (writer.write "@").write decorator.name :=
    (write mark).andThen (write name)
  have opens : Nests [] [')'] (Writer.write "(") := write fun _ => rfl
  have closes : Nests [')'] [] (Writer.write ")") := write fun _ => rfl
  unfold Writer.decorator
  cases parentheses : decorator.hasParentheses with
  | false => simpa only [Bool.false_eq_true, if_false] using named
  | true =>
    have arguments : Nests [] [] (Writer.arguments decorator.arguments) := by
      cases given : decorator.arguments with
      | none => exact same
      | some arguments =>
        cases arguments with
        | text content => exact write (literal content (by simp [given]))
        | callback run => exact callbacks run given
    simpa only [if_true] using
      ((named.andThen opens).andThen (arguments.above [')'])).andThen closes

theorem decoratorLines {decorators : List (Decorator Callback)}
    (balanced : ∀ text ∈ decorators.flatMap Decorator.texts, Balanced text)
    (callbacks : ∀ decorator ∈ decorators, decorator.EachCallback (Nests [] [])) :
    Nests [] [] (Writer.decoratorLines decorators) := by
  induction decorators with
  | nil => exact same
  | cons head rest ih =>
    rw [List.flatMap_cons, List.forall_mem_append] at balanced
    have headNests := (startLine.andThen (decorator balanced.1 (callbacks head (by simp)))).andThen
      (endLine Balanced.empty)
    exact headNests.andThen (ih balanced.2 fun next member => callbacks next (by simp [member]))

theorem decoratorPieces {decorators : List (Decorator Callback)}
    (balanced : ∀ text ∈ decorators.flatMap Decorator.texts, Balanced text)
    (callbacks : ∀ decorator ∈ decorators, decorator.EachCallback (Nests [] [])) :
    Nests [] [] (Writer.decoratorPieces decorators) := by
  have blank : Balanced " " := .of_bracketFree (by decide)
  induction decorators with
  | nil => exact same
  | cons head rest ih =>
    rw [List.flatMap_cons, List.forall_mem_append] at balanced
    have headNests := (decorator balanced.1 (callbacks head (by simp))).andThen (write blank)
    exact headNests.andThen (ih balanced.2 fun next member => callbacks next (by simp [member]))

/-! ## Whole lines -/

theorem signature {definition : FunctionDefinition}
    (balanced : ∀ text ∈ definition.texts, Balanced text) :
    Nests [] [] (Writer.signature definition) := by
  refine ofWrite _ (Writer.signature_eq_write definition) fun writer => ?_
  have comment := Balanced.docText writer.isMargin_margin writer.commentWidth
    (Balanced.rules.functionLines balanced)
  exact comment.append (FunctionDefinition.balanced_signatureText balanced writer.isMargin_margin
    (Writer.isMargin_margin _))

theorem lineRules : LineRules Balanced (Nests [] []) (Nests [] []) where
  texts := Balanced.rules
  same := same
  andThen := andThen
  line := line
  docLines := docLines
  block content frame inside := by
    obtain ⟨owed, opens, closes⟩ := frame.pairs
    exact (line (Shifts.append content opens)).andThen (enclosed closes inside)
  decoratorLines := decoratorLines
  decoratedLine decorated callbacks content :=
    (startLine.andThen (decoratorPieces decorated callbacks)).andThen (endLine content)
  signature balanced ending := (signature balanced).andThen (endLine ending)
  signatureBlock balanced frame inside := by
    obtain ⟨owed, opens, closes⟩ := frame.pairs
    exact ((signature balanced).andThen (endLine opens)).andThen (enclosed closes inside)

/-! ## Model elements -/

theorem noting {α : Type} (outcome : Outcome α) : Nests [] [] (Writer.noting outcome) :=
  ofQuiet (fun _ => rfl) fun _ => rfl

theorem writeClass {β : Type} {element : Class} {decorators : List (Decorator Callback)}
    {options : ClassOptions} {contents : Writer → β × Writer}
    (free : ∀ text ∈ element.texts ++ decorators.flatMap Decorator.texts ++ options.parents
      ++ options.contracts, BracketFree text)
    (callbacks : ∀ decorator ∈ decorators, decorator.EachCallback (Nests [] []))
    (inside : Nests [] [] fun writer => (contents writer).2) :
    Nests [] [] fun writer => (writer.writeClass element decorators options contents).2 := by
  intro writer names
  have noted := noting (writer.builder.resolver.classDefinition element decorators options)
  simp only [Writer.writeClass]
  cases built : (writer.builder.resolver.classDefinition element decorators options).result with
  | error failure => exact noted writer names
  | ok definition =>
    have kept : definition.decorators = decorators := Resolver.decorators_of_class built
    have texts := Resolver.bracketFree_of_class names free built
    exact noted.andThen (lineRules.classBlock
      (fun text member => .of_bracketFree (texts text member)) (by rwa [kept]) inside) writer names

theorem writeInterface {β : Type} {element : Interface} {options : InterfaceOptions}
    {contents : Writer → β × Writer}
    (free : ∀ text ∈ element.texts ++ options.parents, BracketFree text)
    (inside : Nests [] [] fun writer => (contents writer).2) :
    Nests [] [] fun writer => (writer.writeInterface element options contents).2 := by
  intro writer names
  have noted := noting (writer.builder.resolver.interfaceDefinition element options)
  simp only [Writer.writeInterface]
  cases built : (writer.builder.resolver.interfaceDefinition element options).result with
  | error failure => exact noted writer names
  | ok definition =>
    have texts := Resolver.bracketFree_of_interface names free built
    exact noted.andThen (lineRules.interfaceBlock
      (fun text member => .of_bracketFree (texts text member)) inside) writer names

theorem writeEnumeration {element : Enumeration} {options : EnumOptions}
    (free : ∀ text ∈ element.texts, BracketFree text) :
    Nests [] [] fun writer => (writer.writeEnumeration element options).2 := by
  have noted := noting (Resolver.enumDefinition element options)
  simp only [Writer.writeEnumeration]
  cases built : (Resolver.enumDefinition element options).result with
  | error failure => exact noted
  | ok definition =>
    have texts := Resolver.bracketFree_of_enum free built
    exact noted.andThen (lineRules.enum fun text member => .of_bracketFree (texts text member))

theorem writeProperty {element : Property} {decorators : List (Decorator Callback)}
    {options : PropertyOptions}
    (free : ∀ text ∈ element.texts ++ decorators.flatMap Decorator.texts, BracketFree text)
    (callbacks : ∀ decorator ∈ decorators, decorator.EachCallback (Nests [] [])) :
    Nests [] [] fun writer => (writer.writeProperty element decorators options).2 := by
  intro writer names
  simp only [Writer.writeProperty]
  cases built : writer.builder.resolver.propertyDefinition element decorators options with
  | error failure => exact same writer names
  | ok definition =>
    have kept : definition.decorators = decorators := Resolver.decorators_of_property built
    have texts := Resolver.balanced_of_property names free built
    exact lineRules.property texts (by rwa [kept]) writer names

theorem writeFunction {β : Type} {element : Operation} {options : FunctionOptions}
    {contents : Writer → β × Writer} (free : ∀ text ∈ element.texts, BracketFree text)
    (inside : Nests [] [] fun writer => (contents writer).2) :
    Nests [] [] fun writer => (writer.writeFunction element options contents).2 := by
  intro writer names
  simp only [Writer.writeFunction]
  cases built : writer.builder.resolver.functionDefinition element options with
  | error failure => exact same writer names
  | ok definition =>
    have texts := Resolver.bracketFree_of_function names free built
    exact lineRules.functionBlock (fun text member => .of_bracketFree (texts text member)) inside
      writer names

end Nests

/-! ## Programs -/

namespace Nests

theorem perform (step : Step) (free : ∀ text ∈ step.texts, BracketFree text)
    (inside : ∀ program ∈ step.subprograms, Nests [] [] (Step.run program)) :
    Nests [] [] fun writer => (step.perform writer).writer := by
  have balanced : ∀ text ∈ step.texts, Balanced text := fun text member =>
    .of_bracketFree (free text member)
  have imports : ∀ line ∈ step.importLine?, Balanced line :=
    Balanced.rules.importLine (List.subset_cons_self _ _)
      (fun avoids => .of_bracketFree (bracketFree_iff_avoids.mpr avoids))
      fun text member => bracketFree_iff_avoids.mp (free text member)
  have contents (program : Program) (isContents : step.contents? = some program) :
      Nests [] [] (Step.run program) :=
    inside program (List.mem_append_left _ (Option.mem_toList.mpr isContents))
  have callbacks : ∀ decorator ∈ Step.callbacks step.decorators,
      decorator.EachCallback (Nests [] []) :=
    Step.eachCallback fun program isCallback =>
      inside program (List.mem_append_right _ isCallback)
  cases writes : step.writesLines with
  | true => exact lineRules.perform writes balanced imports contents callbacks
  | false =>
    cases step <;> try (cases writes; done)
    all_goals simp only [Step.perform, Performed.writer_ofWriter, Performed.writer_ofWrite]
    case blankLine =>
      have lineBreak : Balanced "\n" := .of_bracketFree (by decide)
      exact write lineBreak
    case write piece => exact write (balanced piece (by simp [Step.texts]))
    case startLine => exact startLine
    case endLine piece => exact endLine (balanced piece (by simp [Step.texts]))
    case deeper => exact ofQuiet (fun _ => rfl) fun _ => rfl
    case shallower => exact ofQuiet (fun _ => rfl) fun _ => rfl
    case commentWidth => exact same
    case setCommentWidth width => exact ofQuiet (fun _ => rfl) fun _ => rfl
    case elementTypeName type => exact same
    case writeClass element decorators options program =>
      refine writeClass ?_ callbacks (contents program rfl)
      rw [Step.texts_callbacks]
      exact free
    case writeInterface element options program =>
      exact writeInterface free (contents program rfl)
    case writeEnumeration element options => exact writeEnumeration free
    case writeProperty element decorators options =>
      refine writeProperty ?_ callbacks
      rw [Step.texts_callbacks]
      exact free
    case writeFunction element options program =>
      exact writeFunction free (contents program rfl)
    case dropDiagnostics => exact ofQuiet (fun _ => rfl) fun _ => rfl
    case build request => exact ofQuiet (fun _ => rfl) fun _ => request.resolver_run _

theorem run {program : Program}
    (free : program.Everywhere fun step => ∀ text ∈ step.texts, BracketFree text) :
    Nests [] [] (Step.run program) := by
  induction free with
  | nil =>
    rw [Step.run_nil]
    exact same
  | cons head inside tail insideNests tailNests =>
    rw [Step.run_cons]
    exact (perform _ head insideNests).andThen tailNests

end Nests

/-- If neither the texts of a program, at any depth, nor the naming of types hold brackets, what the
program adds is well nested. -/
theorem output_is_well_nested (program : Program) (writer : Writer)
    (supplied : program.Everywhere fun step => ∀ text ∈ step.texts, BracketFree text)
    (names : BracketFreeNames writer.builder.resolver) :
    ∃ added, (Step.run program writer).text = writer.text ++ added ∧ WellNested added := by
  obtain ⟨-, added, text, balanced⟩ := Nests.run supplied writer names
  exact ⟨added, text, .of_balanced balanced⟩

theorem decorated_class_is_well_nested :
    let program : Program := [.classBlock
      (some {
        name := "A"
        decorators := [{ name := "D", arguments := some (.callback [.write "x"]) }] })
      [.writeProperty { name := "b", multiplicity := .oneOrMore } [] { initializeArray := true }]]
    (Step.run program {}).text = "@D(x)\nclass A \x7b\n  b: any[] = [];\n\x7d\n" ∧
      ∃ added, (Step.run program {}).text = "" ++ added ∧ WellNested added := by
  refine ⟨by decide, output_is_well_nested _ _ ?_ (bracketFreeNames_typescript (by decide))⟩
  have nothingInside {step : Step} (bare : step.subprograms = []) : ∀ program ∈ step.subprograms,
      program.Everywhere fun inner => ∀ text ∈ inner.texts, BracketFree text := by
    simp [bare]
  have free {step : Step} (all : (step.texts.all fun text => decide (BracketFree text)) = true) :
      ∀ text ∈ step.texts, BracketFree text := fun text member =>
    of_decide_eq_true (List.all_eq_true.mp all text member)
  refine .cons (free (by decide)) (List.forall_mem_cons.mpr ⟨?contents, ?callback⟩) .nil
  case contents => exact .cons (free (by decide)) (nothingInside rfl) .nil
  case callback =>
    exact List.forall_mem_singleton.mpr (.cons (free (by decide)) (nothingInside rfl) .nil)

end Typescribe
