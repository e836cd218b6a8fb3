import Typescribe.Proofs.Ledgers
/-!
# Runs and their books

A step is booked before its callbacks run, and its contents run on what is pending then. So every
run of a program does to the warnings what the books of its calls say, and the takes among its
calls are answered what the books hand out.
-/
set_option autoImplicit false

namespace Typescribe

/-! ## Steps -/

namespace Writer

variable (writer : Writer)

@[simp] theorem builder_docLines (contents : List String) :
    (writer.docLines contents).builder = writer.builder := by
  rw [docLines_eq_write]
  rfl

@[simp] theorem builder_docParagraphs (paragraphs : List String) :
    (writer.docParagraphs paragraphs).builder = writer.builder :=
  writer.builder_docLines _

@[simp] theorem builder_line? (content : Option String) :
    (writer.line? content).builder = writer.builder := by
  cases content <;> rfl

@[simp] theorem builder_enum (definition : EnumDefinition) :
    (writer.enum definition).builder = writer.builder := by
  rw [enum_eq_write]
  rfl

@[simp] theorem builder_signature (definition : FunctionDefinition) :
    (writer.signature definition).builder = writer.builder := by
  rw [signature_eq_write]
  rfl

end Writer

namespace Ledger

variable {ledger : Ledger} {writer : Writer} {step : Step}

theorem call_of_silent (keeps : step.takesWarnings = false) (silent : step.warnings = []) :
    ledger.call step = ledger := by
  rw [call_of_keeps keeps, silent, List.append_nil]

theorem matches_silent (step : Step) (keeps : step.takesWarnings = false)
    (silent : step.warnings = []) (agrees : ledger.Matches writer) :
    (ledger.call step).Matches writer := by
  rw [call_of_silent keeps silent]
  exact agrees

theorem matches_docParagraphs (agrees : ledger.Matches writer) (paragraphs : List String) :
    ledger.Matches (writer.docParagraphs paragraphs) := by
  rw [Matches, Writer.builder_docParagraphs]
  exact agrees

theorem matches_noting {α : Type} {outcome : Outcome α} (step : Step)
    (keeps : step.takesWarnings = false) (collects : outcome.warnings = step.warnings)
    (agrees : ledger.Matches writer) :
    (ledger.call step).Matches (writer.noting outcome) := by
  rw [call_of_keeps keeps, Matches, ← collects, agrees]
  rfl

end Ledger

/-- How a step ends once it is booked and its callbacks have run: contents start with what is
pending then, and what is behind them leaves the warnings alone. -/
inductive Finishes (ledger : Ledger) : Option Program → Performed → Prop
  | bare {performed : Performed} (contents : performed.contents = none)
      (agrees : ledger.Matches performed.writer) : Finishes ledger none performed
  | enclosing {body : Program} {performed : Performed} (entered : Writer)
      (agrees : ledger.Matches entered)
      (contents : performed.contents = some (Step.runAll body entered).1)
      (after : performed.writer.builder = (Step.run body entered).builder) :
      Finishes ledger (some body) performed

namespace Finishes

variable {ledger : Ledger} {writer : Writer}

theorem enclosed (closing : String) (body : Program) (agrees : ledger.Matches writer) :
    Finishes ledger (some body) (.ofContents (writer.enclosed closing (Step.runAll body))) :=
  .enclosing (writer.setLevel (writer.level + 1)) agrees rfl rfl

theorem classBlock {definition : ClassDefinition Callback} {decorators : List (Decorator Program)}
    (decorated : definition.decorators = Step.callbacks decorators)
    (callbacks : ∀ program ∈ callbackPrograms decorators,
      Follows program.calls (Step.run program))
    (body : Program) (agrees : ledger.Matches writer) :
    Finishes (ledger.callAll ((callbackPrograms decorators).flatMap Program.calls)) (some body)
      (.ofContents (writer.classBlock definition (Step.runAll body))) := by
  have documented := Ledger.matches_docParagraphs agrees definition.description
  have lines := Follows.decoratorLines callbacks ledger _ documented
  rw [← decorated] at lines
  exact enclosed _ body lines

theorem property {definition : PropertyDefinition Callback}
    {decorators : List (Decorator Program)}
    (decorated : definition.decorators = Step.callbacks decorators)
    (callbacks : ∀ program ∈ callbackPrograms decorators,
      Follows program.calls (Step.run program)) (agrees : ledger.Matches writer) :
    (ledger.callAll ((callbackPrograms decorators).flatMap Program.calls)).Matches
      (writer.property definition) := by
  have started : ledger.Matches (writer.docParagraphs definition.description).startLine :=
    Ledger.matches_docParagraphs agrees definition.description
  have pieces := Follows.decoratorPieces callbacks ledger _ started
  rw [← decorated] at pieces
  exact pieces

theorem interfaceBlock (definition : InterfaceDefinition) (body : Program)
    (agrees : ledger.Matches writer) :
    Finishes ledger (some body)
      (.ofContents (writer.interfaceBlock definition (Step.runAll body))) :=
  enclosed _ body (Ledger.matches_docParagraphs agrees definition.description)

theorem functionBlock (definition : FunctionDefinition) (body : Program)
    (agrees : ledger.Matches writer) :
    Finishes ledger (if definition.isAbstract then none else some body)
      (.ofContents? (writer.functionBlock definition (Step.runAll body))) := by
  have signed (ending : String) :
      ledger.Matches ((writer.signature definition).endLine ending) := by
    change ledger.Matches (writer.signature definition)
    rw [Ledger.Matches, Writer.builder_signature]
    exact agrees
  unfold Writer.functionBlock
  cases abstract : definition.isAbstract with
  | true => exact .bare rfl (signed ";")
  | false =>
    have inner : ledger.Matches (((writer.signature definition).endLine " \x7b").setLevel
        (((writer.signature definition).endLine " \x7b").level + 1)) := signed " \x7b"
    exact .enclosing _ inner rfl rfl

end Finishes

namespace Step

variable {step : Step} {ledger : Ledger} {writer : Writer}

theorem idle_of_failure {failure : BuildFailure} (fails : step.failure? = some failure) :
    step.isIdle = true := by
  rw [isIdle, fails]
  rfl

variable (step ledger writer) in
/-- A step is booked with its callbacks before its contents run. -/
def Booked : Prop :=
  Finishes (ledger.callAll (step :: step.runningCallbacks.flatMap Program.calls))
    step.runningContents? (step.perform writer)

theorem booked_quiet (keeps : step.takesWarnings = false) (silent : step.warnings = [])
    (bare : step.runningCallbacks = []) (bodiless : step.runningContents? = none)
    (contents : (step.perform writer).contents = none)
    (same : (step.perform writer).writer.builder = writer.builder)
    (agrees : ledger.Matches writer) : step.Booked ledger writer := by
  rw [Booked, bare, bodiless, List.flatMap_nil, Ledger.callAll_cons,
    Ledger.call_of_silent keeps silent]
  refine .bare contents ?_
  rw [Ledger.Matches, same]
  exact agrees

theorem booked_writeClass (element : Class) {decorators : List (Decorator Program)}
    (options : ClassOptions) (contents : Program)
    (follow : ∀ program ∈ (writeClass element decorators options contents).runningCallbacks,
      Follows program.calls (run program))
    (agrees : ledger.Matches writer) :
    (writeClass element decorators options contents).Booked ledger writer := by
  have collects := writer.builder.resolver.warnings_class (callbacks decorators) element options
  have noted := Ledger.matches_noting (writeClass element decorators options contents) rfl
    collects agrees
  have fails : (writeClass element decorators options contents).failure? = _ :=
    (writer.builder.resolver.failure_class (callbacks decorators) element options).symm
  rw [Booked, perform, Writer.writeClass]
  cases built : (writer.builder.resolver.classDefinition element (callbacks decorators)
      options).result with
  | error failure =>
    rw [built] at fails
    rw [runningCallbacks, runningContents?, idle_of_failure fails]
    exact .bare rfl noted
  | ok definition =>
    rw [built] at fails
    have runs := isIdle_eq_false fails rfl
    rw [runningCallbacks, runs] at follow
    rw [runningCallbacks, runningContents?, runs]
    exact .classBlock (Resolver.decorators_of_class built) follow contents noted

theorem booked_writeInterface (element : Interface) (options : InterfaceOptions)
    (contents : Program) (agrees : ledger.Matches writer) :
    (writeInterface element options contents).Booked ledger writer := by
  have collects := writer.builder.resolver.warnings_interface element options
  have noted := Ledger.matches_noting (writeInterface element options contents) rfl collects
    agrees
  have fails : (writeInterface element options contents).failure? = _ :=
    (writer.builder.resolver.failure_interface element options).symm
  rw [Booked, perform, Writer.writeInterface, runningCallbacks_of_bare rfl]
  cases built : (writer.builder.resolver.interfaceDefinition element options).result with
  | error failure =>
    rw [built] at fails
    rw [runningContents?, idle_of_failure fails]
    exact .bare rfl noted
  | ok definition =>
    rw [built] at fails
    rw [runningContents?, isIdle_eq_false fails rfl]
    exact .interfaceBlock definition contents noted

theorem booked_writeEnumeration (element : Enumeration) (options : EnumOptions)
    (agrees : ledger.Matches writer) :
    (writeEnumeration element options).Booked ledger writer := by
  have collects := Resolver.warnings_enum element options
  have noted := Ledger.matches_noting (writeEnumeration element options) rfl collects agrees
  have bodiless : (writeEnumeration element options).runningContents? = none := ite_self _
  rw [Booked, perform, Writer.writeEnumeration, runningCallbacks_of_bare rfl, bodiless]
  cases (Resolver.enumDefinition element options).result with
  | error failure => exact .bare rfl noted
  | ok definition =>
    have same := (writer.noting (Resolver.enumDefinition element options)).builder_enum definition
    exact .bare rfl (noted.trans (congrArg Builder.pending same.symm))

theorem booked_writeProperty (element : Property) {decorators : List (Decorator Program)}
    (options : PropertyOptions)
    (follow : ∀ program ∈ (writeProperty element decorators options).runningCallbacks,
      Follows program.calls (run program))
    (agrees : ledger.Matches writer) :
    (writeProperty element decorators options).Booked ledger writer := by
  have silent := Ledger.matches_silent (writeProperty element decorators options) rfl rfl agrees
  have bodiless : (writeProperty element decorators options).runningContents? = none :=
    ite_self _
  have fails : (writeProperty element decorators options).failure? = _ :=
    (writer.builder.resolver.failure_property (callbacks decorators) element options).symm
  rw [Booked, perform, Writer.writeProperty, bodiless]
  cases built : writer.builder.resolver.propertyDefinition element (callbacks decorators)
      options with
  | error failure =>
    rw [built] at fails
    rw [runningCallbacks, idle_of_failure fails]
    exact .bare rfl silent
  | ok definition =>
    rw [built] at fails
    have runs := isIdle_eq_false fails rfl
    rw [runningCallbacks, runs] at follow
    rw [runningCallbacks, runs]
    exact .bare rfl (Finishes.property (Resolver.decorators_of_property built) follow silent)

theorem booked_writeFunction (element : Operation) (options : FunctionOptions)
    (contents : Program) (agrees : ledger.Matches writer) :
    (writeFunction element options contents).Booked ledger writer := by
  have silent := Ledger.matches_silent (writeFunction element options contents) rfl rfl agrees
  have fails : (writeFunction element options contents).failure? = _ :=
    (writer.builder.resolver.failure_function element options).symm
  rw [Booked, perform, Writer.writeFunction, runningCallbacks_of_bare rfl]
  cases built : writer.builder.resolver.functionDefinition element options with
  | error failure =>
    rw [built] at fails
    rw [runningContents?, idle_of_failure fails]
    exact .bare rfl silent
  | ok definition =>
    rw [built] at fails
    have idle : (writeFunction element options contents).isIdle = definition.isAbstract := by
      rw [isIdle, fails, isBodiless, ← Resolver.isAbstract_of_function built, Bool.not_not]
      rfl
    rw [runningContents?, idle]
    exact .functionBlock definition contents silent

theorem booked_build (request : BuildStep Program) (agrees : ledger.Matches writer) :
    (build request).Booked ledger writer := by
  have bodiless : (build request).runningContents? = none := ite_self _
  rw [Booked, perform, runningCallbacks_of_bare rfl, bodiless]
  refine .bare rfl ?_
  change (ledger.call (build request)).pending = (request.run writer.builder).2.pending
  cases takes : (build request).takesWarnings with
  | true =>
    cases request with
    | takeDiagnostics => rfl
    | _ => cases takes
  | false =>
    have left : request ≠ .takeDiagnostics := by
      rintro rfl
      cases takes
    rw [Ledger.call_of_keeps takes, BuildStep.pending_run left, ← agrees]
    rfl

theorem booked (step : Step)
    (follow : ∀ program ∈ step.runningCallbacks, Follows program.calls (run program))
    (agrees : ledger.Matches writer) : step.Booked ledger writer := by
  cases step with
  | commentWidth | elementTypeName =>
    refine booked_quiet rfl rfl rfl rfl ?_ ?_ agrees <;> rw [perform]
  | line | blankLine | write | startLine | endLine | deeper | shallower | setCommentWidth =>
    refine booked_quiet rfl rfl rfl rfl ?_ ?_ agrees <;> (rw [perform]; rfl)
  | namedImport | wholeImport | docParagraphs | docComments | docLines =>
    refine booked_quiet rfl rfl rfl rfl ?_ ?_ agrees
    · rw [perform]
      rfl
    · simp [perform]
  | enum definition | stringLiteralType definition | functionDeclaration definition
  | variableDeclaration definition =>
    refine booked_quiet rfl rfl rfl rfl ?_ ?_ agrees
    · rw [perform]
      rfl
    · rw [perform, Performed.writer_ofWriter]
      cases definition with
      | none => rfl
      | some definition =>
        first
        | exact writer.builder_enum definition
        | exact writer.builder_docParagraphs definition.description
        | exact writer.builder_signature definition
  | codeBlock contents =>
    have silent := Ledger.matches_silent (codeBlock contents) rfl rfl agrees
    rw [Booked, perform]
    exact .enclosed _ contents silent
  | decoratorBlock name contents =>
    have silent := Ledger.matches_silent (decoratorBlock name contents) rfl rfl agrees
    rw [Booked, perform]
    exact .enclosed _ contents silent
  | classBlock definition contents =>
    have silent := Ledger.matches_silent (classBlock definition contents) rfl rfl agrees
    cases definition with
    | none =>
      rw [Booked, perform]
      exact .bare rfl silent
    | some definition =>
      rw [Booked, perform]
      exact .classBlock (decorators_classCallbacks definition) follow contents silent
  | interfaceBlock definition contents =>
    have silent := Ledger.matches_silent (interfaceBlock definition contents) rfl rfl agrees
    cases definition with
    | none =>
      rw [Booked, perform]
      exact .bare rfl silent
    | some definition =>
      rw [Booked, perform]
      exact .interfaceBlock definition contents silent
  | functionBlock definition contents =>
    have silent := Ledger.matches_silent (functionBlock definition contents) rfl rfl agrees
    rw [Booked, runningCallbacks_of_bare rfl]
    cases definition with
    | none =>
      rw [perform]
      exact .bare rfl silent
    | some definition =>
      rw [perform]
      exact .functionBlock definition contents silent
  | property definition =>
    have silent := Ledger.matches_silent (property definition) rfl rfl agrees
    cases definition with
    | none =>
      rw [Booked, perform]
      exact .bare rfl silent
    | some definition =>
      rw [Booked, perform]
      exact .bare rfl (Finishes.property (decorators_propertyCallbacks definition) follow silent)
  | writeClass element decorators options contents =>
    exact booked_writeClass element options contents follow agrees
  | writeInterface element options contents =>
    exact booked_writeInterface element options contents agrees
  | writeEnumeration element options => exact booked_writeEnumeration element options agrees
  | writeProperty element decorators options =>
    exact booked_writeProperty element options follow agrees
  | writeFunction element options contents =>
    exact booked_writeFunction element options contents agrees
  | dropDiagnostics =>
    rw [Booked, perform]
    exact .bare rfl rfl
  | build request => exact booked_build request agrees

end Step

/-! ## Runs -/

theorem Finishes.follows {ledger : Ledger} {body? : Option Program} {performed : Performed}
    (finishes : Finishes ledger body? performed)
    (body : ∀ program, body? = some program → Follows program.calls (Step.run program)) :
    (ledger.callAll (body?.toList.flatMap Program.calls)).Matches performed.writer := by
  cases finishes with
  | bare contents agrees => exact agrees
  | enclosing entered agrees contents after =>
    have ran := body _ rfl ledger entered agrees
    rw [Ledger.Matches, after, ← ran]
    simp

theorem Program.calls_inOrder (step : Step) :
    step :: step.inOrder.flatMap calls =
      (step :: step.runningCallbacks.flatMap calls)
        ++ step.runningContents?.toList.flatMap calls := by
  rw [Step.inOrder, List.flatMap_append, List.cons_append]

/-- The books of a run start with what is pending on the writer. -/
def Ledger.ofRun (program : Program) (writer : Writer) : Ledger :=
  ({ pending := writer.builder.pending } : Ledger).callAll program.calls

/-- What the books say is pending after a run is pending on its writer. -/
theorem Follows.run (program : Program) : Follows program.calls (Step.run program) := by
  induction Program.everywhere (fun _ => trivial) program with
  | nil =>
    rw [Step.run_nil, Program.calls_nil]
    exact quiet fun _ => rfl
  | @cons step rest head inside tail insideFollows restFollows =>
    have runs (program : Program) (isInner : program ∈ step.inOrder) :
        Follows program.calls (Step.run program) :=
      insideFollows program (Step.mem_subprograms_of_inOrder isInner)
    rw [Program.calls_cons, Step.run_cons]
    refine andThen (fun ledger writer agrees => ?_) restFollows
    rw [Program.calls_inOrder, Ledger.callAll_append]
    have booked : step.Booked ledger writer := step.booked (fun program isCallback =>
      runs program (List.mem_append_left _ isCallback)) agrees
    exact Finishes.follows booked fun program isContents => runs program
      (List.mem_append_right _ (Option.mem_toList.mpr isContents))

namespace Ledger

variable (program : Program) (writer : Writer)

theorem pending_ofRun :
    (ofRun program writer).pending = (Step.run program writer).builder.pending :=
  Follows.run program _ writer rfl

/-- Nothing is lost, doubled or put out of its place in a run. -/
theorem all_ofRun : (ofRun program writer).handedOut ++ (Step.run program writer).builder.pending =
    writer.builder.pending ++ program.calls.flatMap Step.warnings := by
  rw [← pending_ofRun, ofRun, all_callAll]
  rfl

end Ledger

/-! ## Answers -/

def BuildStep.taken {κ : Type} : BuildStep κ → BuildAnswer κ → List Diagnostic
  | .takeDiagnostics, .diagnostics list => list
  | _, _ => []

def Step.taken : Step → StepResult → List Diagnostic
  | .build request, .answered answer => request.taken answer
  | _, _ => []

/-- What the takes of a program were answered, those of its contents included. -/
def Program.taken : Program → List Answer → List Diagnostic
  | [], _ | _ :: _, [] => []
  | step :: rest, answer :: answers =>
    step.taken answer.result
      ++ (match _given : step.contents?, answer.contents with
        | some contents, some inner => Program.taken contents inner
        | _, _ => [])
      ++ Program.taken rest answers
termination_by program => sizeOf program
decreasing_by
  · have smaller := Step.sizeOf_lt_of_contents _given
    simp only [List.cons.sizeOf_spec]
    omega
  · simp only [List.cons.sizeOf_spec]
    omega

/-- Nothing is dropped, and no callback takes anything, whose answers are not kept. -/
def Program.TakesOpenly (program : Program) : Prop :=
  ∀ call ∈ program.calls, call ≠ .dropDiagnostics ∧
    ∀ callback ∈ call.runningCallbacks, ∀ inner ∈ callback.calls, inner.takesWarnings = false

namespace Program

variable {step : Step} {rest : Program} {answer : Answer} (answers : List Answer)

theorem taken_cons_bare (bare : answer.contents = none) :
    taken (step :: rest) (answer :: answers) =
      step.taken answer.result ++ taken rest answers := by
  rw [taken, bare]
  cases step.contents? <;> simp

theorem taken_cons_contents {body : Program} {inner : List Answer}
    (isBody : step.contents? = some body) (ran : answer.contents = some inner) :
    taken (step :: rest) (answer :: answers) =
      step.taken answer.result ++ taken body inner ++ taken rest answers := by
  rw [taken, ran]
  split
  · next contents inner' given same =>
    cases isBody.symm.trans given
    cases same
    rfl
  · next noBody => exact absurd rfl (noBody _ _ isBody)

theorem takesOpenly_cons (openly : TakesOpenly (step :: rest)) :
    (step ≠ .dropDiagnostics ∧ ∀ callback ∈ step.runningCallbacks, ∀ inner ∈ callback.calls,
      inner.takesWarnings = false) ∧
      (∀ body, step.runningContents? = some body → body.TakesOpenly) ∧ rest.TakesOpenly := by
  unfold TakesOpenly at openly
  rw [calls_cons] at openly
  obtain ⟨whole, tail⟩ := List.forall_mem_append.mp openly
  obtain ⟨head, inside⟩ := List.forall_mem_cons.mp whole
  refine ⟨head, fun body isBody call isCall => inside call ?_, tail⟩
  refine List.mem_flatMap.mpr ⟨body, List.mem_append_right _ ?_, isCall⟩
  rw [isBody]
  exact List.mem_singleton_self body

end Program

namespace Step

theorem runAll_cons (step : Step) (rest : Program) (writer : Writer) :
    (runAll (step :: rest) writer).1 =
      { out := addedText writer (step.perform writer).writer
        result := (step.perform writer).result
        contents := (step.perform writer).contents } ::
        (runAll rest (step.perform writer).writer).1 := by
  rw [runAll]

theorem contents_of_runningContents {step : Step} {body : Program}
    (runs : step.runningContents? = some body) : step.contents? = some body := by
  rw [runningContents?] at runs
  split at runs
  · cases runs
  · exact runs

theorem handedOut_call {step : Step} {ledger : Ledger} {writer : Writer}
    (kept : step ≠ .dropDiagnostics) (agrees : ledger.Matches writer) :
    (ledger.call step).handedOut =
      ledger.handedOut ++ step.taken (step.perform writer).result := by
  cases takes : step.takesWarnings with
  | true =>
    cases step with
    | dropDiagnostics => exact absurd rfl kept
    | build request =>
      cases request with
      | takeDiagnostics =>
        rw [perform]
        exact congrArg (ledger.handedOut ++ ·) agrees
      | _ => cases takes
    | _ => cases takes
  | false =>
    have nothing : step.taken (step.perform writer).result = [] := by
      unfold taken BuildStep.taken
      split
      · split
        · cases takes
        · rfl
      · rfl
    rw [Ledger.call_of_keeps takes, nothing, List.append_nil]

end Step

theorem Ledger.handedOut_run {program : Program} (openly : program.TakesOpenly) :
    ∀ {ledger : Ledger} {writer : Writer}, ledger.Matches writer →
      (ledger.callAll program.calls).handedOut =
        ledger.handedOut ++ program.taken (Step.runAll program writer).1 := by
  induction Program.everywhere (fun _ => trivial) program with
  | nil =>
    intro ledger writer agrees
    rw [Program.calls_nil, Program.taken]
    exact (List.append_nil _).symm
  | @cons step rest head inside tail insideHanded restHanded =>
    intro ledger writer agrees
    obtain ⟨⟨kept, still⟩, openContents, openRest⟩ := Program.takesOpenly_cons openly
    have booked : step.Booked ledger writer := step.booked (fun program _ => .run program) agrees
    have after := Finishes.follows booked fun program _ => .run program
    have led : (ledger.callAll (step :: step.runningCallbacks.flatMap Program.calls)).handedOut =
        ledger.handedOut ++ step.taken (step.perform writer).result := by
      rw [callAll_cons, handedOut_callAll, Step.handedOut_call kept agrees]
      intro inner isInner
      obtain ⟨callback, isCallback, isCall⟩ := List.mem_flatMap.mp isInner
      exact still callback isCallback inner isCall
    rw [Program.calls_cons, Program.calls_inOrder, callAll_append, callAll_append,
      restHanded openRest after, Step.runAll_cons]
    cases contents? : step.runningContents? with
    | none =>
      rw [Step.Booked, contents?] at booked
      obtain ⟨contents, -⟩ := booked
      rw [Program.taken_cons_bare _ contents, ← List.append_assoc, ← led]
      rfl
    | some body =>
      rw [Step.Booked, contents?] at booked
      obtain - | ⟨entered, entering, contents, -⟩ := booked
      have isContents := Step.contents_of_runningContents contents?
      have handed := insideHanded body (Step.mem_subprograms_of_inOrder
        (List.mem_append_right _ (by rw [contents?]; exact List.mem_singleton_self body)))
        (openContents body contents?) entering
      rw [Program.taken_cons_contents _ isContents contents, ← List.append_assoc,
        ← List.append_assoc, ← led, ← handed]
      simp

theorem Ledger.taken_eq_handedOut {program : Program} (openly : program.TakesOpenly)
    (writer : Writer) :
    program.taken (Step.runAll program writer).1 = (ofRun program writer).handedOut := by
  have agrees : ({ pending := writer.builder.pending } : Ledger).Matches writer := rfl
  exact (handedOut_run openly agrees).symm

end Typescribe
