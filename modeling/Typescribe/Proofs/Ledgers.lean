import Typescribe.Proofs.Appending
/-!
# Ledgers of warnings

Warnings are collected by builds and handed out to whoever takes them, and calls are nested: the
callbacks and the contents of a step make calls of their own while it is performed. Here the
calls of a program are put in one order, in which each comes before those that it makes, and
booked one by one in a ledger. A change of writers follows its calls if what is pending on the
writer stays what is pending in the books.
-/
set_option autoImplicit false

namespace Typescribe

/-! ## Calls in order -/

namespace Step

def runningCallbacks (step : Step) : List Program :=
  if step.isIdle then [] else callbackPrograms step.decorators

def runningContents? (step : Step) : Option Program :=
  if step.isIdle then none else step.contents?

def inOrder (step : Step) : List Program :=
  step.runningCallbacks ++ step.runningContents?.toList

theorem runningCallbacks_of_bare {step : Step} (bare : step.decorators = []) :
    step.runningCallbacks = [] := by
  rw [runningCallbacks, bare, callbackPrograms, List.flatMap_nil, ite_self]

theorem mem_subprograms_of_inOrder {step : Step} {program : Program}
    (runs : program ∈ step.inOrder) : program ∈ step.subprograms := by
  rw [inOrder, runningCallbacks, runningContents?] at runs
  cases idle : step.isIdle with
  | true => simp [idle] at runs
  | false =>
    rw [idle] at runs
    exact List.mem_append.mpr (List.mem_append.mp runs).symm

end Step

/-- Each step stands in front of those that its callbacks and its contents perform. -/
def Program.calls : Program → List Step
  | [] => []
  | step :: rest =>
    step :: (step.inOrder.attach.flatMap fun inner => Program.calls inner.1)
      ++ Program.calls rest
termination_by program => sizeOf program
decreasing_by
  · have smaller := Step.sizeOf_lt_of_subprogram (Step.mem_subprograms_of_inOrder inner.2)
    simp only [List.cons.sizeOf_spec]
    omega
  · simp only [List.cons.sizeOf_spec]
    omega

namespace Program

@[simp] theorem calls_nil : calls [] = [] := by rw [calls]

theorem calls_cons (step : Step) (rest : Program) :
    calls (step :: rest) = step :: step.inOrder.flatMap calls ++ calls rest := by
  have inner : (step.inOrder.attach.flatMap fun inner => calls inner.1) =
      step.inOrder.flatMap calls := by
    rw [← List.flatMap_map, List.attach_map_subtype_val]
  rw [calls, inner]

end Program

/-! ## Books -/

/-- What has been handed out so far, and what is pending. -/
structure Ledger where
  handedOut : List Diagnostic := []
  pending : List Diagnostic := []

def Step.warnings : Step → List Diagnostic
  | .writeClass element _ options _ =>
    Resolver.namedWarnings element.name options.legacyPrefix
  | .writeInterface element options _ =>
    Resolver.namedWarnings element.name options.legacyPrefix
  | .writeEnumeration element options =>
    Resolver.namedWarnings element.name options.legacyPrefix
  | .build request => request.warnings
  | _ => []

namespace Ledger

/-- A take hands out all that is pending. -/
def call (step : Step) (ledger : Ledger) : Ledger :=
  if step.takesWarnings then { handedOut := ledger.handedOut ++ ledger.pending }
  else { ledger with pending := ledger.pending ++ step.warnings }

def callAll (calls : List Step) (ledger : Ledger) : Ledger :=
  calls.foldl (fun before step => before.call step) ledger

def Matches (ledger : Ledger) (writer : Writer) : Prop :=
  ledger.pending = writer.builder.pending

variable {ledger : Ledger} {writer : Writer}

theorem callAll_cons (step : Step) (calls : List Step) (ledger : Ledger) :
    ledger.callAll (step :: calls) = (ledger.call step).callAll calls := rfl

theorem callAll_append (early late : List Step) (ledger : Ledger) :
    ledger.callAll (early ++ late) = (ledger.callAll early).callAll late :=
  List.foldl_append

theorem call_of_keeps {step : Step} (keeps : step.takesWarnings = false) :
    ledger.call step = { ledger with pending := ledger.pending ++ step.warnings } := by
  rw [call, keeps]
  rfl

theorem takes_collects_nothing {step : Step} (takes : step.takesWarnings = true) :
    step.warnings = [] := by
  cases step with
  | dropDiagnostics => rfl
  | build request =>
    cases request with
    | takeDiagnostics => rfl
    | _ => cases takes
  | _ => cases takes

/-- No call loses a warning, doubles one or puts one out of its place. -/
theorem all_call (step : Step) (ledger : Ledger) :
    (ledger.call step).handedOut ++ (ledger.call step).pending =
      ledger.handedOut ++ ledger.pending ++ step.warnings := by
  cases takes : step.takesWarnings with
  | false => rw [call_of_keeps takes, List.append_assoc]
  | true =>
    rw [call, if_pos takes, takes_collects_nothing takes]

theorem all_callAll (calls : List Step) (ledger : Ledger) :
    (ledger.callAll calls).handedOut ++ (ledger.callAll calls).pending =
      ledger.handedOut ++ ledger.pending ++ calls.flatMap Step.warnings := by
  induction calls generalizing ledger with
  | nil => exact (List.append_nil _).symm
  | cons step calls ih =>
    rw [callAll_cons, ih, all_call, List.flatMap_cons, List.append_assoc]

theorem handedOut_callAll {calls : List Step}
    (keeps : ∀ step ∈ calls, step.takesWarnings = false) (ledger : Ledger) :
    (ledger.callAll calls).handedOut = ledger.handedOut := by
  induction calls generalizing ledger with
  | nil => rfl
  | cons step calls ih =>
    obtain ⟨first, others⟩ := List.forall_mem_cons.mp keeps
    rw [callAll_cons, ih others, call_of_keeps first]

end Ledger

/-- A change does to the warnings what the books say of the calls. -/
def Follows (calls : List Step) (change : Callback) : Prop :=
  ∀ (ledger : Ledger) (writer : Writer), ledger.Matches writer →
    (ledger.callAll calls).Matches (change writer)

namespace Follows

theorem quiet {change : Callback} (keeps : ∀ writer, (change writer).builder = writer.builder) :
    Follows [] change := by
  intro ledger writer agrees
  rw [Ledger.Matches, keeps]
  exact agrees

theorem andThen {early late : List Step} {first second : Callback}
    (firstFollows : Follows early first) (secondFollows : Follows late second) :
    Follows (early ++ late) fun writer => second (first writer) := by
  intro ledger writer agrees
  rw [Ledger.callAll_append]
  exact secondFollows _ _ (firstFollows ledger writer agrees)

/-! ## Decorators -/

theorem decorator {decorator : Decorator Program}
    (callbacks : ∀ program ∈ decorator.programs, Follows program.calls (Step.run program)) :
    Follows (decorator.programs.flatMap Program.calls)
      (Writer.decorator (Step.decoratorCallback decorator)) := by
  obtain ⟨name, isCalled, arguments⟩ := decorator
  cases arguments with
  | none => cases isCalled <;> exact quiet fun _ => rfl
  | some arguments =>
    have parentheses (given : Arguments Callback) :
        ({ name, isCalled, arguments := some given } : Decorator Callback).hasParentheses =
          true := by
      cases isCalled <;> rfl
    unfold Writer.decorator
    simp only [Step.decoratorCallback, Step.argumentsCallback?, parentheses, if_true]
    cases arguments with
    | text content =>
      simp only [Step.argumentsCallback]
      exact quiet fun _ => rfl
    | callback program =>
      simp only [Step.argumentsCallback]
      have runs : Follows program.calls (Step.run program) :=
        callbacks program (List.mem_singleton_self program)
      have opened : Follows [] fun writer => ((writer.write "@").write name).write "(" :=
        quiet fun _ => rfl
      have closed : Follows ([] ++ program.calls ++ []) fun writer =>
          (Step.run program (((writer.write "@").write name).write "(")).write ")" :=
        (opened.andThen runs).andThen (quiet fun _ => rfl)
      simpa [Decorator.programs, Arguments.programs, Writer.arguments, Step.run] using closed

theorem eachDecorator (before after : Callback) (starts : Follows [] before)
    (ends : Follows [] after) {decorators : List (Decorator Program)}
    (callbacks : ∀ program ∈ callbackPrograms decorators,
      Follows program.calls (Step.run program)) :
    Follows ((callbackPrograms decorators).flatMap Program.calls) fun writer =>
      (Step.callbacks decorators).foldl
        (fun writer next => after ((before writer).decorator next)) writer := by
  induction decorators with
  | nil =>
    simp only [Step.callbacks]
    exact quiet fun _ => rfl
  | cons head rest ih =>
    have parts : callbackPrograms (head :: rest) = head.programs ++ callbackPrograms rest :=
      List.flatMap_cons
    rw [parts] at callbacks ⊢
    obtain ⟨first, others⟩ := List.forall_mem_append.mp callbacks
    have all := ((starts.andThen (decorator first)).andThen ends).andThen (ih others)
    simp only [Step.callbacks]
    simpa using all

theorem decoratorLines {decorators : List (Decorator Program)}
    (callbacks : ∀ program ∈ callbackPrograms decorators,
      Follows program.calls (Step.run program)) :
    Follows ((callbackPrograms decorators).flatMap Program.calls)
      (Writer.decoratorLines (Step.callbacks decorators)) :=
  eachDecorator Writer.startLine (Writer.endLine "") (quiet fun _ => rfl) (quiet fun _ => rfl)
    callbacks

theorem decoratorPieces {decorators : List (Decorator Program)}
    (callbacks : ∀ program ∈ callbackPrograms decorators,
      Follows program.calls (Step.run program)) :
    Follows ((callbackPrograms decorators).flatMap Program.calls)
      (Writer.decoratorPieces (Step.callbacks decorators)) :=
  eachDecorator id (Writer.write " ") (quiet fun _ => rfl) (quiet fun _ => rfl) callbacks

end Follows

end Typescribe
