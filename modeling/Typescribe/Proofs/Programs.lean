import Typescribe.Program
import Typescribe.Proofs.Blindness
/-!
# Induction over programs

A program holds further programs: the contents of its blocks and the callbacks of its
decorators. `Everywhere` says that a predicate holds of all steps of a program, those inside
included, and its induction principle is how facts about runs are proved.
-/
set_option autoImplicit false

namespace Typescribe

def Arguments.programs : Arguments Program → List Program
  | .text _ => []
  | .callback program => [program]

def Decorator.programs (decorator : Decorator Program) : List Program :=
  (decorator.arguments.map Arguments.programs).getD []

def callbackPrograms (decorators : List (Decorator Program)) : List Program :=
  decorators.flatMap Decorator.programs

namespace Step

def contents? : Step → Option Program
  | .codeBlock contents | .decoratorBlock _ contents | .classBlock _ contents
  | .interfaceBlock _ contents | .functionBlock _ contents | .writeClass _ _ _ contents
  | .writeInterface _ _ contents | .writeFunction _ _ contents => some contents
  | _ => none

def decorators : Step → List (Decorator Program)
  | .classBlock (some definition) _ => definition.decorators
  | .property (some definition) => definition.decorators
  | .writeClass _ decorators _ _ | .writeProperty _ decorators _ => decorators
  | _ => []

def subprograms (step : Step) : List Program :=
  step.contents?.toList ++ callbackPrograms step.decorators

end Step

/-- The predicate holds of every step of a program and of every step inside of those. -/
inductive Program.Everywhere (holds : Step → Prop) : Program → Prop
  | nil : Everywhere holds []
  | cons {step : Step} {rest : Program} (head : holds step)
      (inside : ∀ program ∈ step.subprograms, Everywhere holds program)
      (tail : Everywhere holds rest) : Everywhere holds (step :: rest)

/-! ## Every program is made of its steps -/

namespace Step

variable {step : Step} {program : Program}

theorem sizeOf_lt_of_callback {decorators : List (Decorator Program)}
    (member : program ∈ callbackPrograms decorators) : sizeOf program < sizeOf decorators := by
  obtain ⟨decorator, isDecorator, isCallback⟩ := List.mem_flatMap.mp member
  have smaller := List.sizeOf_lt_of_mem isDecorator
  obtain ⟨name, isCalled, arguments⟩ := decorator
  cases arguments with
  | none => simp [Decorator.programs] at isCallback
  | some arguments =>
    cases arguments with
    | text content => simp [Decorator.programs, Arguments.programs] at isCallback
    | callback run =>
      have same : program = run := by
        simpa [Decorator.programs, Arguments.programs] using isCallback
      simp only [Decorator.mk.sizeOf_spec, Option.some.sizeOf_spec,
        Arguments.callback.sizeOf_spec, ← same] at smaller
      omega

theorem sizeOf_lt_of_contents (given : step.contents? = some program) :
    sizeOf program < sizeOf step := by
  cases step <;> simp only [contents?, reduceCtorEq, Option.some.injEq] at given <;>
    subst given <;>
    simp only [codeBlock.sizeOf_spec, decoratorBlock.sizeOf_spec, classBlock.sizeOf_spec,
      interfaceBlock.sizeOf_spec, functionBlock.sizeOf_spec, writeClass.sizeOf_spec,
      writeInterface.sizeOf_spec, writeFunction.sizeOf_spec] <;>
    omega

theorem sizeOf_decorators_lt (inside : step.decorators ≠ []) :
    sizeOf step.decorators < sizeOf step := by
  cases step with
  | classBlock definition contents =>
    cases definition with
    | none => exact absurd rfl inside
    | some definition => cases definition; simp [decorators]; omega
  | property definition =>
    cases definition with
    | none => exact absurd rfl inside
    | some definition => cases definition; simp [decorators]; omega
  | writeClass element decorators options contents => simp [Step.decorators]; omega
  | writeProperty element decorators options => simp [Step.decorators]; omega
  | _ => exact absurd rfl inside

theorem sizeOf_lt_of_subprogram (member : program ∈ step.subprograms) :
    sizeOf program < sizeOf step := by
  rcases List.mem_append.mp member with inContents | inCallbacks
  · exact sizeOf_lt_of_contents (Option.mem_toList.mp inContents)
  · have decorated : step.decorators ≠ [] := by
      intro bare
      simp [bare, callbackPrograms] at inCallbacks
    have smaller := sizeOf_lt_of_callback inCallbacks
    have smallest := sizeOf_decorators_lt decorated
    omega

end Step

theorem Program.everywhere {holds : Step → Prop} (all : ∀ step, holds step) :
    ∀ program : Program, program.Everywhere holds
  | [] => .nil
  | step :: rest =>
    .cons (all step) (fun program _member => everywhere all program) (everywhere all rest)
termination_by program => sizeOf program
decreasing_by
  · have smaller := Step.sizeOf_lt_of_subprogram _member
    simp only [List.cons.sizeOf_spec]
    omega
  · simp only [List.cons.sizeOf_spec]
    omega

/-! ## Runs -/

namespace Step

def run (program : Program) : Callback := fun writer => (runAll program writer).2

theorem run_nil : run [] = fun writer => writer := by
  funext writer
  rw [run, runAll]

theorem run_cons (step : Step) (rest : Program) :
    run (step :: rest) = fun writer => run rest (step.perform writer).writer := by
  funext writer
  rw [run, runAll]
  rfl

@[simp] theorem decorators_classCallbacks (definition : ClassDefinition Program) :
    (classCallbacks definition).decorators = callbacks definition.decorators := by
  rw [classCallbacks]

@[simp] theorem decorators_propertyCallbacks (definition : PropertyDefinition Program) :
    (propertyCallbacks definition).decorators = callbacks definition.decorators := by
  rw [propertyCallbacks]

theorem eachCallback {holds : Callback → Prop} {decorators : List (Decorator Program)}
    (runs : ∀ program ∈ callbackPrograms decorators, holds (run program)) :
    ∀ decorator ∈ callbacks decorators, decorator.EachCallback holds := by
  induction decorators with
  | nil => intro decorator member; simp [callbacks] at member
  | cons head rest ih =>
    intro decorator member
    simp only [callbacks, List.mem_cons] at member
    rcases member with rfl | inRest
    · obtain ⟨name, isCalled, arguments⟩ := head
      intro callback given
      cases arguments with
      | none => simp [decoratorCallback, argumentsCallback?] at given
      | some arguments =>
        cases arguments with
        | text content =>
          simp [decoratorCallback, argumentsCallback?, argumentsCallback] at given
        | callback program =>
          have isRun : run program = callback := by
            change (fun writer => (runAll program writer).2) = callback
            simpa [decoratorCallback, argumentsCallback?, argumentsCallback] using given
          rw [← isRun]
          exact runs program (by simp [callbackPrograms, Decorator.programs, Arguments.programs])
    · refine ih (fun program isProgram => runs program ?_) decorator inRest
      simp only [callbackPrograms, List.flatMap_cons, List.mem_append]
      exact Or.inr isProgram

end Step

theorem BuildStep.resolver_run {κ : Type} (request : BuildStep κ) (builder : Builder) :
    (request.run builder).2.resolver = builder.resolver := by
  cases request <;> rfl

namespace Performed

@[simp] theorem writer_ofWriter (writer : Writer) : (ofWriter writer).writer = writer := rfl

@[simp] theorem writer_ofContents (ran : List Answer × Writer) :
    (ofContents ran).writer = ran.2 := rfl

@[simp] theorem writer_ofContents? (ran : Option (List Answer) × Writer) :
    (ofContents? ran).writer = ran.2 := rfl

@[simp] theorem writer_ofWrite {α : Type} (contents : α → Option (List Answer))
    (written : Except BuildFailure α × Writer) :
    (ofWrite contents written).writer = written.2 := by
  rw [ofWrite]
  cases written.1 <;> rfl

end Performed

end Typescribe
