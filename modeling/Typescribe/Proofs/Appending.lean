import Typescribe.Proofs.Changes
/-!
# Two runs of one program

A program that runs on two writers that are alike adds the same text to both, and, as long as
no step takes the warnings that are pending, the same warnings. Whether a step fails does not
depend on the writer.
-/
set_option autoImplicit false

namespace Typescribe

/-- The predicate holds of every step that runs when the program does. -/
inductive Program.Throughout (holds : Step → Prop) : Program → Prop
  | nil : Throughout holds []
  | cons {step : Step} {rest : Program} (head : holds step)
      (inside : ∀ program ∈ step.executed, Throughout holds program)
      (tail : Throughout holds rest) : Throughout holds (step :: rest)

/-- The steps that leave no warnings pending. -/
def Step.takesWarnings : Step → Bool
  | .dropDiagnostics | .build .takeDiagnostics => true
  | _ => false

/-- A change that is blind and adds the same warnings to writers that are alike. -/
structure Appends (change : Callback) : Prop where
  blind : Blind change
  warns : ∀ {left right : Writer}, Alike left right → ∃ warnings,
    (change left).builder.pending = left.builder.pending ++ warnings ∧
      (change right).builder.pending = right.builder.pending ++ warnings

namespace Appends

theorem ofBlind {change : Callback} (blind : Blind change)
    (keeps : ∀ writer, (change writer).builder.pending = writer.builder.pending) :
    Appends change := by
  refine ⟨blind, fun {left right} _ => ⟨[], ?_, ?_⟩⟩
  · rw [keeps, List.append_nil]
  · rw [keeps, List.append_nil]

theorem andThen {first second : Callback} (firstAppends : Appends first)
    (secondAppends : Appends second) : Appends fun writer => second (first writer) := by
  refine ⟨firstAppends.blind.andThen secondAppends.blind, fun {left right} alike => ?_⟩
  have middle : Alike (first left) (first right) := (firstAppends.blind left right alike).1
  obtain ⟨early, leftEarly, rightEarly⟩ := firstAppends.warns alike
  obtain ⟨late, leftLate, rightLate⟩ := secondAppends.warns middle
  refine ⟨early ++ late, ?_, ?_⟩
  · rw [leftLate, leftEarly, List.append_assoc]
  · rw [rightLate, rightEarly, List.append_assoc]

theorem warned (warnings : List Diagnostic) : Appends (Writer.warned warnings) where
  blind := Blind.rules.warned warnings
  warns _ := ⟨warnings, rfl, rfl⟩

theorem enclosed {β : Type} (closing : String) {contents : Writer → β × Writer}
    (appends : Appends fun writer => (contents writer).2) :
    Appends fun writer => (writer.enclosed closing contents).2 where
  blind := Blind.enclosed closing appends.blind
  warns {left right} alike := by
    obtain ⟨warnings, leftWarned, rightWarned⟩ :=
      appends.warns (alike.setLevel (left.level + 1))
    rw [alike.level] at rightWarned
    exact ⟨warnings, leftWarned, rightWarned⟩

theorem resolved {change : Callback}
    (known : ∀ resolver, ∃ known, Appends known ∧ ∀ writer : Writer,
      writer.builder.resolver = resolver → change writer = known writer) : Appends change where
  blind := Blind.resolved fun resolver =>
    let ⟨same, appends, agrees⟩ := known resolver
    ⟨same, appends.blind, agrees⟩
  warns {left right} alike := by
    obtain ⟨same, appends, agrees⟩ := known right.builder.resolver
    rw [agrees left alike.resolver, agrees right rfl]
    exact appends.warns alike

theorem rules : ChangeRules Appends Appends where
  same := ofBlind Blind.same fun _ => rfl
  andThen := andThen
  write piece agrees := ofBlind (Blind.ofWrite piece (fun _ => rfl) agrees) fun _ => rfl
  warned := warned
  enclosed := enclosed
  resolved := resolved

end Appends

/-! ## Steps -/

def BuildStep.warnings {κ : Type} : BuildStep κ → List Diagnostic
  | .ofClass element _ options => Resolver.namedWarnings element.name options.legacyPrefix
  | .ofInterface element options => Resolver.namedWarnings element.name options.legacyPrefix
  | .ofEnum element options => Resolver.namedWarnings element.name options.legacyPrefix
  | _ => []

theorem BuildStep.pending_run {κ : Type} {request : BuildStep κ}
    (keeps : request ≠ .takeDiagnostics) (builder : Builder) :
    (request.run builder).2.pending = builder.pending ++ request.warnings := by
  cases request with
  | ofClass element decorators options =>
    rw [warnings, ← builder.resolver.warnings_class decorators]
    rfl
  | ofInterface element options =>
    rw [warnings, ← builder.resolver.warnings_interface]
    rfl
  | ofEnum element options =>
    rw [warnings, ← Resolver.warnings_enum]
    rfl
  | takeDiagnostics => exact absurd rfl keeps
  | _ => exact (List.append_nil _).symm

theorem Appends.perform {step : Step} (keeps : step.takesWarnings = false)
    (inside : ∀ program ∈ step.executed, Appends (Step.run program)) :
    Appends fun writer => (step.perform writer).writer := by
  cases isSetting : step.isSetting with
  | false =>
    have insideRunning (runs : step.isIdle = false) :
        ∀ program ∈ step.subprograms, Appends (Step.run program) := by
      rw [Step.executed, runs] at inside
      exact inside
    refine rules.perform isSetting (fun runs program isContents => ?_)
      fun runs program isCallback => ?_
    · exact insideRunning runs program (List.mem_append_left _ (Option.mem_toList.mpr isContents))
    · exact insideRunning runs program (List.mem_append_right _ isCallback)
  | true =>
    have blind := Blind.perform step fun program _ => Blind.run program
    cases step with
    | deeper | shallower | setCommentWidth =>
      simp only [Step.perform] at blind ⊢
      exact ofBlind blind fun _ => rfl
    | build request =>
      have left : request ≠ .takeDiagnostics := by
        intro takes
        rw [takes] at keeps
        cases keeps
      refine ⟨blind, fun {_ _} _ => ⟨request.warnings, ?_, ?_⟩⟩
      · simp only [Step.perform, BuildStep.pending_run left]
      · simp only [Step.perform, BuildStep.pending_run left]
    | dropDiagnostics => cases keeps
    | _ => cases isSetting

theorem Appends.run {program : Program}
    (keeps : program.Throughout fun step => step.takesWarnings = false) :
    Appends (Step.run program) := by
  induction keeps with
  | nil =>
    rw [Step.run_nil]
    exact rules.same
  | cons head inside tail insideAppends tailAppends =>
    rw [Step.run_cons]
    exact (perform head insideAppends).andThen tailAppends

/-- A program adds the same text to writers that are alike, and each of its steps fails on both or
on neither. Without a take it adds the same warnings too. -/
theorem programs_append_alike (program : Program) {left right : Writer}
    (alike : Alike left right) :
    Alike (Step.run program left) (Step.run program right) ∧
      SameSetting left (Step.run program left) ∧ SameSetting right (Step.run program right) ∧
      (∃ added, (Step.run program left).text = left.text ++ added ∧
        (Step.run program right).text = right.text ++ added) ∧
      ((program.Throughout fun step => step.takesWarnings = false) → ∃ warnings,
        (Step.run program left).builder.pending = left.builder.pending ++ warnings ∧
          (Step.run program right).builder.pending = right.builder.pending ++ warnings) ∧
      program.Everywhere fun step => ∀ first second,
        (step.perform first).result.failure? = (step.perform second).result.failure? := by
  obtain ⟨after, leftSetting, added⟩ := Blind.run program left right alike
  obtain ⟨-, rightSetting, -⟩ := Blind.run program right right (.refl right)
  refine ⟨after, leftSetting, rightSetting, added, fun keeps => (Appends.run keeps).warns alike,
    Program.everywhere (fun step first second => ?_) program⟩
  rw [step.failure_perform, step.failure_perform]

theorem prefixed_class_appends_alike :
    let program : Program := [.writeClass { name := "A" }
      [{ name := "D", arguments := some (.callback [.write "x"]) }]
      { legacyPrefix := some "export" } [.line "y;"]]
    let used : Writer := Writer.warned [.deprecatedPrefix "Z"] (Writer.line "z;" {})
    ∃ warnings,
      (Step.run program {}).builder.pending = [] ++ warnings ∧
        (Step.run program used).builder.pending = [.deprecatedPrefix "Z"] ++ warnings := by
  intro program used
  have keeps : program.Throughout fun step => step.takesWarnings = false := by
    refine .cons rfl (fun inner isInner => ?_) .nil
    have inners : inner = [.line "y;"] ∨ inner = [.write "x"] := by
      simpa [program, Step.executed, Step.isIdle, Step.failure?, Step.isBodiless, missing?,
        Step.subprograms, Step.contents?, Step.decorators, callbackPrograms, Decorator.programs,
        Arguments.programs] using isInner
    rcases inners with rfl | rfl
    · exact .cons rfl (List.forall_mem_nil _) .nil
    · exact .cons rfl (List.forall_mem_nil _) .nil
  have alike : Alike {} used := ⟨rfl, rfl, rfl, rfl⟩
  obtain ⟨-, -, -, -, warned, -⟩ := programs_append_alike program alike
  exact warned keeps

end Typescribe
