import Typescribe.Proofs.Bookings
/-!
# Another naming for a writer

A writer that is given another naming in the middle of a run keeps its text, its layout and its
fallback name, and whatever follows is written as if nothing but the naming had changed. Its
builder is a fresh one, though: the warnings that nobody has taken by then are lost, and just
those.
-/
set_option autoImplicit false

namespace Typescribe

/-- Nothing but the naming is changed. -/
def Writer.renamed (naming : Naming) (writer : Writer) : Writer :=
  { writer with
    builder := { writer.builder with
      resolver := { writer.builder.resolver with naming } } }

theorem Writer.withNaming_eq (naming : Naming) (writer : Writer) :
    writer.withNaming naming =
      { writer.renamed naming with builder := (writer.renamed naming).builder.drained } := rfl

theorem Writer.alike_withNaming (naming : Naming) (writer : Writer) :
    Alike (writer.withNaming naming) (writer.renamed naming) := ⟨rfl, rfl, rfl, rfl⟩

theorem Writer.withNaming_eq_renamed_iff (naming : Naming) (writer : Writer) :
    writer.withNaming naming = writer.renamed naming ↔ writer.builder.pending = [] := by
  constructor
  · intro same
    exact (congrArg (fun writer : Writer => writer.builder.pending) same).symm
  · intro nothingPending
    rw [withNaming_eq, Builder.drained, ← nothingPending]
    rfl

structure Replaced (naming : Naming) (before after : Writer) : Prop where
  text : after.text = before.text
  level : after.level = before.level
  indent : after.sheet.indent = before.sheet.indent
  commentWidth : after.commentWidth = before.commentWidth
  fallbackTypeName :
    after.builder.resolver.fallbackTypeName = before.builder.resolver.fallbackTypeName
  naming : after.builder.resolver.naming = naming
  pending : after.builder.pending = []

/-- Replacing the naming anywhere in a run changes what is written as the naming alone does, and
loses just the warnings that were pending then. -/
theorem replaced_naming_loses_only_pending (before : Program) (start : Writer) (naming : Naming)
    (rest : Program) :
    let reached := Step.run before start
    let replaced := reached.withNaming naming
    let renamed := reached.renamed naming
    Replaced naming reached replaced ∧
      (replaced = renamed ↔ reached.builder.pending = []) ∧
      (∃ added, (Step.run rest replaced).text = reached.text ++ added ∧
        (Step.run rest renamed).text = reached.text ++ added) ∧
      (Ledger.ofRun before start).handedOut ++ reached.builder.pending =
        start.builder.pending ++ before.calls.flatMap Step.warnings ∧
      (Ledger.ofRun rest replaced).handedOut ++ (Step.run rest replaced).builder.pending =
        rest.calls.flatMap Step.warnings ∧
      (Ledger.ofRun rest renamed).handedOut ++ (Step.run rest renamed).builder.pending =
        reached.builder.pending ++ rest.calls.flatMap Step.warnings := by
  intro reached replaced renamed
  obtain ⟨-, -, -, added, -⟩ := programs_append_alike rest (reached.alike_withNaming naming)
  exact ⟨⟨rfl, rfl, rfl, rfl, rfl, rfl, rfl⟩, reached.withNaming_eq_renamed_iff naming, added,
    Ledger.all_ofRun before start, Ledger.all_ofRun rest replaced, Ledger.all_ofRun rest renamed⟩

theorem replaced_naming_loses_warning :
    let reached := Step.run
      [.writeClass { name := "A" } [] { legacyPrefix := some "export" } []] {}
    let take : Step := .build .takeDiagnostics
    (reached.withNaming .ofModel).builder.pending ≠ reached.builder.pending ∧
      (take.perform (reached.withNaming .ofModel)).result = .answered (.diagnostics []) ∧
      (take.perform (reached.renamed .ofModel)).result =
        .answered (.diagnostics [.deprecatedPrefix "A"]) := by
  intro reached take
  have pending : reached.builder.pending = [.deprecatedPrefix "A"] := rfl
  refine ⟨?_, ?_, ?_⟩
  · rw [pending]
    exact (List.cons_ne_nil _ _).symm
  · rw [Step.perform]
    rfl
  · rw [Step.perform]
    rfl

end Typescribe
