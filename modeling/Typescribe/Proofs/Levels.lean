import Typescribe.Proofs.Blocks
import Typescribe.Proofs.Changes
/-!
# The level after a definition

Contents of a block are run in a scope, and callbacks of decorators are not: the level of
indentation after a definition, and that of its header and its closing line, is the one that
the callbacks leave. If every callback keeps the level, so does every step that writes
something, whatever the contents do.
-/
set_option autoImplicit false

namespace Typescribe

def KeepsLevel (change : Writer → Writer) : Prop :=
  ∀ writer : Writer, (change writer).level = writer.level

theorem KeepsLevel.rules : ChangeRules (fun _ => True) KeepsLevel where
  same := fun _ => rfl
  andThen firstKeeps secondKeeps writer := by rw [secondKeeps, firstKeeps]
  write piece _ writer := rfl
  warned warnings writer := rfl
  enclosed closing _ _ writer := rfl
  resolved known writer := by
    obtain ⟨change, keeps, same⟩ := known writer.builder.resolver
    rw [same writer rfl, keeps]

namespace Step

end Step

end Typescribe
