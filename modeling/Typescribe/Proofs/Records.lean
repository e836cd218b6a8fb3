import Typescribe.Configuration
import Typescribe.Definition.Member
import Typescribe.Model.Classifier
import Typescribe.Proofs.FlagTexts
/-!
# Records read back

Options, configurations, definitions and most elements of a model have lossless forms, each
because the forms of its fields are. A list that is hidden when it is empty is read as empty.
-/
set_option autoImplicit false

namespace Typescribe

section HiddenLists

variable {α : Type} [JsonForm α]

@[simp] theorem lookup_unlessEmpty (key name : String) (items : List α) :
    (unlessEmpty name items).lookup key =
      if key = name ∧ items ≠ [] then some (toJson items) else none := by
  cases items with
  | nil => simp [unlessEmpty]
  | cons item items =>
    by_cases same : key = name
    · simp [unlessEmpty, same]
    · simp [unlessEmpty, same, List.lookup_cons, beq_eq_false_iff_ne.mpr same]

@[simp] theorem orElse_hidden [Lossless α] (items : List α) :
    orElse [] (if items = [] then none else some (toJson items)) = some items := by
  split
  · next empty => rw [orElse, empty]
  · exact orElse_toJson [] items

end HiddenLists

/-! ## Choices -/

instance : Lossless Visibility where
  readsBack visibility := by cases visibility <;> exact ⟨rfl, nofun⟩

instance : Lossless Owner where
  readsBack owner := by cases owner <;> exact ⟨rfl, nofun⟩

instance : Lossless Primitive where
  readsBack primitive := by cases primitive <;> exact ⟨rfl, nofun⟩

instance : Lossless Direction where
  readsBack direction := by cases direction <;> exact ⟨rfl, nofun⟩

instance : Lossless AccessModifier where
  readsBack modifier := by cases modifier <;> exact ⟨rfl, nofun⟩

instance : Lossless VariableKind where
  readsBack kind := by cases kind <;> exact ⟨rfl, nofun⟩

instance : Lossless TypeRef where
  readsBack type := by
    cases type with
    | primitive kind => cases kind <;> exact ⟨rfl, nofun⟩
    | _ => exact ⟨rfl, nofun⟩

instance : Lossless Indent where
  readsBack indent := by
    cases indent with
    | spaces width => exact ⟨congrArg (Option.map Indent.spaces) (ofJson_toJson width), nofun⟩
    | tab => exact ⟨rfl, nofun⟩

instance : Lossless EnumValue where
  readsBack value := by
    cases value with
    | number value =>
      refine ⟨?_, nofun⟩
      delta EnumValue.instJsonForm
      simp
    | text value => exact ⟨rfl, nofun⟩

/-! ## Options

Each record is read in two steps: first its fields are found, which is a computation, and then
the value of each is read by the law for its type. -/

instance : Lossless ClassOptions where
  readsBack options := by
    refine ⟨?_, nofun⟩
    delta instJsonFormClassOptions
    dsimp only [fields_record, List.map, Option.bind_eq_bind, Option.bind_some]
    simp [List.lookup_cons]

instance : Lossless InterfaceOptions where
  readsBack options := by
    refine ⟨?_, nofun⟩
    delta instJsonFormInterfaceOptions
    dsimp only [fields_record, List.map, Option.bind_eq_bind, Option.bind_some]
    simp [List.lookup_cons]

instance : Lossless EnumOptions where
  readsBack options := by
    refine ⟨?_, nofun⟩
    delta instJsonFormEnumOptions
    dsimp only [fields_record, List.map, Option.bind_eq_bind, Option.bind_some]
    simp [List.lookup_cons]

instance : Lossless StringLiteralOptions where
  readsBack options := by
    refine ⟨?_, nofun⟩
    delta instJsonFormStringLiteralOptions
    dsimp only [fields_record, List.map, Option.bind_eq_bind, Option.bind_some]
    simp [List.lookup_cons]

instance : Lossless PropertyOptions where
  readsBack options := by
    refine ⟨?_, nofun⟩
    delta instJsonFormPropertyOptions
    dsimp only [fields_record, List.map, Option.bind_eq_bind, Option.bind_some]
    simp [List.lookup_cons]

instance : Lossless FunctionOptions where
  readsBack options := by
    refine ⟨?_, nofun⟩
    delta instJsonFormFunctionOptions
    dsimp only [fields_record, List.map, Option.bind_eq_bind, Option.bind_some]
    simp [List.lookup_cons]

instance : Lossless WriterOptions where
  readsBack options := by
    refine ⟨?_, nofun⟩
    delta WriterOptions.instJsonForm
    dsimp only [WriterOptions.read, fields_record, List.map, Option.bind_eq_bind,
      Option.bind_some]
    simp [List.lookup_cons, readOrElse]

instance : Lossless Configuration where
  readsBack config := by
    refine ⟨?_, nofun⟩
    delta Configuration.instJsonForm
    dsimp only [Configuration.read]
    rw [onlyFields_record rfl]
    dsimp only [List.map, Option.bind_eq_bind, Option.bind_some]
    simp [List.lookup_cons, readOrElse]

/-! ## Definitions -/

instance : Lossless InterfaceDefinition where
  readsBack definition := by
    refine ⟨?_, nofun⟩
    delta InterfaceDefinition.instJsonForm
    dsimp only [fields_record, List.map, Option.bind_eq_bind, Option.bind_some]
    simp [List.lookup_cons, List.lookup_append]

instance : Lossless EnumMember where
  readsBack definition := by
    refine ⟨?_, nofun⟩
    delta EnumMember.instJsonForm
    dsimp only [fields_record, List.map, Option.bind_eq_bind, Option.bind_some]
    simp [List.lookup_cons, List.lookup_append]

instance : Lossless EnumDefinition where
  readsBack definition := by
    refine ⟨?_, nofun⟩
    delta EnumDefinition.instJsonForm
    dsimp only [fields_record, List.map, Option.bind_eq_bind, Option.bind_some]
    simp [List.lookup_cons, List.lookup_append]

instance : Lossless StringLiteralType where
  readsBack definition := by
    refine ⟨?_, nofun⟩
    delta instJsonFormStringLiteralType
    dsimp only [fields_record, List.map, Option.bind_eq_bind, Option.bind_some]
    simp [List.lookup_cons, List.lookup_append]

instance : Lossless VariableDefinition where
  readsBack definition := by
    refine ⟨?_, nofun⟩
    delta VariableDefinition.instJsonForm
    dsimp only [fields_record, List.map, Option.bind_eq_bind, Option.bind_some]
    simp [List.lookup_cons, List.lookup_append]

instance : Lossless ParameterDefinition where
  readsBack definition := by
    refine ⟨?_, nofun⟩
    delta ParameterDefinition.instJsonForm
    dsimp only [fields_record, List.map, Option.bind_eq_bind, Option.bind_some]
    simp [List.lookup_cons, List.lookup_append]

instance : Lossless FunctionDefinition where
  readsBack definition := by
    refine ⟨?_, nofun⟩
    delta FunctionDefinition.instJsonForm
    dsimp only [fields_record, List.map, Option.bind_eq_bind, Option.bind_some]
    simp [List.lookup_cons, List.lookup_append]

/-! ## Model -/

instance : Lossless Comment where
  readsBack comment := by
    refine ⟨?_, nofun⟩
    delta instJsonFormComment
    dsimp only [fields_record, List.map, Option.bind_eq_bind, Option.bind_some]
    simp

instance : Lossless Generalization where
  readsBack relation := by
    refine ⟨?_, nofun⟩
    delta instJsonFormGeneralization
    dsimp only [fields_record, List.map, Option.bind_eq_bind, Option.bind_some]
    simp

instance : Lossless Realization where
  readsBack relation := by
    refine ⟨?_, nofun⟩
    delta instJsonFormRealization
    dsimp only [fields_record, List.map, Option.bind_eq_bind, Option.bind_some]
    simp

instance : Lossless Multiplicity where
  readsBack multiplicity := by
    refine ⟨?_, nofun⟩
    delta Multiplicity.instJsonForm
    dsimp only [fields_record, List.map, Option.bind_eq_bind, Option.bind_some]
    simp [List.lookup_cons]

instance : Lossless Parameter where
  readsBack parameter := by
    refine ⟨?_, nofun⟩
    delta Parameter.instJsonForm
    dsimp only [fields_record, List.map, Option.bind_eq_bind, Option.bind_some]
    simp [List.lookup_cons]

instance : Lossless Operation where
  readsBack operation := by
    refine ⟨?_, nofun⟩
    delta Operation.instJsonForm
    dsimp only [fields_record, List.map, Option.bind_eq_bind, Option.bind_some]
    simp [List.lookup_cons]

end Typescribe
