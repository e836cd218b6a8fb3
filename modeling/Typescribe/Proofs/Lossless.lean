import Typescribe.Json.Form
import Typescribe.Proofs.Traversal
/-!
# Lossless forms

A value reads back if reading what is written for it gives the value again; a form is lossless
if every value of its type does. Absent values are written as `null`, so no value that may be
absent can be written as `null` itself: that is part of reading back.
-/
set_option autoImplicit false

namespace Typescribe

def ReadsBack {α : Type} [JsonForm α] (value : α) : Prop :=
  ofJson? (toJson value) = some value ∧ toJson value ≠ .null

class Lossless (α : Type) [JsonForm α] : Prop where
  readsBack : ∀ value : α, ReadsBack value

/-! ## Lists and absent values -/

variable {α : Type} [JsonForm α]

theorem ReadsBack.list {items : List α} (each : ∀ item ∈ items, ReadsBack item) :
    ReadsBack items := by
  refine ⟨?_, nofun⟩
  have read : (items.map toJson).mapM ofJson? = some (items.map id) :=
    mapM_map_eq_some fun item member => (each item member).1
  rw [List.map_id] at read
  exact read

theorem readNullable_toJson {read : Json → Option α} {value : Option α}
    (each : ∀ held, value = some held → read (toJson held) = some held ∧ toJson held ≠ .null) :
    readNullable read (toJson value) = some value := by
  cases value with
  | none => rfl
  | some held =>
    obtain ⟨isRead, notNull⟩ := each held rfl
    change readNullable read (toJson held) = _
    unfold readNullable
    split
    · exact absurd ‹_› notNull
    · rw [isRead, Option.map_some]

/-! ## Reading fields -/

section Fields

variable [Lossless α]

@[simp] theorem ofJson_toJson (value : α) : ofJson? (toJson value) = some value :=
  (Lossless.readsBack value).1

@[simp] theorem required_toJson (value : α) : required (some (toJson value)) = some value :=
  ofJson_toJson value

@[simp] theorem orElse_toJson (absent value : α) :
    orElse absent (some (toJson value)) = some value :=
  ofJson_toJson value

@[simp] theorem orElse_toJson_option (absent value : Option α) :
    orElse absent (some (toJson value)) = some value :=
  readNullable_toJson fun held _ => Lossless.readsBack held

end Fields

theorem fields_record (fields : List (String × Json)) (names : List String) :
    (Json.record fields).fields? names = some (names.map fun name => fields.lookup name) := rfl

theorem onlyFields_record {fields : List (String × Json)} {names : List String}
    (known : (fields.all fun field => names.contains field.1) = true) :
    (Json.record fields).onlyFields? names =
      some (names.map fun name => fields.lookup name) :=
  if_pos known

/-! ## Simple values -/

instance : Lossless String where
  readsBack _ := ⟨rfl, nofun⟩

instance : Lossless Bool where
  readsBack _ := ⟨rfl, nofun⟩

instance : Lossless UInt8 where
  readsBack value := by
    refine ⟨?_, nofun⟩
    have small : value.toNat < UInt8.size := value.toNat_lt
    simp [toJson, ofJson?, small]

instance : Lossless UInt32 where
  readsBack value := by
    refine ⟨?_, nofun⟩
    have small : value.toNat < UInt32.size := value.toNat_lt
    simp [toJson, ofJson?, small]

instance : Lossless UInt64 where
  readsBack value := by
    refine ⟨?_, nofun⟩
    have small : value.toNat < UInt64.size := value.toNat_lt
    simp [toJson, ofJson?, small]

instance : Lossless Int64 where
  readsBack value := by
    refine ⟨?_, nofun⟩
    have inRange : Int64.minValue.toInt ≤ value.toInt ∧ value.toInt ≤ Int64.maxValue.toInt :=
      ⟨value.minValue_le_toInt, value.toInt_le⟩
    simp only [toJson, ofJson?]
    rw [if_pos inRange, Int64.ofInt_toInt]

instance [Lossless α] : Lossless (List α) where
  readsBack _ := .list fun item _ => Lossless.readsBack item

end Typescribe
