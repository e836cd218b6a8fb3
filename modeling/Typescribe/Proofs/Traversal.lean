import Mathlib.Data.List.Forall2
/-!
# Lists built item by item

A build of a list succeeds just if each item does, and its values are those of the items in order.
What else is said of such builds follows from the two relations, one for failures with a reason and
one for absent values.
-/
set_option autoImplicit false

namespace Typescribe

/-! ## Outcomes -/

section Outcomes

variable {ε α β : Type} {given : Except ε α} {value : β}

theorem exists_of_map_eq_ok {change : α → β} (isOk : given.map change = .ok value) :
    ∃ source, given = .ok source ∧ change source = value := by
  cases given with
  | error failure => simp [Except.map] at isOk
  | ok source => exact ⟨source, rfl, Except.ok.inj isOk⟩

theorem exists_of_bind_eq_ok {next : α → Except ε β} (isOk : given.bind next = .ok value) :
    ∃ source, given = .ok source ∧ next source = .ok value := by
  cases given with
  | error failure => simp [Except.bind] at isOk
  | ok source => exact ⟨source, rfl, isOk⟩

end Outcomes

theorem exists_mem_of_forall₂ {α β : Type} {related : α → β → Prop} {items : List α}
    {values : List β} (areRelated : List.Forall₂ related items values) {value : β}
    (member : value ∈ values) : ∃ item ∈ items, related item value := by
  induction areRelated with
  | nil => cases member
  | cons isRelated others ih =>
    rcases List.mem_cons.mp member with rfl | inRest
    · exact ⟨_, List.mem_cons_self, isRelated⟩
    · obtain ⟨item, isItem, related⟩ := ih inRest
      exact ⟨item, List.mem_cons_of_mem _ isItem, related⟩

/-! ## Builds that can fail -/

section Builds

variable {ε α β γ : Type} {build : α → Except ε β} {items : List α} {values : List β}

theorem mapM_eq_ok_iff : items.mapM build = .ok values ↔
    List.Forall₂ (fun item value => build item = .ok value) items values := by
  constructor
  · intro isOk
    induction items generalizing values with
    | nil =>
      obtain rfl := Except.ok.inj isOk
      exact .nil
    | cons item items ih =>
      rw [List.mapM_cons] at isOk
      obtain ⟨head, isHead, others⟩ := exists_of_bind_eq_ok isOk
      obtain ⟨tail, isTail, both⟩ := exists_of_bind_eq_ok others
      obtain rfl := Except.ok.inj both
      exact .cons isHead (ih isTail)
  · intro areBuilt
    induction areBuilt with
    | nil => rfl
    | cons isHead others ih =>
      rw [List.mapM_cons, isHead, ih]
      rfl

theorem exists_of_mapM_eq_ok (isOk : items.mapM build = .ok values) :
    ∀ value ∈ values, ∃ item ∈ items, build item = .ok value := by
  intro value member
  exact exists_mem_of_forall₂ (mapM_eq_ok_iff.mp isOk) member

theorem map_eq_of_mapM_eq_ok {seen : α → γ} {shown : β → γ}
    (each : ∀ item value, build item = .ok value → shown value = seen item)
    (isOk : items.mapM build = .ok values) : values.map shown = items.map seen := by
  have same : List.Forall₂ (· = ·) (items.map seen) (values.map shown) := by
    rw [List.forall₂_map_left_iff, List.forall₂_map_right_iff]
    exact (mapM_eq_ok_iff.mp isOk).imp fun item value built => (each item value built).symm
  rw [List.forall₂_eq_eq_eq] at same
  exact same.symm

theorem forall₂_of_mapM {related : α → β → Prop}
    (each : ∀ item ∈ items, ∃ value, build item = .ok value ∧ related item value) :
    ∃ values, items.mapM build = .ok values ∧ List.Forall₂ related items values := by
  induction items with
  | nil => exact ⟨[], rfl, .nil⟩
  | cons item items ih =>
    obtain ⟨value, built, isRelated⟩ := each item (by simp)
    obtain ⟨values, others, areRelated⟩ := ih fun other member => each other (by simp [member])
    exact ⟨value :: values, mapM_eq_ok_iff.mpr (.cons built (mapM_eq_ok_iff.mp others)),
      .cons isRelated areRelated⟩

theorem mapM_eq_map_of_forall {change : α → β}
    (each : ∀ item ∈ items, build item = .ok (change item)) :
    items.mapM build = .ok (items.map change) := by
  rw [mapM_eq_ok_iff, List.forall₂_map_right_iff, List.forall₂_same]
  exact each

end Builds

/-! ## Readings that can be absent -/

section Readings

variable {α β γ : Type} {read : α → Option β}

theorem exists_of_map_fst_eq_some {given : Option (α × γ)} {change : α → β} {value : β} {rest : γ}
    (mapped : given.map (Prod.map change id) = some (value, rest)) :
    ∃ before, given = some (before, rest) := by
  obtain ⟨⟨before, behind⟩, isGiven, same⟩ := Option.map_eq_some_iff.mp mapped
  have sameRest : behind = rest := congrArg Prod.snd same
  exact ⟨before, by rw [isGiven, sameRest]⟩

theorem mapM_eq_some_iff {items : List α} {values : List β} : items.mapM read = some values ↔
    List.Forall₂ (fun item value => read item = some value) items values := by
  constructor
  · intro isRead
    induction items generalizing values with
    | nil =>
      obtain rfl := Option.some.inj isRead
      exact .nil
    | cons item items ih =>
      rw [List.mapM_cons] at isRead
      obtain ⟨head, isHead, others⟩ := Option.bind_eq_some_iff.mp isRead
      obtain ⟨tail, isTail, both⟩ := Option.bind_eq_some_iff.mp others
      obtain rfl := Option.some.inj both
      exact .cons isHead (ih isTail)
  · intro areRead
    induction areRead with
    | nil => rfl
    | cons isHead others ih =>
      rw [List.mapM_cons, isHead, ih]
      rfl

theorem exists_of_mapM_eq_some {items : List α} {values : List β}
    (isRead : items.mapM read = some values) :
    ∀ value ∈ values, ∃ item ∈ items, read item = some value := by
  intro value member
  exact exists_mem_of_forall₂ (mapM_eq_some_iff.mp isRead) member

theorem mapM_map_eq_some {items : List γ} {write : γ → α} {meant : γ → β}
    (each : ∀ item ∈ items, read (write item) = some (meant item)) :
    (items.map write).mapM read = some (items.map meant) := by
  rw [mapM_eq_some_iff, List.forall₂_map_left_iff, List.forall₂_map_right_iff, List.forall₂_same]
  exact each

end Readings

end Typescribe
