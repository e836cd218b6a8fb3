import Typescribe.Proofs.RealFree
/-!
# Definitions without callbacks

A callback has no JSON form. A definition can be written exactly if none of its decorators holds
one, it then reads back, and a definition that was read holds none.
-/
set_option autoImplicit false

namespace Typescribe

variable {κ : Type}

def CallbackFreeArguments (arguments : Option (Arguments κ)) : Prop :=
  ∀ run, arguments ≠ some (.callback run)

def Decorator.CallbackFree (decorator : Decorator κ) : Prop :=
  CallbackFreeArguments decorator.arguments

def CallbackFreeDecorators (decorators : List (Decorator κ)) : Prop :=
  ∀ decorator ∈ decorators, decorator.CallbackFree

namespace Decorator

/-! ## Arguments -/

theorem argumentsToJson_eq_none {arguments : Option (Arguments κ)} :
    argumentsToJson? arguments = none ↔ ¬ CallbackFreeArguments arguments := by
  cases arguments with
  | none => simp [argumentsToJson?, CallbackFreeArguments]
  | some arguments => cases arguments <;> simp [argumentsToJson?, CallbackFreeArguments]

theorem arguments_read_back {arguments : Option (Arguments κ)} {written : Json}
    (isWritten : argumentsToJson? arguments = some written) :
    argumentsOfJson? written = some arguments := by
  cases arguments with
  | none =>
    obtain rfl := Option.some.inj isWritten
    rfl
  | some arguments =>
    cases arguments with
    | text content =>
      obtain rfl := Option.some.inj isWritten
      rfl
    | callback run => cases isWritten

theorem callbackFree_of_argumentsOfJson {value : Json} {arguments : Option (Arguments κ)}
    (isRead : argumentsOfJson? value = some arguments) : CallbackFreeArguments arguments := by
  unfold argumentsOfJson? at isRead
  split at isRead
  · obtain rfl := Option.some.inj isRead
    intro run same
    cases same
  · obtain ⟨choice, -, isRead⟩ := Option.bind_eq_some_iff.mp isRead
    split at isRead
    · obtain ⟨content, -, rfl⟩ := Option.map_eq_some_iff.mp isRead
      intro run same
      cases same
    · cases isRead

/-! ## Decorators -/

theorem toJson_eq_none {decorator : Decorator κ} :
    decorator.toJson? = none ↔ ¬ decorator.CallbackFree := by
  rw [toJson?, Option.map_eq_none_iff, argumentsToJson_eq_none, CallbackFree]

theorem reads_back {decorator : Decorator κ} {written : Json}
    (isWritten : decorator.toJson? = some written) : ofJson? written = some decorator := by
  obtain ⟨arguments, areWritten, rfl⟩ := Option.map_eq_some_iff.mp isWritten
  unfold ofJson?
  dsimp only [fields_record, List.map, Option.bind_eq_bind, Option.bind_some]
  simp [List.lookup_cons, arguments_read_back areWritten]

theorem callbackFree_of_ofJson {value : Json} {decorator : Decorator κ}
    (isRead : ofJson? value = some decorator) : decorator.CallbackFree := by
  unfold ofJson? at isRead
  obtain ⟨found, isFound, isRead⟩ := Option.bind_eq_some_iff.mp isRead
  split at isRead
  · dsimp only [Option.bind_eq_bind] at isRead
    simp only [↓Option.bind_eq_some_iff] at isRead
    obtain ⟨_, -, _, -, isRead⟩ := isRead
    split at isRead
    · obtain ⟨arguments, areRead, done⟩ := Option.bind_eq_some_iff.mp isRead
      obtain rfl := Option.some.inj done
      exact callbackFree_of_argumentsOfJson areRead
    · obtain rfl := Option.some.inj isRead
      intro run same
      cases same
  · cases isRead

/-! ## Lists of decorators -/

theorem mapM_toJson_eq_none {decorators : List (Decorator κ)} :
    decorators.mapM toJson? = none ↔ ¬ CallbackFreeDecorators decorators := by
  induction decorators with
  | nil => simp [CallbackFreeDecorators]
  | cons decorator decorators ih =>
    have both : CallbackFreeDecorators (decorator :: decorators) ↔
        decorator.CallbackFree ∧ CallbackFreeDecorators decorators := List.forall_mem_cons
    rw [both, List.mapM_cons, Classical.not_and_iff_not_or_not, ← ih, ← toJson_eq_none]
    cases decorator.toJson? with
    | none => simp
    | some written => cases decorators.mapM toJson? <;> simp

theorem listField_eq_none {decorators : List (Decorator κ)} :
    listField? decorators = none ↔ ¬ CallbackFreeDecorators decorators := by
  rw [listField?]
  cases decorators with
  | nil => simp [CallbackFreeDecorators]
  | cons decorator decorators =>
    rw [List.isEmpty_cons, if_neg nofun, Option.map_eq_none_iff, mapM_toJson_eq_none]

theorem list_reads_back {decorators : List (Decorator κ)} {written : List Json}
    (isWritten : decorators.mapM toJson? = some written) :
    written.mapM ofJson? = some decorators := by
  induction decorators generalizing written with
  | nil =>
    obtain rfl := Option.some.inj isWritten
    rfl
  | cons decorator decorators ih =>
    rw [List.mapM_cons] at isWritten
    obtain ⟨first, isFirst, isWritten⟩ := Option.bind_eq_some_iff.mp isWritten
    obtain ⟨rest, isRest, done⟩ := Option.bind_eq_some_iff.mp isWritten
    obtain rfl := Option.some.inj done
    rw [List.mapM_cons, reads_back isFirst, ih isRest]
    rfl

theorem listField_reads_back {decorators : List (Decorator κ)} {fields : List (String × Json)}
    (isWritten : listField? decorators = some fields) :
    readList? (fields.lookup "decorators") = some decorators ∧
      ∀ name, name ≠ "decorators" → fields.lookup name = none := by
  rw [listField?] at isWritten
  cases decorators with
  | nil =>
    obtain rfl := Option.some.inj isWritten
    exact ⟨rfl, fun _ _ => rfl⟩
  | cons decorator decorators =>
    rw [List.isEmpty_cons, if_neg nofun] at isWritten
    obtain ⟨written, areWritten, rfl⟩ := Option.map_eq_some_iff.mp isWritten
    exact ⟨list_reads_back areWritten, fun name differs => by
      simp [List.lookup_cons, beq_eq_false_iff_ne.mpr differs]⟩

theorem callbackFree_of_readList {field : Option Json} {decorators : List (Decorator κ)}
    (areRead : readList? field = some decorators) : CallbackFreeDecorators decorators := by
  unfold readList? at areRead
  split at areRead
  · obtain rfl := Option.some.inj areRead
    exact List.forall_mem_nil _
  · intro decorator member
    obtain ⟨item, -, isRead⟩ := exists_of_mapM_eq_some areRead decorator member
    exact callbackFree_of_ofJson isRead
  · cases areRead

end Decorator

/-! ## Classes and properties -/

namespace ClassDefinition

theorem toJson_eq_none {definition : ClassDefinition κ} :
    definition.toJson? = none ↔ ¬ CallbackFreeDecorators definition.decorators := by
  rw [toJson?, Option.map_eq_none_iff, Decorator.listField_eq_none]

theorem reads_back {definition : ClassDefinition κ} {written : Json}
    (isWritten : definition.toJson? = some written) : ofJson? written = some definition := by
  obtain ⟨field, isField, rfl⟩ := Option.map_eq_some_iff.mp isWritten
  obtain ⟨decorators, others⟩ := Decorator.listField_reads_back isField
  unfold ofJson?
  dsimp only [fields_record, List.map, Option.bind_eq_bind, Option.bind_some]
  simp [List.lookup_cons, List.lookup_append, decorators, others]

theorem callbackFree_of_ofJson {value : Json} {definition : ClassDefinition κ}
    (isRead : ofJson? value = some definition) :
    CallbackFreeDecorators definition.decorators := by
  unfold ofJson? at isRead
  obtain ⟨found, isFound, isRead⟩ := Option.bind_eq_some_iff.mp isRead
  split at isRead
  · dsimp only [Option.bind_eq_bind] at isRead
    simp only [↓Option.bind_eq_some_iff] at isRead
    obtain ⟨_, -, _, -, _, -, _, -, decorators, areRead, _, -, _, -, _, -, done⟩ := isRead
    obtain rfl := Option.some.inj done
    exact Decorator.callbackFree_of_readList areRead
  · cases isRead

end ClassDefinition

namespace PropertyDefinition

theorem toJson_eq_none {definition : PropertyDefinition κ} :
    definition.toJson? = none ↔ ¬ CallbackFreeDecorators definition.decorators := by
  rw [toJson?, Option.map_eq_none_iff, Decorator.listField_eq_none]

theorem reads_back {definition : PropertyDefinition κ} {written : Json}
    (isWritten : definition.toJson? = some written) : ofJson? written = some definition := by
  obtain ⟨field, isField, rfl⟩ := Option.map_eq_some_iff.mp isWritten
  obtain ⟨decorators, others⟩ := Decorator.listField_reads_back isField
  unfold ofJson?
  dsimp only [fields_record, List.map, Option.bind_eq_bind, Option.bind_some]
  simp [List.lookup_cons, List.lookup_append, decorators, others]

theorem callbackFree_of_ofJson {value : Json} {definition : PropertyDefinition κ}
    (isRead : ofJson? value = some definition) :
    CallbackFreeDecorators definition.decorators := by
  unfold ofJson? at isRead
  obtain ⟨found, isFound, isRead⟩ := Option.bind_eq_some_iff.mp isRead
  split at isRead
  · dsimp only [Option.bind_eq_bind] at isRead
    simp only [↓Option.bind_eq_some_iff] at isRead
    obtain ⟨_, -, _, -, _, -, _, -, _, -, _, -, _, -, _, -, _, -, _, -, _, -, _, -, decorators,
      areRead, done⟩ := isRead
    obtain rfl := Option.some.inj done
    exact Decorator.callbackFree_of_readList areRead
  · cases isRead

end PropertyDefinition

end Typescribe
