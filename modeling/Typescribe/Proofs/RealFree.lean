import Typescribe.Proofs.Records
/-!
# Models without reals

A real has no number in JSON. A value, and an element that holds values, reads back if there is
no real in it, and what is read from a JSON value that holds no real holds none either.
-/
set_option autoImplicit false

namespace Typescribe

/-! ## JSON values without reals -/

namespace Json

/-- A JSON value is another one or stands inside of it. -/
inductive Inside (inner : Json) : Json → Prop
  | same : Inside inner inner
  | item {items : List Json} {item : Json} (member : item ∈ items) (inside : Inside inner item) :
    Inside inner (.list items)
  | field {fields : List (String × Json)} {field : String × Json} (member : field ∈ fields)
    (inside : Inside inner field.2) : Inside inner (.record fields)

def RealFree (value : Json) : Prop :=
  ∀ carried, ¬ Inside (.record [("literal_real", carried)]) value

theorem RealFree.item {items : List Json} (free : RealFree (.list items)) {item : Json}
    (member : item ∈ items) : item.RealFree :=
  fun carried inside => free carried (.item member inside)

theorem RealFree.field {value : Json} (free : value.RealFree) {names : List String}
    {found : List (Option Json)} (isFound : value.fields? names = some found) {inner : Json}
    (member : some inner ∈ found) : inner.RealFree := by
  cases value with
  | record fields =>
    obtain rfl := Option.some.inj isFound
    obtain ⟨name, -, isField⟩ := List.mem_map.mp member
    obtain ⟨before, after, rfl, -⟩ := List.lookup_eq_some_iff.mp isField
    have isInside : (name, inner) ∈ before ++ (name, inner) :: after := by simp
    exact fun carried inside => free carried (.field isInside inside)
  | list items =>
    rw [fields?] at isFound
    split at isFound
    · obtain rfl := Option.some.inj isFound
      rcases List.mem_append.mp member with isItem | isAbsent
      · exact free.item (by simpa using isItem)
      · cases (List.mem_replicate.mp isAbsent).2
    · cases isFound
  | _ => cases isFound

end Json

/-! ## Values without reals -/

def ValueSpec.RealFree : ValueSpec → Prop
  | .real _ => False
  | _ => True

def Property.RealFree (property : Property) : Prop :=
  ∀ value, property.defaultValue = some value → value.RealFree

def EnumLiteral.RealFree (literal : EnumLiteral) : Prop :=
  ∀ value, literal.specification = some value → value.RealFree

def Class.RealFree (element : Class) : Prop := ∀ property ∈ element.attributes, property.RealFree

def Interface.RealFree (element : Interface) : Prop :=
  ∀ property ∈ element.attributes, property.RealFree

def Enumeration.RealFree (element : Enumeration) : Prop :=
  ∀ literal ∈ element.literals, literal.RealFree

theorem ValueSpec.readsBack {value : ValueSpec} (free : value.RealFree) :
    ReadsBack value ∧ ofJsonWithReals? (toJson value) = some value := by
  cases value with
  | real value => exact free.elim
  | integer value =>
    have read := congrArg (Option.map ValueSpec.integer) (ofJson_toJson value)
    exact ⟨⟨read, nofun⟩, read⟩
  | _ => exact ⟨⟨rfl, nofun⟩, rfl⟩

theorem Property.read_toJson {readValue : Json → Option ValueSpec} {property : Property}
    (value : readNullable readValue (toJson property.defaultValue) = some property.defaultValue) :
    read readValue (toJson property) = some property := by
  unfold read
  delta instJsonForm
  dsimp only [fields_record, List.map, Option.bind_eq_bind, Option.bind_some]
  simp [List.lookup_cons, readOrElse, value]

theorem Property.readsBack {property : Property} (free : property.RealFree) :
    ReadsBack property ∧ ofJsonWithReals? (toJson property) = some property := by
  have each (held : ValueSpec) (isHeld : property.defaultValue = some held) :=
    ValueSpec.readsBack (free held isHeld)
  exact ⟨⟨read_toJson (readNullable_toJson fun held isHeld => (each held isHeld).1), nofun⟩,
    read_toJson (readNullable_toJson fun held isHeld =>
      ⟨(each held isHeld).2, (each held isHeld).1.2⟩)⟩

theorem EnumLiteral.readsBack {literal : EnumLiteral} (free : literal.RealFree) :
    ReadsBack literal := by
  have value : readNullable ValueSpec.ofJsonWithReals? (toJson literal.specification) =
      some literal.specification := readNullable_toJson fun held isHeld =>
    have heldBack := ValueSpec.readsBack (free held isHeld)
    ⟨heldBack.2, heldBack.1.2⟩
  refine ⟨?_, nofun⟩
  delta instJsonForm
  dsimp only [fields_record, List.map, Option.bind_eq_bind, Option.bind_some]
  simp [List.lookup_cons, readOrElse, value]

theorem Class.readsBack {element : Class} (free : element.RealFree) : ReadsBack element := by
  have attributes : orElse [] (some (toJson element.attributes)) = some element.attributes :=
    (ReadsBack.list fun property member => (Property.readsBack (free property member)).1).1
  refine ⟨?_, nofun⟩
  delta instJsonForm
  dsimp only [fields_record, List.map, Option.bind_eq_bind, Option.bind_some]
  simp [List.lookup_cons, attributes]

theorem Interface.readsBack {element : Interface} (free : element.RealFree) :
    ReadsBack element := by
  have attributes : orElse [] (some (toJson element.attributes)) = some element.attributes :=
    (ReadsBack.list fun property member => (Property.readsBack (free property member)).1).1
  refine ⟨?_, nofun⟩
  delta instJsonForm
  dsimp only [fields_record, List.map, Option.bind_eq_bind, Option.bind_some]
  simp [List.lookup_cons, attributes]

theorem Enumeration.readsBack {element : Enumeration} (free : element.RealFree) :
    ReadsBack element := by
  have literals : orElse [] (some (toJson element.literals)) = some element.literals :=
    (ReadsBack.list fun literal member => EnumLiteral.readsBack (free literal member)).1
  refine ⟨?_, nofun⟩
  delta instJsonForm
  dsimp only [fields_record, List.map, Option.bind_eq_bind, Option.bind_some]
  simp [List.lookup_cons, literals]

/-! ## Reading gives no reals -/

/-- Only the reader for real literals reads one. -/
theorem ValueSpec.realFree_of_ofJson {value : Json} {spec : ValueSpec}
    (read : ofJson? value = some spec) : spec.RealFree := by
  delta instJsonForm at read
  obtain ⟨choice, -, read⟩ := Option.bind_eq_some_iff.mp read
  split at read
  case h_4 =>
    split at read
    · obtain rfl := Option.some.inj read
      trivial
    · cases read
  case h_6 => cases read
  all_goals
    obtain ⟨carried, -, rfl⟩ := Option.map_eq_some_iff.mp read
    trivial

theorem ValueSpec.realFree_of_ofJsonWithReals {value : Json} (free : value.RealFree)
    {spec : ValueSpec} (read : ofJsonWithReals? value = some spec) : spec.RealFree := by
  unfold ofJsonWithReals? at read
  split at read
  · exact absurd .same (free _)
  · exact realFree_of_ofJson read

theorem forall_of_readNullable {α : Type} {readValue : Json → Option α} {holds : α → Prop}
    {value : Json} (each : ∀ spec, readValue value = some spec → holds spec) {spec? : Option α}
    (read : readNullable readValue value = some spec?) :
    ∀ spec, spec? = some spec → holds spec := by
  rintro spec rfl
  unfold readNullable at read
  split at read
  · cases read
  · obtain ⟨given, isGiven, same⟩ := Option.map_eq_some_iff.mp read
    obtain rfl := Option.some.inj same
    exact each given isGiven

theorem forall_of_readField {α : Type} {readValue : Json → Option α} {holds : α → Prop}
    {field : Option Json}
    (each : ∀ value, field = some value → ∀ spec, readValue value = some spec → holds spec)
    {spec? : Option α} (read : readOrElse (readNullable readValue) none field = some spec?) :
    ∀ spec, spec? = some spec → holds spec := by
  cases field with
  | none =>
    obtain rfl := Option.some.inj read
    exact fun spec absent => nomatch absent
  | some value => exact forall_of_readNullable (each value rfl) read

theorem forall_of_readItems {α : Type} [JsonForm α] {holds : α → Prop} {field : Option Json}
    (each : ∀ items, field = some (.list items) → ∀ item ∈ items, ∀ record,
      ofJson? item = some record → holds record)
    {records : List α} (isRead : orElse [] field = some records) :
    ∀ record ∈ records, holds record := by
  cases field with
  | none =>
    obtain rfl := Option.some.inj isRead
    exact fun record absent => nomatch absent
  | some value =>
    cases value with
    | list items =>
      intro record member
      obtain ⟨item, isItem, readItem⟩ := exists_of_mapM_eq_some isRead record member
      exact each items rfl item isItem record readItem
    | _ => cases isRead

/-! ## Reading elements gives no reals -/

theorem Property.realFree_of_read {readValue : Json → Option ValueSpec} {value : Json}
    (each : ∀ inner, (value.RealFree → inner.RealFree) → ∀ spec,
      readValue inner = some spec → spec.RealFree)
    {property : Property} (isRead : read readValue value = some property) :
    property.RealFree := by
  unfold read at isRead
  obtain ⟨found, isFound, isRead⟩ := Option.bind_eq_some_iff.mp isRead
  split at isRead
  · dsimp only [Option.bind_eq_bind] at isRead
    simp only [↓Option.bind_eq_some_iff] at isRead
    obtain ⟨_, -, _, -, _, -, _, -, _, -, _, -, _, -, _, -, defaultValue, isValue, _, -, done⟩ :=
      isRead
    obtain rfl := Option.some.inj done
    exact forall_of_readField (fun inner isInner => each inner fun free =>
      free.field isFound (by simp [isInner])) isValue
  · cases isRead

theorem Property.realFree_of_ofJson {value : Json} {property : Property}
    (isRead : ofJson? value = some property) : property.RealFree :=
  realFree_of_read (fun _ _ _ => ValueSpec.realFree_of_ofJson) isRead

theorem Property.realFree_of_ofJsonWithReals {value : Json} (free : value.RealFree)
    {property : Property} (isRead : ofJsonWithReals? value = some property) :
    property.RealFree :=
  realFree_of_read (fun _ inside _ => ValueSpec.realFree_of_ofJsonWithReals (inside free)) isRead

theorem Class.realFree_of_ofJson {value : Json} {element : Class}
    (isRead : ofJson? value = some element) : element.RealFree := by
  delta instJsonForm at isRead
  obtain ⟨found, isFound, isRead⟩ := Option.bind_eq_some_iff.mp isRead
  split at isRead
  · dsimp only [Option.bind_eq_bind] at isRead
    simp only [↓Option.bind_eq_some_iff] at isRead
    obtain ⟨_, -, _, -, _, -, _, -, _, -, _, -, attributes, areAttributes, _, -, done⟩ := isRead
    obtain rfl := Option.some.inj done
    exact forall_of_readItems (fun _ _ _ _ _ => Property.realFree_of_ofJson) areAttributes
  · cases isRead

theorem Interface.realFree_of_ofJson {value : Json} {element : Interface}
    (isRead : ofJson? value = some element) : element.RealFree := by
  delta instJsonForm at isRead
  obtain ⟨found, isFound, isRead⟩ := Option.bind_eq_some_iff.mp isRead
  split at isRead
  · dsimp only [Option.bind_eq_bind] at isRead
    simp only [↓Option.bind_eq_some_iff] at isRead
    obtain ⟨_, -, _, -, _, -, _, -, attributes, areAttributes, _, -, done⟩ := isRead
    obtain rfl := Option.some.inj done
    exact forall_of_readItems (fun _ _ _ _ _ => Property.realFree_of_ofJson) areAttributes
  · cases isRead

theorem EnumLiteral.realFree_of_ofJson {value : Json} (free : value.RealFree)
    {literal : EnumLiteral} (isRead : ofJson? value = some literal) : literal.RealFree := by
  delta instJsonForm at isRead
  obtain ⟨found, isFound, isRead⟩ := Option.bind_eq_some_iff.mp isRead
  split at isRead
  · dsimp only [Option.bind_eq_bind] at isRead
    simp only [↓Option.bind_eq_some_iff] at isRead
    obtain ⟨_, -, _, -, specification, isValue, done⟩ := isRead
    obtain rfl := Option.some.inj done
    exact forall_of_readField (fun inner isInner _ => ValueSpec.realFree_of_ofJsonWithReals
      (free.field isFound (by simp [isInner]))) isValue
  · cases isRead

theorem Enumeration.realFree_of_ofJson {value : Json} (free : value.RealFree)
    {element : Enumeration} (isRead : ofJson? value = some element) : element.RealFree := by
  delta instJsonForm at isRead
  obtain ⟨found, isFound, isRead⟩ := Option.bind_eq_some_iff.mp isRead
  split at isRead
  · dsimp only [Option.bind_eq_bind] at isRead
    simp only [↓Option.bind_eq_some_iff] at isRead
    obtain ⟨_, -, _, -, _, -, literals, areLiterals, done⟩ := isRead
    obtain rfl := Option.some.inj done
    refine forall_of_readItems (fun items areItems item isItem _ => ?_) areLiterals
    have listFree : (Json.list items).RealFree := free.field isFound (by simp [areItems])
    exact EnumLiteral.realFree_of_ofJson (listFree.item isItem)
  · cases isRead

end Typescribe
