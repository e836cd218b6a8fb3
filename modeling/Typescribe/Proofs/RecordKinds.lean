import Typescribe.Program
import Typescribe.Proofs.CallbackFree
/-!
# The JSON form loses nothing

The kinds of records that have a JSON form, each with how it is written and read. Records
without reals and callbacks read back, only callbacks keep a record from being written, and
what is read from a value without reals is the same when it is written and read once more.
-/
set_option autoImplicit false

namespace Typescribe

/-! ## Forms -/

/-- How records of a kind are written and read, and what may keep them from it. -/
structure RecordForm (α : Type) where
  write : α → Option Json
  read : Json → Option α
  RealFree : α → Prop := fun _ => True
  CallbackFree : α → Prop := fun _ => True

namespace RecordForm

variable {α : Type}

def ofJsonForm (α : Type) [JsonForm α] : RecordForm α where
  write record := some (toJson record)
  read := ofJson?

def ofRealFree [JsonForm α] (read : Json → Option α) (RealFree : α → Prop) : RecordForm α where
  write record := some (toJson record)
  read
  RealFree

def Keeps (form : RecordForm α) (record : α) : Prop :=
  ∃ written, form.write record = some written ∧ form.read written = some record

structure LosesNothing (form : RecordForm α) : Prop where
  keeps : ∀ record, form.RealFree record → form.CallbackFree record → form.Keeps record
  fails : ∀ record, form.write record = none ↔ ¬ form.CallbackFree record
  /-- Whatever was absent, `null`, unknown or hidden in the value that was read. -/
  keepsRead : ∀ value record, value.RealFree → form.read value = some record → form.Keeps record

namespace LosesNothing

theorem ofJsonForm [JsonForm α] [Lossless α] : (RecordForm.ofJsonForm α).LosesNothing where
  keeps record _ _ := ⟨_, rfl, ofJson_toJson record⟩
  fails _ := ⟨nofun, fun holds => absurd trivial holds⟩
  keepsRead _ record _ _ := ⟨_, rfl, ofJson_toJson record⟩

theorem ofRealFree [JsonForm α] {read : Json → Option α} {RealFree : α → Prop}
    (readsBack : ∀ record, RealFree record → read (toJson record) = some record)
    (realFree : ∀ value record, value.RealFree → read value = some record → RealFree record) :
    (RecordForm.ofRealFree read RealFree).LosesNothing where
  keeps record free _ := ⟨_, rfl, readsBack record free⟩
  fails _ := ⟨nofun, fun holds => absurd trivial holds⟩
  keepsRead value record free isRead :=
    ⟨_, rfl, readsBack record (realFree value record free isRead)⟩

theorem ofCallbackFree {write : α → Option Json} {read : Json → Option α}
    {CallbackFree : α → Prop}
    (fails : ∀ record, write record = none ↔ ¬ CallbackFree record)
    (readsBack : ∀ record written, write record = some written → read written = some record)
    (callbackFree : ∀ value record, read value = some record → CallbackFree record) :
    LosesNothing { write, read, CallbackFree } := by
  have keeps (record : α) (free : CallbackFree record) :
      Keeps { write, read, CallbackFree } record := by
    cases isWritten : write record with
    | none => exact absurd free ((fails record).mp isWritten)
    | some written => exact ⟨written, isWritten, readsBack record written isWritten⟩
  exact ⟨fun record _ => keeps record, fails, fun value record _ isRead =>
    keeps record (callbackFree value record isRead)⟩

end LosesNothing

end RecordForm

/-! ## Kinds -/

/-- The index is the type of the records, and `κ` that of callbacks. -/
inductive RecordKind (κ : Type) : Type → Type
  | visibility : RecordKind κ Visibility
  | owner : RecordKind κ Owner
  | comment : RecordKind κ Comment
  | primitive : RecordKind κ Primitive
  | typeRef : RecordKind κ TypeRef
  | multiplicity : RecordKind κ Multiplicity
  | value : RecordKind κ ValueSpec
  | property : RecordKind κ Property
  | direction : RecordKind κ Direction
  | parameter : RecordKind κ Parameter
  | operation : RecordKind κ Operation
  | generalization : RecordKind κ Generalization
  | realization : RecordKind κ Realization
  | classElement : RecordKind κ Class
  | interfaceElement : RecordKind κ Interface
  | enumLiteral : RecordKind κ EnumLiteral
  | enumeration : RecordKind κ Enumeration
  | optionality : RecordKind κ Optionality
  | classFeatures : RecordKind κ ClassFeatures
  | interfaceFeatures : RecordKind κ InterfaceFeatures
  | enumFeatures : RecordKind κ EnumFeatures
  | propertyFeatures : RecordKind κ PropertyFeatures
  | functionFeatures : RecordKind κ FunctionFeatures
  | parameterFeatures : RecordKind κ ParameterFeatures
  | classOptions : RecordKind κ ClassOptions
  | interfaceOptions : RecordKind κ InterfaceOptions
  | enumOptions : RecordKind κ EnumOptions
  | stringLiteralOptions : RecordKind κ StringLiteralOptions
  | propertyOptions : RecordKind κ PropertyOptions
  | functionOptions : RecordKind κ FunctionOptions
  | writerOptions : RecordKind κ WriterOptions
  | indent : RecordKind κ Indent
  | configuration : RecordKind κ Configuration
  | accessModifier : RecordKind κ AccessModifier
  | variableKind : RecordKind κ VariableKind
  | arguments : RecordKind κ (Option (Arguments κ))
  | decorator : RecordKind κ (Decorator κ)
  | classDefinition : RecordKind κ (ClassDefinition κ)
  | interfaceDefinition : RecordKind κ InterfaceDefinition
  | enumValue : RecordKind κ EnumValue
  | enumMember : RecordKind κ EnumMember
  | enumDefinition : RecordKind κ EnumDefinition
  | stringLiteralType : RecordKind κ StringLiteralType
  | propertyDefinition : RecordKind κ (PropertyDefinition κ)
  | parameterDefinition : RecordKind κ ParameterDefinition
  | functionDefinition : RecordKind κ FunctionDefinition
  | variableDefinition : RecordKind κ VariableDefinition

namespace RecordKind

variable {κ : Type}

def form : {α : Type} → RecordKind κ α → RecordForm α
  | _, .visibility => .ofJsonForm _
  | _, .owner => .ofJsonForm _
  | _, .comment => .ofJsonForm _
  | _, .primitive => .ofJsonForm _
  | _, .typeRef => .ofJsonForm _
  | _, .multiplicity => .ofJsonForm _
  | _, .value => .ofRealFree ValueSpec.ofJsonWithReals? ValueSpec.RealFree
  | _, .property => .ofRealFree Property.ofJsonWithReals? Property.RealFree
  | _, .direction => .ofJsonForm _
  | _, .parameter => .ofJsonForm _
  | _, .operation => .ofJsonForm _
  | _, .generalization => .ofJsonForm _
  | _, .realization => .ofJsonForm _
  | _, .classElement => .ofRealFree ofJson? Class.RealFree
  | _, .interfaceElement => .ofRealFree ofJson? Interface.RealFree
  | _, .enumLiteral => .ofRealFree ofJson? EnumLiteral.RealFree
  | _, .enumeration => .ofRealFree ofJson? Enumeration.RealFree
  | _, .optionality => .ofJsonForm _
  | _, .classFeatures => .ofJsonForm _
  | _, .interfaceFeatures => .ofJsonForm _
  | _, .enumFeatures => .ofJsonForm _
  | _, .propertyFeatures => .ofJsonForm _
  | _, .functionFeatures => .ofJsonForm _
  | _, .parameterFeatures => .ofJsonForm _
  | _, .classOptions => .ofJsonForm _
  | _, .interfaceOptions => .ofJsonForm _
  | _, .enumOptions => .ofJsonForm _
  | _, .stringLiteralOptions => .ofJsonForm _
  | _, .propertyOptions => .ofJsonForm _
  | _, .functionOptions => .ofJsonForm _
  | _, .writerOptions => .ofJsonForm _
  | _, .indent => .ofJsonForm _
  | _, .configuration => .ofJsonForm _
  | _, .accessModifier => .ofJsonForm _
  | _, .variableKind => .ofJsonForm _
  | _, .arguments => {
      write := Decorator.argumentsToJson?
      read := Decorator.argumentsOfJson?
      CallbackFree := CallbackFreeArguments }
  | _, .decorator => {
      write := Decorator.toJson?
      read := Decorator.ofJson?
      CallbackFree := Decorator.CallbackFree }
  | _, .classDefinition => {
      write := ClassDefinition.toJson?
      read := ClassDefinition.ofJson?
      CallbackFree := fun definition => CallbackFreeDecorators definition.decorators }
  | _, .interfaceDefinition => .ofJsonForm _
  | _, .enumValue => .ofJsonForm _
  | _, .enumMember => .ofJsonForm _
  | _, .enumDefinition => .ofJsonForm _
  | _, .stringLiteralType => .ofJsonForm _
  | _, .propertyDefinition => {
      write := PropertyDefinition.toJson?
      read := PropertyDefinition.ofJson?
      CallbackFree := fun definition => CallbackFreeDecorators definition.decorators }
  | _, .parameterDefinition => .ofJsonForm _
  | _, .functionDefinition => .ofJsonForm _
  | _, .variableDefinition => .ofJsonForm _

end RecordKind

/-- Records of every kind read back, fail to be written only because of callbacks, and stay as they
are once they have been read. -/
theorem json_loses_nothing {κ α : Type} (kind : RecordKind κ α) : kind.form.LosesNothing := by
  cases kind with
  | value =>
    exact .ofRealFree (fun value free => (ValueSpec.readsBack free).2)
      fun _ _ free => ValueSpec.realFree_of_ofJsonWithReals free
  | property =>
    exact .ofRealFree (fun property free => (Property.readsBack free).2)
      fun _ _ free => Property.realFree_of_ofJsonWithReals free
  | classElement =>
    exact .ofRealFree (fun element free => (Class.readsBack free).1)
      fun _ _ _ => Class.realFree_of_ofJson
  | interfaceElement =>
    exact .ofRealFree (fun element free => (Interface.readsBack free).1)
      fun _ _ _ => Interface.realFree_of_ofJson
  | enumLiteral =>
    exact .ofRealFree (fun literal free => (EnumLiteral.readsBack free).1)
      fun _ _ free => EnumLiteral.realFree_of_ofJson free
  | enumeration =>
    exact .ofRealFree (fun element free => (Enumeration.readsBack free).1)
      fun _ _ free => Enumeration.realFree_of_ofJson free
  | arguments =>
    exact .ofCallbackFree (fun _ => Decorator.argumentsToJson_eq_none)
      (fun _ _ => Decorator.arguments_read_back)
      fun _ _ => Decorator.callbackFree_of_argumentsOfJson
  | decorator =>
    exact .ofCallbackFree (fun _ => Decorator.toJson_eq_none) (fun _ _ => Decorator.reads_back)
      fun _ _ => Decorator.callbackFree_of_ofJson
  | classDefinition =>
    exact .ofCallbackFree (fun _ => ClassDefinition.toJson_eq_none)
      (fun _ _ => ClassDefinition.reads_back) fun _ _ => ClassDefinition.callbackFree_of_ofJson
  | propertyDefinition =>
    exact .ofCallbackFree (fun _ => PropertyDefinition.toJson_eq_none)
      (fun _ _ => PropertyDefinition.reads_back)
      fun _ _ => PropertyDefinition.callbackFree_of_ofJson
  | _ => exact .ofJsonForm

theorem class_records_are_kept :
    let options : ClassOptions := { features := some ⟨0xF1⟩, legacyPrefix := some "" }
    let literal : ClassDefinition Program :=
      { name := "A", decorators := [{ name := "D", arguments := some (.text "x") }] }
    let calling : ClassDefinition Program :=
      { name := "A", decorators := [{ name := "D", arguments := some (.callback []) }] }
    (RecordKind.classOptions : RecordKind Program _).form.Keeps options ∧
      RecordKind.classDefinition.form.Keeps literal ∧
      RecordKind.classDefinition.form.write calling = none := by
  intro options literal calling
  refine ⟨(json_loses_nothing .classOptions).keeps options trivial trivial,
    (json_loses_nothing .classDefinition).keeps literal trivial fun decorator member run => ?_,
    ((json_loses_nothing .classDefinition).fails calling).mpr fun free => ?_⟩
  · obtain rfl := List.mem_singleton.mp member
    nofun
  · exact free _ (List.mem_singleton.mpr rfl) [] rfl

end Typescribe
