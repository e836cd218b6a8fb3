import Typescribe.Proofs.Optionality
/-!
# Members of interfaces

The body of an interface admits neither access modifiers nor `static` or `abstract`, and neither
assertion marks nor initializers. What is resolved for a member that an interface owns leaves most
of these out, whatever the options say. Two are not looked at: a static member keeps its keyword,
and so do the parameters of a constructor that have a visibility.
-/
set_option autoImplicit false

namespace Typescribe

/-- The modifiers that only members of classes can have. -/
def classModifiers : List String := ["public", "private", "protected", "static", "abstract"]

def Member.IsBare (member : Member) : Prop := ∀ keyword ∈ member.keywords, keyword ∉ classModifiers

/-! ## Owners -/

/-- The interfaces that are made by a chain of calls. -/
inductive Interface.Made : Interface → Prop
  | ofName (name : String) : Made (.ofName name)
  | withVisibility {element : Interface} (made : Made element)
      (visibility : Option Visibility) : Made { element with visibility }
  | withComment {element : Interface} (made : Made element) (body : String) :
      Made (element.withComment body)
  | extending {element : Interface} (made : Made element) (general : TypeRef) :
      Made (element.extending general)
  | withAttribute {element : Interface} (made : Made element) (property : Property) :
      Made (element.withAttribute property)
  | withOperation {element : Interface} (made : Made element) (operation : Operation) :
      Made (element.withOperation operation)

structure Interface.OwnsMembers (element : Interface) : Prop where
  attributes : ∀ property ∈ element.attributes, property.owner = .ofInterface
  operations : ∀ operation ∈ element.operations, operation.owner = .ofInterface

theorem Interface.ownsMembers_of_made {element : Interface} (made : element.Made) :
    element.OwnsMembers := by
  induction made with
  | ofName name => exact ⟨List.forall_mem_nil _, List.forall_mem_nil _⟩
  | withVisibility made visibility owns => exact ⟨owns.attributes, owns.operations⟩
  | withComment made body owns => exact ⟨owns.attributes, owns.operations⟩
  | extending made general owns => exact ⟨owns.attributes, owns.operations⟩
  | withAttribute made property owns =>
    refine ⟨?_, owns.operations⟩
    exact List.forall_mem_append.mpr ⟨owns.attributes, List.forall_mem_singleton.mpr rfl⟩
  | withOperation made operation owns =>
    refine ⟨owns.attributes, ?_⟩
    exact List.forall_mem_append.mpr ⟨owns.operations, List.forall_mem_singleton.mpr rfl⟩

/-! ## Keywords -/

namespace Member

variable {member : Member}

theorem isBare_iff_of_static {isStatic isReadonly : Bool}
    (keywords : member.keywords =
      keywordIf isStatic "static" ++ keywordIf isReadonly "readonly") :
    member.IsBare ↔ isStatic = false := by
  rw [IsBare, keywords]
  cases isStatic <;> cases isReadonly <;> simp [keywordIf, classModifiers]

theorem isBare_iff_of_access {access : Option AccessModifier}
    (keywords : member.keywords = accessKeywords access) : member.IsBare ↔ access = none := by
  rw [IsBare, keywords]
  cases access with
  | none => simp [accessKeywords]
  | some access => cases access <;> simp [accessKeywords, AccessModifier.keyword, classModifiers]

end Member

namespace Resolver

variable {resolver : Resolver}

theorem property_of_interface {κ : Type} {property : Property}
    (owned : property.owner = .ofInterface) {decorators : List (Decorator κ)}
    {options : PropertyOptions} {definition : PropertyDefinition κ}
    (built : resolver.propertyDefinition property decorators options = .ok definition) :
    definition.access = none ∧ definition.isStatic = property.isStatic ∧
      definition.defaultValue = none ∧ definition.usesDefiniteAssignment = false := by
  obtain ⟨name, -, rfl⟩ := exists_of_map_eq_ok built
  have inInterface : property.owner.isInterface = true := by rw [owned]; rfl
  simp [inInterface]

theorem function_of_interface {operation : Operation} (owned : operation.owner = .ofInterface)
    {options : FunctionOptions} {definition : FunctionDefinition}
    (built : resolver.functionDefinition operation options = .ok definition) :
    definition.isConstructor = operation.isConstructor ∧ definition.access = none ∧
      definition.isStatic = operation.isStatic ∧ definition.isAbstract = false := by
  unfold functionDefinition at built
  obtain ⟨name, -, isDefinition⟩ := exists_of_bind_eq_ok built
  obtain ⟨parameters, -, rfl⟩ := exists_of_map_eq_ok isDefinition
  have inInterface : operation.owner.isInterface = true := by rw [owned]; rfl
  simp [inInterface]

end Resolver

/-! ## Properties -/

structure InterfaceProperty (writer : Writer) (property : Property) (options : PropertyOptions)
    (paragraphs : List String) (member : Member) : Prop where
  result : (Step.perform (.writeProperty property [] options) writer).result = .done
  text : (Step.perform (.writeProperty property [] options) writer).writer.text =
    writer.text ++ docText writer.margin writer.commentWidth (Docs.paragraphLines paragraphs)
      ++ lineText writer.margin (member.text ++ ";")
  shows : member.Shows property.name (writer.builder.resolver.elementTypeName property.type)
    (property.site options)
  mark : member.mark ≠ "!"
  bare : member.IsBare ↔ property.isStatic = false

theorem exists_interfaceProperty (writer : Writer) {property : Property}
    (owned : property.owner = .ofInterface) (named : property.name ≠ "")
    (options : PropertyOptions) :
    ∃ paragraphs member, InterfaceProperty writer property options paragraphs member := by
  obtain ⟨definition, built, sameDecorators, shows⟩ :=
    writer.builder.resolver.shows_of_property named ([] : List (Decorator Callback)) options
  obtain ⟨noAccess, isStatic, noDefault, noAssertion⟩ :=
    Resolver.property_of_interface owned built
  have performed : Step.perform (.writeProperty property [] options) writer =
      .ofWrite (fun _ => none) (.ok (), writer.property definition) := by
    rw [Step.perform, Step.callbacks, Writer.writeProperty, built]
  have content : definition.content = definition.member.text ++ ";" := by
    rw [definition.content_eq_member, PropertyDefinition.initializerText, noDefault,
      String.append_empty]
  refine ⟨definition.description, definition.member, ?_, ?_, shows, ?_, ?_⟩
  · rw [performed]
    rfl
  · have line : writer.property definition =
        (writer.docParagraphs definition.description).line (definition.member.text ++ ";") := by
      rw [Writer.property, sameDecorators, content]
      rfl
    rw [performed, Performed.writer_ofWrite, line, Writer.docParagraphs_eq_write,
      Writer.line_eq_write, Writer.write_write, Writer.text_write, String.append_assoc,
      Writer.margin_write]
  · have notLater : definition.assignedLater = false := by
      simp [PropertyDefinition.assignedLater, noAssertion]
    rw [Ne, PropertyDefinition.member, PropertyDefinition.mark_eq_exclamation_iff, notLater]
    exact Bool.false_ne_true
  · have keywords : definition.member.keywords =
        keywordIf definition.isStatic "static" ++ keywordIf definition.isReadonly "readonly" := by
      rw [PropertyDefinition.member, noAccess]
      rfl
    rw [← isStatic]
    exact Member.isBare_iff_of_static keywords

/-! ## Functions -/

def Parameter.access (parameter : Parameter) : Option AccessModifier :=
  parameter.visibility.bind AccessModifier.ofVisibility?

theorem Resolver.accesses_of_function {resolver : Resolver} {operation : Operation}
    {options : FunctionOptions} {definition : FunctionDefinition}
    (built : resolver.functionDefinition operation options = .ok definition) :
    definition.parameters.map (fun parameter =>
        (parameter.isResult, parameter.shownAccess operation.isConstructor)) =
      operation.parameters.map fun parameter =>
        (parameter.isResult, if operation.isConstructor then parameter.access else none) := by
  unfold functionDefinition at built
  obtain ⟨name, -, isDefinition⟩ := exists_of_bind_eq_ok built
  obtain ⟨parameters, isParameters, rfl⟩ := exists_of_map_eq_ok isDefinition
  refine map_eq_of_mapM_eq_ok (fun parameter value isValue => ?_) isParameters
  obtain ⟨name, -, rfl⟩ := exists_of_map_eq_ok isValue
  cases operation.isConstructor <;> rfl

theorem FunctionDefinition.forall_inputMembers_isBare_iff (definition : FunctionDefinition) :
    (∀ member ∈ definition.inputMembers, member.IsBare) ↔
      ∀ parameter ∈ definition.parameters, parameter.isResult = false →
        parameter.shownAccess definition.isConstructor = none := by
  have bare (parameter : ParameterDefinition) :
      (parameter.member definition.isConstructor).IsBare ↔
        parameter.shownAccess definition.isConstructor = none :=
    Member.isBare_iff_of_access rfl
  rw [inputMembers, List.forall_mem_map]
  simp [inputs, bare]

structure InterfaceFunction (writer : Writer) (operation : Operation)
    (definition : FunctionDefinition) : Prop where
  text : (writer.functionDeclaration definition).text =
    writer.text ++ docText writer.margin writer.commentWidth (Docs.functionLines definition)
      ++ (writer.margin ++ definition.head ++ "("
        ++ parametersText definition.multiLineSignature writer.margin writer.innerMargin
          (definition.inputMembers.map Member.text)
        ++ ")" ++ definition.tail) ++ ";\n"
  head : if operation.isConstructor then definition.head = "constructor"
    else definition.head = definition.member.front ∧
      (definition.member.IsBare ↔ operation.isStatic = false)
  parameters : (∀ member ∈ definition.inputMembers, member.IsBare) ↔
    (operation.isConstructor = true → ∀ parameter ∈ operation.parameters,
      parameter.isResult = false → parameter.access = none)

theorem interfaceFunction_of_built (writer : Writer) {resolver : Resolver} {operation : Operation}
    (owned : operation.owner = .ofInterface) {options : FunctionOptions}
    {definition : FunctionDefinition}
    (built : resolver.functionDefinition operation options = .ok definition) :
    InterfaceFunction writer operation definition := by
  obtain ⟨isConstructor, noAccess, isStatic, concrete⟩ := Resolver.function_of_interface owned built
  refine ⟨?_, ?_, ?_⟩
  · rw [Writer.functionDeclaration, Writer.endLine_eq_write, Writer.text_write,
      Writer.signature_eq_write, Writer.text_write, signatureText,
      FunctionDefinition.parameterListText_eq, FunctionDefinition.parameterTexts_eq_members]
    simp only [String.append_assoc]
    rfl
  · cases kind : operation.isConstructor with
    | true =>
      rw [kind] at isConstructor
      simp [FunctionDefinition.head, isConstructor]
    | false =>
      rw [kind] at isConstructor
      have keywords : definition.member.keywords =
          keywordIf definition.isStatic "static" ++ keywordIf false "readonly" := by
        rw [FunctionDefinition.member, noAccess, concrete, Bool.and_false]
        rfl
      rw [← isStatic]
      exact ⟨FunctionDefinition.head_eq_member isConstructor,
        Member.isBare_iff_of_static keywords⟩
  · have accesses := Resolver.accesses_of_function built
    rw [definition.forall_inputMembers_isBare_iff, isConstructor]
    have seen : (∀ parameter ∈ definition.parameters, parameter.isResult = false →
        parameter.shownAccess operation.isConstructor = none) ↔
      ∀ shown ∈ operation.parameters.map fun parameter =>
          (parameter.isResult, if operation.isConstructor then parameter.access else none),
        shown.1 = false → shown.2 = none := by
      rw [← accesses, List.forall_mem_map]
    rw [seen, List.forall_mem_map]
    cases operation.isConstructor <;> simp

/-- A member that an interface owns has no mark, no initializer and no modifier of members of
classes but `static`, which is there if the member is static; parameters of constructors keep their
access modifiers. -/
theorem interface_members_keep_only_static (element : Interface) (writer : Writer)
    (property : Property) (propertyOptions : PropertyOptions) (resolver : Resolver)
    (operation : Operation) (functionOptions : FunctionOptions) (definition : FunctionDefinition) :
    (element.Made → element.OwnsMembers) ∧
    (property.owner = .ofInterface → property.name ≠ "" →
      ∃ paragraphs member, InterfaceProperty writer property propertyOptions paragraphs member) ∧
    (operation.owner = .ofInterface →
      resolver.functionDefinition operation functionOptions = .ok definition →
      InterfaceFunction writer operation definition) := by
  refine ⟨Interface.ownsMembers_of_made, ?_, ?_⟩
  · intro owned named
    exact exists_interfaceProperty writer owned named propertyOptions
  · intro owned built
    exact interfaceFunction_of_built writer owned built

theorem hidden_members_are_bare_in_interfaces :
    let property : Property := {
      name := "a", visibility := some .priv, type := some (.primitive .real)
      defaultValue := some (.integer 1), isDerived := true, owner := .ofInterface }
    let options : PropertyOptions := { features := some .all, initializePrimitive := true }
    let operation : Operation :=
      { name := "f", visibility := some .prot, isAbstract := true, owner := .ofInterface }
    let definition := FunctionDefinition.ofName "f"
    let element := ((Interface.ofName "I").withOperation operation).withAttribute property
    element.OwnsMembers ∧
    (Step.perform (.writeProperty property [] options) {}).writer.text =
      "readonly a: number;\n" ∧
    (∃ paragraphs member, InterfaceProperty {} property options paragraphs member) ∧
    ({} : Resolver).functionDefinition operation {} = .ok definition ∧
    (({} : Writer).functionDeclaration definition).text = "f(): void;\n" ∧
    InterfaceFunction {} operation definition := by
  intro property options operation definition element
  have made : element.Made := .withAttribute (.withOperation (.ofName "I") operation) property
  obtain ⟨owns, shownProperty, shownFunction⟩ := interface_members_keep_only_static element {}
    property options {} operation {} definition
  exact ⟨owns made, by decide, shownProperty rfl (by decide), rfl, by decide,
    shownFunction rfl rfl⟩

/-- Parameters of a constructor keep their modifiers too. -/
theorem static_interface_members_are_not_bare :
    let property : Property := { name := "a", isStatic := true, owner := .ofInterface }
    let function : Operation := { name := "f", isStatic := true, owner := .ofInterface }
    let constructor : Operation := { Operation.constructor with
      parameters := [{ name := "x", visibility := some .priv }], owner := .ofInterface }
    let shown (operation : Operation) : Except BuildFailure String :=
      (({} : Resolver).functionDefinition operation {}).map fun definition =>
        (({} : Writer).functionDeclaration definition).text
    (Step.perform (.writeProperty property [] {}) {}).writer.text = "static a: any;\n" ∧
      shown function = .ok "static f(): void;\n" ∧
      shown constructor = .ok "constructor(private x: any);\n" := by
  intro property function constructor shown
  exact ⟨by decide, rfl, rfl⟩

end Typescribe
