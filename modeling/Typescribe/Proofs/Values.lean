import Typescribe.Proofs.Initializers
import Typescribe.Proofs.Literals
import Typescribe.Proofs.Optionality
/-!
# A value in an enum and in a property

The same value of the model is written by two rules. As the initializer of a property it keeps
its kind: a text is quoted, and every other value is written as it is. As the value of an enum
member it is an integer or a text, so whatever is not an integer is quoted. The two agree on texts
and on integers alone.
-/
set_option autoImplicit false

namespace Typescribe

/-! ## Quotes -/

namespace Text

theorem length_escaped (letter : Char) : 1 ≤ (escaped letter).length := by
  rw [escaped]
  repeat' split
  all_goals simp

theorem length_le_quoted (text : List Char) : text.length + 2 ≤ (quoted text).length := by
  have inside : text.length ≤ (text.flatMap escaped).length := by
    induction text with
    | nil => exact Nat.le_refl 0
    | cons letter text ih =>
      have first := length_escaped letter
      simp only [List.flatMap_cons, List.length_append, List.length_cons]
      omega
  simp only [quoted, List.length_cons, List.length_append, List.length_nil]
  omega

theorem quotedString_ne (text : String) : quotedString text ≠ text := by
  intro same
  have longer := length_le_quoted text.toList
  have equal : quoted text.toList = text.toList := by
    rw [← String.toList_inj, quotedString, String.toList_ofList] at same
    exact same
  rw [equal] at longer
  omega

end Text

/-! ## Two rules -/

namespace ValueSpec

def quotedIf (condition : Bool) (value : ValueSpec) : String :=
  if condition then Text.quotedString value.plainText else value.plainText

theorem render_eq_quotedIf (value : ValueSpec) :
    DefaultRequest.render value = value.quotedIf value.isText := by
  cases value <;> rfl

theorem render_enumValue (value : ValueSpec) :
    (Resolver.enumValue value).render = value.quotedIf (!value.isInteger) := by
  cases value <;> rfl

theorem quotedIf_inj (value : ValueSpec) {first second : Bool} :
    value.quotedIf first = value.quotedIf second ↔ first = second := by
  have quotes : Text.quotedString value.plainText ≠ value.plainText := Text.quotedString_ne _
  cases first <;> cases second <;> simp [quotedIf, quotes, quotes.symm]

theorem kinds_agree_iff (value : ValueSpec) :
    (!value.isInteger) = value.isText ↔ value.isText = true ∨ value.isInteger = true := by
  cases value <;> simp [isInteger, isText]

end ValueSpec

/-! ## Members of enums -/

namespace Resolver

def namedMember (features : EnumFeatures) (literal : EnumLiteral) : EnumMember where
  name := literal.name
  description := if features.description then commentBodies literal.comments else []
  value := if features.initializers then literal.specification.map enumValue else none

theorem enumMember_of_named (features : EnumFeatures) {literal : EnumLiteral}
    (named : literal.name ≠ "") :
    enumMember features literal = .ok (namedMember features literal) := by
  rw [enumMember, requiredName_of_ne named]
  rfl

/-- The literals of an enum decide about its members and about nothing else. -/
theorem exists_enum_of_named {element : Enumeration} (named : element.name ≠ "")
    (options : EnumOptions) :
    ∃ definition : EnumDefinition, ∀ literals : List EnumLiteral,
      (∀ literal ∈ literals, literal.name ≠ "") →
      (enumDefinition { element with literals } options).result = .ok { definition with
        members := literals.map (namedMember (options.features.getD .all)) } := by
  obtain ⟨definition, isDefinition⟩ : ∃ definition,
      (enumDefinition { element with literals := [] } options).result = .ok definition := by
    simp only [enumDefinition, requiredName_of_ne named]
    exact ⟨_, rfl⟩
  refine ⟨definition, fun literals areNamed => ?_⟩
  have members := mapM_eq_map_of_forall fun literal member =>
    enumMember_of_named (options.features.getD .all) (areNamed literal member)
  simp only [enumDefinition, requiredName_of_ne named, members] at isDefinition ⊢
  cases isDefinition
  rfl

end Resolver

namespace Writer

theorem text_enum_values (definition : EnumDefinition) (earlier later : List EnumMember)
    (member : EnumMember) (writer : Writer) :
    ∃ front rest, ∀ value : EnumValue, (writer.enum { definition with
        members := earlier ++ { member with value := some value } :: later }).text =
      writer.text ++ front ++ member.name ++ " = " ++ value.render
        ++ (if later.isEmpty then "\n" else ",\n") ++ rest := by
  obtain ⟨front, rest, parts⟩ := membersText_split_values writer.innerMargin writer.commentWidth
    earlier later member
  refine ⟨docText writer.margin writer.commentWidth (Docs.paragraphLines definition.description)
    ++ lineText writer.margin (definition.header ++ " \x7b") ++ front,
    rest ++ lineText writer.margin "\x7d", fun value => ?_⟩
  have content : { member with value := some value : EnumMember }.content =
      member.name ++ (" = " ++ value.render) := rfl
  rw [enum_eq_write, text_write, parts, content]
  simp only [String.append_assoc]
  rfl

theorem text_enum_noting {α : Type} (outcome : Outcome α) (definition : EnumDefinition)
    (writer : Writer) :
    ((writer.noting outcome).enum definition).text = (writer.enum definition).text := by
  rw [enum_eq_write, enum_eq_write]
  rfl

end Writer

theorem text_writeEnumeration_values (writer : Writer) {element : Enumeration}
    (named : element.name ≠ "") {earlier later : List EnumLiteral} {literal : EnumLiteral}
    (literalsNamed : ∀ other ∈ earlier ++ literal :: later, other.name ≠ "")
    {options : EnumOptions} (initializes : (options.features.getD .all).initializers = true) :
    ∃ front rest, ∀ value : ValueSpec,
      (Step.perform (.writeEnumeration { element with
          literals := earlier ++ { literal with specification := some value } :: later } options)
        writer).writer.text =
      writer.text ++ front ++ literal.name ++ " = " ++ value.quotedIf (!value.isInteger)
        ++ (if later.isEmpty then "\n" else ",\n") ++ rest := by
  obtain ⟨definition, built⟩ := Resolver.exists_enum_of_named named options
  let shown := Resolver.namedMember (options.features.getD .all)
  obtain ⟨front, rest, text⟩ := writer.text_enum_values definition (earlier.map shown)
    (later.map shown) (shown literal)
  refine ⟨front, rest, fun value => ?_⟩
  have areNamed : ∀ other ∈ earlier ++ { literal with specification := some value } :: later,
      other.name ≠ "" := by
    simp only [List.forall_mem_append, List.forall_mem_cons] at literalsNamed ⊢
    exact literalsNamed
  have members : (earlier ++ { literal with specification := some value } :: later).map shown =
      earlier.map shown ++ { shown literal with value := some (Resolver.enumValue value) }
        :: later.map shown := by
    simp [shown, Resolver.namedMember, initializes]
  have built := built _ areNamed
  rw [members] at built
  rw [Step.perform, Performed.writer_ofWrite, Writer.writeEnumeration, built]
  dsimp only
  rw [Writer.text_enum_noting, text, ValueSpec.render_enumValue, List.isEmpty_map]
  rfl

/-! ## Properties -/

namespace Resolver

variable {κ : Type}

theorem exists_property_for_values (resolver : Resolver) {property : Property}
    (named : property.name ≠ "") (single : property.multiplicity.isMultivalued = false)
    (primitive : isPrimitiveName (resolver.elementTypeName property.type) = true)
    (decorators : List (Decorator κ)) {options : PropertyOptions}
    (admits : admitsInitializer property options = true) :
    ∃ definition : PropertyDefinition κ, definition.decorators = decorators ∧
      ∀ value : ValueSpec, resolver.propertyDefinition
          { property with defaultValue := some value } decorators options =
        .ok { definition with defaultValue := some (DefaultRequest.render value) } := by
  have initial (value : ValueSpec) :
      (resolver.request { property with defaultValue := some value } options).initializer =
        some (DefaultRequest.render value) := by
    simp [DefaultRequest.initializer, request, single, primitive]
  have start (value : ValueSpec) : ∃ definition, resolver.propertyDefinition
      { property with defaultValue := some value } decorators options = .ok definition := by
    rw [propertyDefinition, requiredName_of_ne named]
    exact ⟨_, rfl⟩
  obtain ⟨definition, built⟩ := start .null
  refine ⟨definition, decorators_of_property built, fun value => ?_⟩
  obtain ⟨other, again⟩ := start value
  have given := (defaultValue_of_property again).trans (if_pos admits)
  have before := (defaultValue_of_property built).trans (if_pos admits)
  rw [initial] at given before
  rw [again]
  obtain ⟨name, isName, rfl⟩ := exists_of_map_eq_ok again
  obtain ⟨same, isSame, rfl⟩ := exists_of_map_eq_ok built
  obtain rfl : name = same := (eq_of_requiredName isName).trans (eq_of_requiredName isSame).symm
  dsimp only at given before
  simp only [given, before, Option.isNone_some]
  rfl

end Resolver

namespace Writer

theorem text_property_values (definition : PropertyDefinition Callback)
    (callbacks : ∀ decorator ∈ definition.decorators, decorator.EachCallback Blind)
    (writer : Writer) :
    ∃ front, ∀ initializer : String,
      (writer.property { definition with defaultValue := some initializer }).text =
        writer.text ++ front ++ " = " ++ initializer ++ ";\n" := by
  have lead := ((Blind.docParagraphs definition.description).andThen Blind.startLine).andThen
    (Blind.decoratorPieces callbacks)
  obtain ⟨-, -, front, leadText, -⟩ := lead writer writer (Alike.refl writer)
  let shown : PropertyDefinition Callback := { definition with defaultValue := some "" }
  refine ⟨front ++ shown.member.text, fun initializer => ?_⟩
  have content : { definition with defaultValue := some initializer }.content =
      shown.member.text ++ (" = " ++ initializer) ++ ";" :=
    PropertyDefinition.content_eq_member _
  have ending : ";" ++ "\n" = ";\n" := rfl
  rw [property, endLine_eq_write, text_write, leadText, content]
  simp only [String.append_assoc, ending]

end Writer

theorem text_writeProperty_values (writer : Writer) {property : Property}
    (named : property.name ≠ "") (single : property.multiplicity.isMultivalued = false)
    (primitive :
      isPrimitiveName (writer.builder.resolver.elementTypeName property.type) = true)
    (decorators : List (Decorator Program)) {options : PropertyOptions}
    (admits : Resolver.admitsInitializer property options = true) :
    ∃ front, ∀ value : ValueSpec,
      (Step.perform (.writeProperty { property with defaultValue := some value } decorators
          options) writer).writer.text =
        writer.text ++ front ++ " = " ++ value.quotedIf value.isText ++ ";\n" := by
  obtain ⟨definition, sameDecorators, built⟩ := writer.builder.resolver.exists_property_for_values
    named single primitive (Step.callbacks decorators) admits
  have callbacks : ∀ decorator ∈ definition.decorators, decorator.EachCallback Blind := by
    rw [sameDecorators]
    exact Step.eachCallback fun program _ => Blind.run program
  obtain ⟨front, text⟩ := writer.text_property_values definition callbacks
  refine ⟨front, fun value => ?_⟩
  rw [Step.perform, Performed.writer_ofWrite, Writer.writeProperty, built]
  exact (text _).trans (by rw [ValueSpec.render_eq_quotedIf])

/-- An enum quotes every value but an integer, and a property a text alone, so they agree exactly on
texts and integers. -/
theorem values_agree_on_texts_and_integers (writer : Writer)
    {element : Enumeration} (enumNamed : element.name ≠ "")
    {earlier later : List EnumLiteral} {literal : EnumLiteral}
    (literalsNamed : ∀ other ∈ earlier ++ literal :: later, other.name ≠ "")
    {enumOptions : EnumOptions}
    (initializes : (enumOptions.features.getD .all).initializers = true)
    {property : Property} (named : property.name ≠ "")
    (single : property.multiplicity.isMultivalued = false)
    (primitive :
      isPrimitiveName (writer.builder.resolver.elementTypeName property.type) = true)
    (decorators : List (Decorator Program)) {options : PropertyOptions}
    (admits : Resolver.admitsInitializer property options = true) :
    (∃ front rest, ∀ value : ValueSpec,
      (Step.perform (.writeEnumeration { element with
          literals := earlier ++ { literal with specification := some value } :: later }
        enumOptions) writer).writer.text =
      writer.text ++ front ++ literal.name ++ " = " ++ value.quotedIf (!value.isInteger)
        ++ (if later.isEmpty then "\n" else ",\n") ++ rest) ∧
    (∃ front, ∀ value : ValueSpec,
      (Step.perform (.writeProperty { property with defaultValue := some value } decorators
          options) writer).writer.text =
        writer.text ++ front ++ " = " ++ value.quotedIf value.isText ++ ";\n") ∧
    ∀ value : ValueSpec, value.quotedIf (!value.isInteger) = value.quotedIf value.isText ↔
      value.isText = true ∨ value.isInteger = true :=
  ⟨text_writeEnumeration_values writer enumNamed literalsNamed initializes,
    text_writeProperty_values writer named single primitive decorators admits,
    fun value => value.quotedIf_inj.trans value.kinds_agree_iff⟩

theorem second_literal_and_number_are_written :
    let property : Property :=
      { name := "a", type := some (.primitive .integer), owner := .ofClass }
    let decorators : List (Decorator Program) := [{ name := "D" }]
    (∃ front rest, ∀ value : ValueSpec,
      (Step.perform (.writeEnumeration { name := "E", literals := [{ name := "A" },
          { name := "B", specification := some value }] } {}) {}).writer.text =
        "" ++ front ++ "B" ++ " = " ++ value.quotedIf (!value.isInteger) ++ "\n" ++ rest) ∧
    (∃ front, ∀ value : ValueSpec,
      (Step.perform (.writeProperty { property with defaultValue := some value } decorators {})
        {}).writer.text = "" ++ front ++ " = " ++ value.quotedIf value.isText ++ ";\n") ∧
    ∀ value : ValueSpec, value.quotedIf (!value.isInteger) = value.quotedIf value.isText ↔
      value.isText = true ∨ value.isInteger = true := by
  intro property decorators
  have enumNamed : ({ name := "E" } : Enumeration).name ≠ "" := by decide
  have literalsNamed : ∀ other ∈ [{ name := "A" }] ++ ({ name := "B" } : EnumLiteral) :: [],
      other.name ≠ "" := by
    decide
  have initializes : ((({} : EnumOptions).features).getD .all).initializers = true := by decide
  have named : property.name ≠ "" := by decide
  have single : property.multiplicity.isMultivalued = false := by decide
  have primitive : isPrimitiveName
      (({} : Writer).builder.resolver.elementTypeName property.type) = true := by
    decide
  have admits : Resolver.admitsInitializer property {} = true := by decide
  exact values_agree_on_texts_and_integers {} enumNamed literalsNamed initializes named single
    primitive decorators admits

theorem expression_is_quoted_in_enum :
    let value : ValueSpec := .expression "1 << 3"
    let element : Enumeration :=
      { name := "E", literals := [{ name := "A", specification := some value }] }
    let property : Property := {
      name := "a", type := some (.primitive .integer), owner := .ofClass
      defaultValue := some value }
    value.isText = false ∧
      (Step.perform (.writeEnumeration element {}) {}).writer.text =
        "enum E \x7b\n  A = '1 << 3'\n\x7d\n" ∧
      (Step.perform (.writeProperty property [] {}) {}).writer.text =
        "a: number = 1 << 3;\n" := by
  decide

end Typescribe
