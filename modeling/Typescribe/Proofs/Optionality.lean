import Typescribe.Proofs.Changes
import Typescribe.Proofs.PropertyLines
/-!
# One rule for optional elements

An element of the model that may be absent is marked by a question mark behind its name if the
features admit marks and the optionality holds the question token, and by a union with `null` if
it holds the null keyword. The rule is the same for properties, for parameters and for the result
of an operation, from the element of the model to the text that is written; only the features and
the optionality that count, and the defaults for both, are different.
-/
set_option autoImplicit false

namespace Typescribe

namespace FlagSet

variable {names : List String}

def Holds (set : FlagSet names) (name : String) : Prop := name ∈ set.heldNames

theorem holds_iff {set : FlagSet names} {name : String} {position : Nat} (distinct : names.Nodup)
    (isName : names[position]? = some name) : set.Holds name ↔ set.has position = true := by
  simp only [Holds, heldNames, List.mem_map, List.mem_filter, List.mem_zipIdx_iff_getElem?]
  constructor
  · rintro ⟨⟨other, place⟩, ⟨isOther, held⟩, rfl⟩
    have inNames : position < names.length := (List.getElem?_eq_some_iff.mp isName).1
    have samePlace : position = place :=
      (List.getElem?_inj inNames distinct).mp (isName.trans isOther.symm)
    rwa [samePlace]
  · intro held
    exact ⟨(name, position), ⟨isName, held⟩, rfl⟩

end FlagSet

/-! ## The rule -/

/-- What decides about the marks of an element. -/
structure Site where
  multiplicity : Multiplicity
  admitted : Prop
  optionality : Optionality

/-- An element is marked if it may be absent, marks are admitted and the way is held. -/
def Site.IsMarked (site : Site) (way : String) : Prop :=
  site.multiplicity.lower = 0 ∧ site.admitted ∧ site.optionality.Holds way

/-- A member is written with a name, a type and the marks that a site asks for. -/
structure Member.Shows (member : Member) (name typeName : String) (site : Site) : Prop where
  name : member.name = name
  typeName : member.typeName = typeName
  marks : member.mark = "?" ∨ member.mark = "!" ∨ member.mark = ""
  question : member.mark = "?" ↔ site.IsMarked "QUESTION_TOKEN"
  null : member.withNull = true ↔ site.IsMarked "NULL_KEYWORD"
  brackets : member.isMultivalued = true ↔ ∀ upper ∈ site.multiplicity.upper, 1 < upper

def Property.site (property : Property) (options : PropertyOptions) : Site where
  multiplicity := property.multiplicity
  admitted := (Resolver.propertyFeatures property options).Holds "OPTIONAL_MODIFIER"
  optionality := options.optionality.getD .questionToken

def Parameter.site (parameter : Parameter) (options : FunctionOptions) : Site where
  multiplicity := parameter.multiplicity
  admitted := (options.parameterFeatures.getD .all).Holds "OPTIONAL_MODIFIER"
  optionality := options.parameterOptionality.getD .questionToken

def Parameter.resultSite (parameter : Parameter) (options : FunctionOptions) : Site where
  multiplicity := parameter.multiplicity
  admitted := (options.features.getD .all).Holds "OPTIONAL_MODIFIER"
  optionality := options.returnOptionality.getD .nullKeyword

theorem isMultivalued_iff {multiplicity : Multiplicity} :
    multiplicity.isMultivalued = true ↔ ∀ upper ∈ multiplicity.upper, 1 < upper := by
  rw [Multiplicity.isMultivalued]
  cases multiplicity.upper <;> simp

theorem isMarked_question_iff {site : Site} {admits : Bool} (isAdmitted : site.admitted ↔ admits) :
    site.IsMarked "QUESTION_TOKEN" ↔
      (site.multiplicity.isOptional && admits && site.optionality.usesQuestionToken) = true := by
  have held : site.optionality.Holds "QUESTION_TOKEN" ↔ site.optionality.has 1 = true :=
    FlagSet.holds_iff (by decide) rfl
  simp [Site.IsMarked, Multiplicity.isOptional, Optionality.usesQuestionToken, isAdmitted, held,
    and_assoc]

theorem isMarked_null_iff {site : Site} {admits : Bool} (isAdmitted : site.admitted ↔ admits) :
    site.IsMarked "NULL_KEYWORD" ↔
      (site.multiplicity.isOptional && admits && site.optionality.usesNull) = true := by
  have held : site.optionality.Holds "NULL_KEYWORD" ↔ site.optionality.has 0 = true :=
    FlagSet.holds_iff (by decide) rfl
  simp [Site.IsMarked, Multiplicity.isOptional, Optionality.usesNull, isAdmitted, held, and_assoc]

theorem questionMark_eq_iff {condition : Bool} : questionMark condition = "?" ↔ condition := by
  cases condition <;> simp [questionMark]

theorem questionMark_cases (condition : Bool) :
    questionMark condition = "?" ∨ questionMark condition = "!" ∨ questionMark condition = "" := by
  cases condition <;> simp [questionMark]

/-! ## Resolution follows the rule -/

namespace Resolver

variable {κ : Type}

theorem shows_of_property (resolver : Resolver) {property : Property}
    (named : property.name ≠ "") (decorators : List (Decorator κ)) (options : PropertyOptions) :
    ∃ definition, resolver.propertyDefinition property decorators options = .ok definition ∧
      definition.decorators = decorators ∧
      definition.member.Shows property.name (resolver.elementTypeName property.type)
        (property.site options) := by
  have admitted : (property.site options).admitted ↔
      (propertyFeatures property options).optionalModifier :=
    FlagSet.holds_iff (by decide) rfl
  refine ⟨_, by rw [propertyDefinition, requiredName_of_ne named]; rfl, rfl, ?_⟩
  refine ⟨rfl, rfl, PropertyDefinition.mark_cases _, ?_, ?_, isMultivalued_iff⟩
  · rw [isMarked_question_iff admitted]
    refine PropertyDefinition.mark_eq_question_iff.trans ?_
    simp [Property.site]
  · rw [isMarked_null_iff admitted]
    simp [PropertyDefinition.member, Property.site]

theorem shows_of_parameter (resolver : Resolver) {parameter : Parameter}
    (named : parameter.name ≠ "") (inConstructor : Bool) (options : FunctionOptions) :
    ∃ definition, resolver.parameterDefinition inConstructor
        (options.parameterFeatures.getD .all) (options.parameterOptionality.getD .questionToken)
        parameter = .ok definition ∧
      definition.isResult = parameter.isResult ∧
      (definition.member inConstructor).Shows parameter.name
        (resolver.elementTypeName parameter.type) (parameter.site options) := by
  have admitted : (parameter.site options).admitted ↔
      (options.parameterFeatures.getD .all).optionalModifier :=
    FlagSet.holds_iff (by decide) rfl
  refine ⟨_, by rw [parameterDefinition, requiredName_of_ne named]; rfl, rfl, ?_⟩
  refine ⟨rfl, rfl, questionMark_cases _, ?_, ?_, isMultivalued_iff⟩
  · rw [isMarked_question_iff admitted]
    refine questionMark_eq_iff.trans ?_
    simp [Parameter.site]
  · rw [isMarked_null_iff admitted]
    simp [ParameterDefinition.member, Parameter.site]

theorem functionName_of_named {operation : Operation}
    (named : operation.isConstructor = false → operation.name ≠ "") :
    functionName operation =
      .ok (if operation.isConstructor then none else some operation.name) := by
  rw [functionName]
  cases kind : operation.isConstructor with
  | true => rfl
  | false =>
    rw [requiredName_of_ne (named kind)]
    rfl

end Resolver

def Member.ShowsResult (member : Member) (resolver : Resolver) (operation : Operation)
    (options : FunctionOptions) : Prop :=
  match operation.result? with
  | some result => member.Shows operation.name (resolver.elementTypeName result.type)
      (result.resultSite options)
  | none => member = { keywords := member.keywords, name := operation.name, typeName := "void" }

def ParametersShown (resolver : Resolver) (operation : Operation) (options : FunctionOptions)
    (members : List Member) : Prop :=
  List.Forall₂ (fun parameter member => member.Shows parameter.name
      (resolver.elementTypeName parameter.type) (parameter.site options))
    (operation.parameters.filter fun parameter => !parameter.isResult) members

namespace Resolver

theorem shows_of_operation (resolver : Resolver) {operation : Operation}
    (named : operation.isConstructor = false → operation.name ≠ "")
    (parametersNamed : ∀ parameter ∈ operation.parameters, parameter.name ≠ "")
    (options : FunctionOptions) :
    ∃ definition, resolver.functionDefinition operation options = .ok definition ∧
      definition.isConstructor = operation.isConstructor ∧
      definition.multiLineSignature = options.multiLineSignature ∧
      ParametersShown resolver operation options definition.inputMembers ∧
      (operation.isConstructor = false →
        definition.member.ShowsResult resolver operation options) := by
  obtain ⟨parameters, built, related⟩ := forall₂_of_mapM fun parameter member =>
    resolver.shows_of_parameter (parametersNamed parameter member) operation.isConstructor options
  refine ⟨_, by
    rw [functionDefinition, functionName_of_named named]
    simp only [Except.bind, built]
    rfl, rfl, rfl, ?_, ?_⟩
  · refine List.forall₂_map_right_iff.mpr ?_
    have inputs := List.rel_filter
      (p := fun parameter => !parameter.isResult) (q := fun definition => !definition.isResult)
      (fun parameter definition both => by simp [both.1]) related
    exact inputs.imp fun parameter definition both => both.2
  · intro function
    rw [Member.ShowsResult]
    have noConstructor : declaredResult? operation = operation.result? := by
      rw [declaredResult?, if_neg (by simp [function])]
    cases found : operation.result? with
    | none =>
      simp [FunctionDefinition.member, noConstructor, found, function, questionMark]
    | some result =>
      have admitted : (result.resultSite options).admitted ↔
          (options.features.getD .all).optionalModifier := FlagSet.holds_iff (by decide) rfl
      refine ⟨?_, ?_, questionMark_cases _, ?_, ?_, ?_⟩
      · simp [FunctionDefinition.member, function]
      · simp [FunctionDefinition.member, noConstructor, found]
      · rw [isMarked_question_iff admitted]
        refine questionMark_eq_iff.trans ?_
        simp [noConstructor, found, Parameter.resultSite]
      · rw [isMarked_null_iff admitted]
        simp [FunctionDefinition.member, noConstructor, found, Parameter.resultSite]
      · simp [FunctionDefinition.member, noConstructor, found, isMultivalued_iff,
          Parameter.resultSite]

end Resolver

/-! ## The text follows the rule -/

structure PropertyShown (writer : Writer) (property : Property)
    (decorators : List (Decorator Program)) (options : PropertyOptions) (front : String)
    (member : Member) (rest : String) : Prop where
  result : (Step.perform (.writeProperty property decorators options) writer).result = .done
  text : (Step.perform (.writeProperty property decorators options) writer).writer.text =
    writer.text ++ front ++ member.text ++ rest
  rest : rest = ";\n" ∨ ∃ value, rest = " = " ++ value ++ ";\n"
  shows : member.Shows property.name (writer.builder.resolver.elementTypeName property.type)
    (property.site options)

structure OperationShown (writer : Writer) (operation : Operation) (options : FunctionOptions)
    (contents : Program) (docs head : String) (members : List Member) (tail rest : String) :
    Prop where
  result : (Step.perform (.writeFunction operation options contents) writer).result = .done
  text : (Step.perform (.writeFunction operation options contents) writer).writer.text =
    writer.text ++ docs ++ (writer.margin ++ head ++ "("
      ++ parametersText options.multiLineSignature writer.margin writer.innerMargin
        (members.map Member.text) ++ ")" ++ tail) ++ rest
  rest : rest = ";\n" ∨ ∃ body, rest = " \x7b\n" ++ body
  parameters : ParametersShown writer.builder.resolver operation options members
  ends : if operation.isConstructor then head = "constructor" ∧ tail = ""
    else ∃ member : Member, head = member.front ∧ tail = member.back ∧
      member.ShowsResult writer.builder.resolver operation options

theorem exists_propertyShown (writer : Writer) {property : Property} (named : property.name ≠ "")
    (decorators : List (Decorator Program)) (options : PropertyOptions) :
    ∃ front member rest, PropertyShown writer property decorators options front member rest := by
  obtain ⟨definition, built, sameDecorators, shows⟩ :=
    writer.builder.resolver.shows_of_property named (Step.callbacks decorators) options
  have performed : Step.perform (.writeProperty property decorators options) writer =
      .ofWrite (fun _ => none) (.ok (), writer.property definition) := by
    rw [Step.perform, Writer.writeProperty, built]
  have callbacks : ∀ decorator ∈ definition.decorators, decorator.EachCallback Blind := by
    rw [sameDecorators]
    exact Step.eachCallback fun program _ => Blind.run program
  have lead := ((Blind.docParagraphs definition.description).andThen Blind.startLine).andThen
    (Blind.decoratorPieces callbacks)
  obtain ⟨-, -, front, leadText, -⟩ := lead writer writer (Alike.refl writer)
  refine ⟨front, definition.member, definition.initializerText ++ ";\n", ?_, ?_, ?_, shows⟩
  · rw [performed]
    rfl
  · have ending : ";" ++ "\n" = ";\n" := rfl
    rw [performed, Performed.writer_ofWrite, Writer.property, Writer.endLine_eq_write,
      Writer.text_write, leadText, definition.content_eq_member]
    simp only [String.append_assoc, ending]
  · unfold PropertyDefinition.initializerText
    cases definition.defaultValue with
    | none => exact .inl rfl
    | some value => exact .inr ⟨value, rfl⟩

theorem text_functionBlock (definition : FunctionDefinition) (contents : Program)
    (writer : Writer) :
    ∃ rest, (writer.functionBlock definition (Step.runAll contents)).2.text =
        (writer.signature definition).text ++ rest ∧
      (rest = ";\n" ∨ ∃ body, rest = " \x7b\n" ++ body) := by
  rw [Writer.functionBlock]
  cases definition.isAbstract with
  | true => exact ⟨";\n", rfl, .inl rfl⟩
  | false =>
    obtain ⟨-, -, body, bodyText, -⟩ := Blind.enclosed "\x7d" (Blind.run contents) _ _
      (Alike.refl ((writer.signature definition).endLine " \x7b"))
    refine ⟨" \x7b\n" ++ body, ?_, .inr ⟨body, rfl⟩⟩
    have opened : ((writer.signature definition).endLine " \x7b").text =
        (writer.signature definition).text ++ " \x7b\n" := rfl
    rw [← String.append_assoc, ← opened]
    exact bodyText

theorem exists_operationShown (writer : Writer) {operation : Operation}
    (named : operation.isConstructor = false → operation.name ≠ "")
    (parametersNamed : ∀ parameter ∈ operation.parameters, parameter.name ≠ "")
    (options : FunctionOptions) (contents : Program) :
    ∃ docs head members tail rest,
      OperationShown writer operation options contents docs head members tail rest := by
  obtain ⟨definition, built, isConstructor, layout, parameters, result⟩ :=
    writer.builder.resolver.shows_of_operation named parametersNamed options
  have performed : Step.perform (.writeFunction operation options contents) writer =
      .ofWrite id (.ok (writer.functionBlock definition (Step.runAll contents)).1,
        (writer.functionBlock definition (Step.runAll contents)).2) := by
    rw [Step.perform, Writer.writeFunction, built]
  obtain ⟨rest, blockText, isRest⟩ := text_functionBlock definition contents writer
  refine ⟨docText writer.margin writer.commentWidth (Docs.functionLines definition),
    definition.head, definition.inputMembers, definition.tail, rest, ?_, ?_, isRest, parameters,
    ?_⟩
  · rw [performed]
    rfl
  · rw [performed, Performed.writer_ofWrite, blockText, Writer.signature_eq_write,
      Writer.text_write, signatureText, FunctionDefinition.parameterListText_eq,
      FunctionDefinition.parameterTexts_eq_members, layout]
    simp only [String.append_assoc]
  · cases kind : operation.isConstructor with
    | true =>
      rw [kind] at isConstructor
      simp [FunctionDefinition.head, FunctionDefinition.tail, isConstructor]
    | false =>
      rw [kind] at isConstructor
      exact ⟨definition.member, FunctionDefinition.head_eq_member isConstructor,
        FunctionDefinition.tail_eq_member isConstructor, result kind⟩

/-- Whatever its options and features say, a property or an operation with names is written, with
marks that follow one rule for properties, parameters and results. -/
theorem optionality_is_one_rule :
    (∀ (writer : Writer) (property : Property) (decorators : List (Decorator Program))
      (options : PropertyOptions), property.name ≠ "" →
      ∃ front member rest, PropertyShown writer property decorators options front member rest) ∧
    ∀ (writer : Writer) (operation : Operation) (options : FunctionOptions)
      (contents : Program), (operation.isConstructor = false → operation.name ≠ "") →
      (∀ parameter ∈ operation.parameters, parameter.name ≠ "") →
      ∃ docs head members tail rest,
        OperationShown writer operation options contents docs head members tail rest := by
  constructor
  · intro writer property decorators options named
    exact exists_propertyShown writer named decorators options
  · intro writer operation options contents named parametersNamed
    exact exists_operationShown writer named parametersNamed options contents

theorem optional_elements_are_marked :
    let property : Property := {
      name := "p", type := some (.primitive .string), multiplicity := .many, owner := .ofInterface }
    let propertyOptions : PropertyOptions := { features := some ⟨0xC8⟩, optionality := some ⟨0xFF⟩ }
    let parameter : Parameter := { name := "a", multiplicity := ⟨0, some 2⟩ }
    let result : Parameter := { name := "r", multiplicity := .optional, direction := .result }
    let operation : Operation := { name := "f", parameters := [result, parameter] }
    let options : FunctionOptions := { returnOptionality := some ⟨0x83⟩ }
    (property.name ≠ "" ∧
      (Step.perform (.writeProperty property [] propertyOptions) {}).writer.text =
        "p?: string[] | null;\n" ∧
      ∃ front member rest, PropertyShown {} property [] propertyOptions front member rest) ∧
    (operation.isConstructor = false → operation.name ≠ "") ∧
    (∀ parameter ∈ operation.parameters, parameter.name ≠ "") ∧
    (Step.perform (.writeFunction operation options []) {}).writer.text =
      "f?(a?: any[]): any | null \x7b\n\x7d\n" ∧
    ∃ docs head members tail rest,
      OperationShown {} operation options [] docs head members tail rest := by
  intro property propertyOptions parameter result operation options
  have named : property.name ≠ "" := by decide
  have operationNamed : operation.isConstructor = false → operation.name ≠ "" := by decide
  have parametersNamed : ∀ parameter ∈ operation.parameters, parameter.name ≠ "" := by decide
  refine ⟨⟨named, ?_, optionality_is_one_rule.1 _ _ _ _ named⟩, operationNamed, parametersNamed,
    ?_, optionality_is_one_rule.2 _ _ _ _ operationNamed parametersNamed⟩
  · decide
  · decide

end Typescribe
