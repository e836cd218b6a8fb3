import Typescribe.Proofs.Headers
import Typescribe.Proofs.Summaries
/-!
# Bodies of functions

A function that is abstract ends with its signature, and every other one has a body. The keyword
is decided apart from this: a signature says `abstract` if the function is abstract, but not if
it is static as well or a constructor. The operations of a model never give an abstract
constructor, so among them only those that are abstract and static have neither a body nor the
keyword.
-/
set_option autoImplicit false

namespace Typescribe

namespace FunctionDefinition

/-- One of the words in front of the marked name is `abstract`. -/
def SaysAbstract (definition : FunctionDefinition) : Prop :=
  ∃ front, definition.head = front ++ (definition.member.name ++ definition.member.mark) ∧
    "abstract".toList ∈ front.toList.splitOn ' '

/-! ## The keyword -/

theorem noBlank_of_mem_keywords {definition : FunctionDefinition} {keyword : String}
    (member : keyword ∈ definition.member.keywords) : ' ' ∉ keyword.toList := by
  simp only [FunctionDefinition.member, List.mem_append, mem_accessKeywords, mem_keywordIf]
    at member
  obtain (⟨access, -, rfl⟩ | ⟨-, rfl⟩) | ⟨-, rfl⟩ := member
  · cases access <;> decide
  · decide
  · decide

theorem abstract_mem_keywords_iff {definition : FunctionDefinition} :
    "abstract" ∈ definition.member.keywords ↔
      definition.isAbstract = true ∧ definition.isStatic = false := by
  have noAccess (access : AccessModifier) : access.keyword ≠ "abstract" := by
    cases access <;> decide
  simp [FunctionDefinition.member, mem_accessKeywords, mem_keywordIf, noAccess, and_comm]

/-- A constructor is called by a name without blanks, so no word stands in front of it. -/
theorem not_saysAbstract_of_constructor {definition : FunctionDefinition}
    (isConstructor : definition.isConstructor = true) : ¬ definition.SaysAbstract := by
  rintro ⟨front, isHead, isWord⟩
  rw [head, if_pos isConstructor] at isHead
  have begins : front.toList <+: "constructor".toList :=
    ⟨_, by rw [isHead, String.toList_append]⟩
  have noBlank : ' ' ∉ front.toList := fun member =>
    absurd (begins.subset member) (by decide)
  rw [List.splitOn_eq_singleton noBlank, List.mem_singleton] at isWord
  rw [← isWord] at begins
  exact absurd begins (by decide)

theorem saysAbstract_iff_mem {definition : FunctionDefinition}
    (function : definition.isConstructor = false) :
    definition.SaysAbstract ↔ "abstract" ∈ definition.member.keywords := by
  have isHead : definition.head = keywordsText definition.member.keywords
      ++ (definition.member.name ++ definition.member.mark) := by
    rw [head_eq_member function, Member.front, String.append_assoc]
  have words : (keywordsText definition.member.keywords).toList.splitOn ' ' =
      (definition.member.keywords ++ [""]).map String.toList := by
    have split := splitOn_keywordsText
      (fun keyword member => definition.noBlank_of_mem_keywords member)
      (by decide : ' ' ∉ "".toList)
    rwa [String.append_empty] at split
  constructor
  · rintro ⟨front, sameHead, isWord⟩
    rw [isHead, String.append_left_inj] at sameHead
    rw [← sameHead, words] at isWord
    obtain ⟨word, isKeyword, same⟩ := List.mem_map.mp isWord
    rw [String.toList_inj.mp same, List.mem_append] at isKeyword
    exact isKeyword.resolve_right (by decide)
  · intro isKeyword
    refine ⟨_, isHead, ?_⟩
    rw [words]
    exact List.mem_map_of_mem (List.mem_append_left _ isKeyword)

theorem saysAbstract_iff (definition : FunctionDefinition) :
    definition.SaysAbstract ↔ definition.isAbstract = true ∧ definition.isStatic = false ∧
      definition.isConstructor = false := by
  cases kind : definition.isConstructor with
  | true => simp [not_saysAbstract_of_constructor kind]
  | false =>
    rw [saysAbstract_iff_mem kind, abstract_mem_keywords_iff]
    simp

end FunctionDefinition

theorem Resolver.kind_of_function {resolver : Resolver} {operation : Operation}
    {options : FunctionOptions} {definition : FunctionDefinition}
    (built : resolver.functionDefinition operation options = .ok definition) :
    definition.isConstructor = operation.isConstructor ∧
      definition.isStatic = operation.isStatic := by
  unfold functionDefinition at built
  obtain ⟨name, -, isDefinition⟩ := exists_of_bind_eq_ok built
  obtain ⟨parameters, -, rfl⟩ := exists_of_map_eq_ok isDefinition
  exact ⟨rfl, rfl⟩

/-! ## The body -/

namespace Writer

def signedText (definition : FunctionDefinition) (writer : Writer) : String :=
  docText writer.margin writer.commentWidth (Docs.functionLines definition)
    ++ signatureText writer.margin writer.innerMargin definition

def atBody (definition : FunctionDefinition) (writer : Writer) : Writer :=
  (writer.write (writer.signedText definition ++ " \x7b\n")).setLevel (writer.level + 1)

end Writer

structure BodyWritten (definition : FunctionDefinition) (body : Program) (writer : Writer)
    (performed : Performed) : Prop where
  keyword : definition.SaysAbstract ↔ definition.isAbstract = true ∧
    definition.isStatic = false ∧ definition.isConstructor = false
  leftOut : definition.isAbstract = true → performed.contents = none ∧
    performed.writer.text = writer.text ++ writer.signedText definition ++ ";\n"
  written : definition.isAbstract = false → ∃ added,
    performed.contents = some (Step.runAll body (writer.atBody definition)).1 ∧
    (∀ other, Alike other (writer.atBody definition) →
      (Step.run body other).text = other.text ++ added) ∧
    performed.writer.text = writer.text ++ writer.signedText definition ++ " \x7b\n" ++ added
      ++ lineText writer.margin "\x7d"

theorem bodyWritten_functionBlock (definition : FunctionDefinition) (body : Program)
    (writer : Writer) :
    BodyWritten definition body writer
      (.ofContents? (writer.functionBlock definition (Step.runAll body))) := by
  have signature : writer.signature definition = writer.write (writer.signedText definition) :=
    Writer.signature_eq_write definition writer
  refine ⟨definition.saysAbstract_iff, fun abstract => ?_, fun concrete => ?_⟩
  · rw [Writer.functionBlock, if_pos abstract, Writer.functionDeclaration, signature]
    exact ⟨rfl, rfl⟩
  · obtain ⟨-, keeps, added, text, -⟩ :=
      Blind.run body _ _ (Alike.refl (writer.atBody definition))
    have performed : writer.functionBlock definition (Step.runAll body) =
        (some (Step.runAll body (writer.atBody definition)).1,
          ((Step.run body (writer.atBody definition)).setLevel writer.level).line "\x7d") := by
      rw [Writer.functionBlock, if_neg (by simp [concrete]), signature, Writer.endLine_eq_write,
        Writer.write_write]
      rfl
    refine ⟨added, by rw [performed]; rfl, fun other alike => ?_, ?_⟩
    · obtain ⟨_, _, piece, otherText, atBodyText⟩ := Blind.run body _ _ alike
      rw [text, String.append_right_inj] at atBodyText
      rw [otherText, ← atBodyText]
    · have indent : (Step.run body (writer.atBody definition)).sheet.indent =
          writer.sheet.indent := keeps.indent
      have margin : ((Step.run body (writer.atBody definition)).setLevel writer.level).margin =
          writer.margin := Writer.margin_congr indent rfl
      rw [performed, Performed.writer_ofContents?, Writer.line_eq_write, Writer.text_write, margin,
        Writer.text_setLevel, text, Writer.atBody, Writer.text_setLevel, Writer.text_write]
      simp only [String.append_assoc]

/-- A body is left out exactly if the function is abstract, and then its header says so, unless it
is static or a constructor. -/
theorem body_is_left_out_of_abstract :
    (∀ (step : Step) (writer : Writer) (definition : FunctionDefinition) (body : Program),
      step.function? writer.builder.resolver = some definition → step.contents? = some body →
      BodyWritten definition body writer (step.perform writer)) ∧
    ∀ (resolver : Resolver) (operation : Operation) (options : FunctionOptions)
      (definition : FunctionDefinition),
      resolver.functionDefinition operation options = .ok definition →
      (definition.isAbstract = true ↔ operation.hasBody = false) ∧
      (definition.isAbstract = true →
        (definition.SaysAbstract ↔ operation.isStatic = false)) := by
  constructor
  · intro step writer definition body writes hasBody
    cases step with
    | functionBlock given contents =>
      obtain rfl : given = some definition := writes
      obtain rfl : contents = body := Option.some.inj hasBody
      exact bodyWritten_functionBlock definition contents writer
    | writeFunction element options contents =>
      obtain rfl : contents = body := Option.some.inj hasBody
      have performed : Step.perform (.writeFunction element options contents) writer =
          .ofContents? (writer.functionBlock definition (Step.runAll contents)) := by
        rw [Step.perform, Writer.writeFunction, Step.built_of_function writes]
        rfl
      rw [performed]
      exact bodyWritten_functionBlock definition contents writer
    | functionDeclaration given => cases hasBody
    | _ => cases writes
  · intro resolver operation options definition built
    have hasBody := Resolver.isAbstract_of_function built
    obtain ⟨isConstructor, isStatic⟩ := Resolver.kind_of_function built
    refine ⟨by rw [← hasBody, Bool.not_eq_false'], fun abstract => ?_⟩
    have function : operation.isConstructor = false := by
      rw [abstract, Operation.hasBody] at hasBody
      cases kind : operation.isConstructor with
      | true => simp [kind] at hasBody
      | false => rfl
    rw [definition.saysAbstract_iff, isConstructor, isStatic, function]
    simp [abstract]

theorem abstract_operation_has_no_body :
    let operation : Operation := {
      name := "area"
      visibility := some .prot
      parameters := [{ name := "scale", type := some (.primitive .real) }]
      isAbstract := true
      owner := .ofClass }
    let options : FunctionOptions := { multiLineSignature := true }
    let step := Step.writeFunction operation options [.line "return 1;"]
    ∃ definition, step.function? {} = some definition ∧ definition.isAbstract = true ∧
      BodyWritten definition [.line "return 1;"] {} (step.perform {}) ∧
      (step.perform {}).writer.text = "protected abstract area(\n  scale: number,\n): void;\n" ∧
      definition.SaysAbstract := by
  intro operation options step
  obtain ⟨writes, built⟩ := body_is_left_out_of_abstract
  refine ⟨_, rfl, rfl, writes step {} _ _ rfl rfl, by decide, ?_⟩
  exact ((built {} operation options _ rfl).2 rfl).mpr rfl

/-- The header of a static abstract function says `static` only. -/
theorem static_hides_abstract :
    let definition : FunctionDefinition := {
      name := some "create", isAbstract := true, isStatic := true }
    let operation : Operation := { name := "create", isAbstract := true, isStatic := true }
    let given := Step.perform (.functionBlock (some definition) [.line "return 1;"]) {}
    let built := Step.perform (.writeFunction operation {} [.line "return 1;"]) {}
    given.contents = none ∧ given.writer.text = "static create(): void;\n" ∧
      built.contents = none ∧ built.writer.text = "static create(): void;\n" ∧
      ¬ definition.SaysAbstract := by
  refine ⟨rfl, by decide, rfl, by decide, ?_⟩
  rw [FunctionDefinition.saysAbstract_iff]
  decide

end Typescribe
