import Typescribe.Proofs.Delimiters
/-!
# A property is known from its line

Two properties have the same line exactly if they agree on what a line can show: the flags count
only in the combinations in which the writer looks at them. A default value may be any text, even
one that looks like marks or holds semicolons, since it stands last.
-/
set_option autoImplicit false

namespace Typescribe

namespace PropertyDefinition

variable {κ : Type} {first second : PropertyDefinition κ}

/-- The characters behind a name and a type do not occur in them. -/
structure IsOneLine (definition : PropertyDefinition κ) : Prop where
  description : definition.description = []
  decorators : definition.decorators = []
  name : Avoids [' ', ':', '?', '!'] definition.name
  typeName : Avoids [' ', '[', ';'] definition.typeName

def assignedLater (definition : PropertyDefinition κ) : Bool :=
  !definition.isOptional && definition.defaultValue.isNone && definition.usesDefiniteAssignment

/-- What two properties with the same line agree on. -/
structure SameLine (first second : PropertyDefinition κ) : Prop where
  access : first.access = second.access
  isStatic : first.isStatic = second.isStatic
  isReadonly : first.isReadonly = second.isReadonly
  name : first.name = second.name
  typeName : first.typeName = second.typeName
  isMultivalued : first.isMultivalued = second.isMultivalued
  defaultValue : first.defaultValue = second.defaultValue
  question :
    (first.isOptional && first.usesQuestionToken) =
      (second.isOptional && second.usesQuestionToken)
  null : (first.isOptional && first.hasNullUnion) = (second.isOptional && second.hasNullUnion)
  assignedLater : first.assignedLater = second.assignedLater

/-! ## Marks -/

theorem mark_eq (definition : PropertyDefinition κ) :
    definition.mark = if definition.isOptional && definition.usesQuestionToken then "?"
      else if definition.assignedLater then "!" else "" := rfl

theorem mark_eq_question_iff {definition : PropertyDefinition κ} :
    definition.mark = "?" ↔ (definition.isOptional && definition.usesQuestionToken) = true := by
  rw [mark_eq]
  split
  · next isQuestion => simp [isQuestion]
  · next noQuestion =>
    split
    · simp [noQuestion]
    · simp [noQuestion]

theorem mark_eq_exclamation_iff {definition : PropertyDefinition κ} :
    definition.mark = "!" ↔ definition.assignedLater = true := by
  rw [mark_eq]
  split
  · next isQuestion =>
    -- An optional property is not assigned later.
    have isOptional := (Bool.and_eq_true_iff.mp isQuestion).1
    simp [assignedLater, isOptional]
  · split
    · next isLater => simp [isLater]
    · next notLater => simp [notLater]

theorem mark_cases (definition : PropertyDefinition κ) :
    definition.mark = "?" ∨ definition.mark = "!" ∨ definition.mark = "" := by
  rw [mark_eq]
  split
  · exact .inl rfl
  · split
    · exact .inr (.inl rfl)
    · exact .inr (.inr rfl)

/-! ## Parts of a line -/

theorem member_isPlain {definition : PropertyDefinition κ} (oneLine : definition.IsOneLine) :
    definition.member.IsPlain ':' ['?', '!'] where
  keywords := by
    intro keyword member
    simp only [PropertyDefinition.member, List.mem_append, mem_keywordIf] at member
    rcases member with (isAccess | ⟨-, rfl⟩) | ⟨-, rfl⟩
    · exact (avoids_of_mem_accessKeywords isAccess).mono (by decide)
    · decide
    · decide
  name := oneLine.name
  markHalts := by
    rcases definition.mark_cases with isMark | isMark | isMark
    · exact .inr ⟨'?', [], by simp [PropertyDefinition.member, isMark], by simp⟩
    · exact .inr ⟨'!', [], by simp [PropertyDefinition.member, isMark], by simp⟩
    · exact .inl isMark
  markAvoids := by
    rcases definition.mark_cases with isMark | isMark | isMark <;>
      simp only [PropertyDefinition.member, isMark] <;> decide
  typeName := oneLine.typeName

theorem endsType_initializer (definition : PropertyDefinition κ) :
    Member.EndsType (definition.initializerText ++ ";") := by
  unfold initializerText
  cases definition.defaultValue with
  | none => exact ⟨.inr ⟨';', [], by simp, by simp⟩, by simp⟩
  | some value => exact ⟨.inr ⟨' ', ("= " ++ value ++ ";").toList, by simp, by simp⟩, by simp⟩

theorem sameLine_of_parts (member : first.member = second.member)
    (defaultValue : first.defaultValue = second.defaultValue) : first.SameLine second := by
  have keywords : first.member.keywords = second.member.keywords := by rw [member]
  have mark : first.mark = second.mark := congrArg Member.mark member
  simp only [PropertyDefinition.member, List.append_assoc] at keywords
  have foreign (definition : PropertyDefinition κ) (modifier : AccessModifier) :
      modifier.keyword ∉ keywordIf definition.isStatic "static"
        ++ keywordIf definition.isReadonly "readonly" := by
    intro inside
    simp only [List.mem_append, mem_keywordIf] at inside
    cases modifier <;> simp [AccessModifier.keyword] at inside
  obtain ⟨access, others⟩ := accessKeywords_unique (foreign first) (foreign second) keywords
  obtain ⟨isStatic, isReadonly⟩ := keywordIf_unique (by decide) others
  exact {
    access, isStatic, isReadonly, defaultValue
    name := congrArg Member.name member
    typeName := congrArg Member.typeName member
    isMultivalued := congrArg Member.isMultivalued member
    question := by
      rw [Bool.eq_iff_iff, ← mark_eq_question_iff, ← mark_eq_question_iff, mark]
    null := congrArg Member.withNull member
    assignedLater := by
      rw [Bool.eq_iff_iff, ← mark_eq_exclamation_iff, ← mark_eq_exclamation_iff, mark] }

theorem member_eq_of_sameLine (same : first.SameLine second) : first.member = second.member := by
  have mark : first.mark = second.mark := by
    rw [mark_eq, mark_eq, same.question, same.assignedLater]
  simp only [member, same.access, same.isStatic, same.isReadonly, same.name, same.typeName,
    same.isMultivalued, same.null, mark]

theorem content_eq_iff (firstOneLine : first.IsOneLine) (secondOneLine : second.IsOneLine) :
    first.content = second.content ↔ first.SameLine second := by
  rw [content_eq_member, content_eq_member]
  constructor
  · intro same
    rw [String.append_assoc, String.append_assoc] at same
    obtain ⟨member, initializers⟩ := Member.text_unique (by decide)
      (member_isPlain firstOneLine) (member_isPlain secondOneLine) first.endsType_initializer
      second.endsType_initializer same
    rw [String.append_left_inj] at initializers
    refine sameLine_of_parts member ?_
    unfold initializerText at initializers
    cases firstValue : first.defaultValue with
    | none =>
      cases secondValue : second.defaultValue with
      | none => rfl
      | some value => simp [firstValue, secondValue] at initializers
    | some value =>
      cases secondValue : second.defaultValue with
      | none => simp [firstValue, secondValue] at initializers
      | some other => simpa [firstValue, secondValue] using initializers
  · intro same
    rw [member_eq_of_sameLine same, initializerText, same.defaultValue, initializerText]

/-! ## Lines as they are written -/

/-- One mark at most, an exclamation mark only without an initializer, and a union only if the
property is optional. -/
def HasSoundMarks (definition : PropertyDefinition κ) (margin line : String) : Prop :=
  ∃ mark union,
    line = margin ++ keywordsText definition.member.keywords ++ definition.name ++ mark ++ ": "
      ++ definition.typeName ++ (if definition.isMultivalued then "[]" else "") ++ union
      ++ definition.initializerText ++ ";\n" ∧
    mark ∈ ["", "?", "!"] ∧ union ∈ ["", " | null"] ∧
    (mark = "?" → definition.isOptional = true) ∧
    (mark = "!" → definition.isOptional = false ∧ definition.initializerText = "") ∧
    (union = " | null" → definition.isOptional = true)

theorem hasSoundMarks (definition : PropertyDefinition κ) (margin : String) :
    definition.HasSoundMarks margin (margin ++ definition.content ++ "\n") := by
  refine ⟨definition.mark, if definition.member.withNull then " | null" else "", ?_, ?_, ?_,
    ?_, ?_, ?_⟩
  · have ending : ";" ++ "\n" = ";\n" := rfl
    simp only [content_eq_member, Member.text, Member.front, Member.back, typeText,
      String.append_assoc, ending]
    rfl
  · rcases definition.mark_cases with isMark | isMark | isMark <;> simp [isMark]
  · split <;> simp
  · intro isQuestion
    exact (Bool.and_eq_true_iff.mp (mark_eq_question_iff.mp isQuestion)).1
  · intro isExclamation
    have isLater := mark_eq_exclamation_iff.mp isExclamation
    simp only [assignedLater, Bool.and_eq_true, Bool.not_eq_true', Option.isNone_iff_eq_none]
      at isLater
    exact ⟨isLater.1.1, by rw [initializerText, isLater.1.2]⟩
  · intro isUnion
    have withNull : definition.member.withNull = true := by
      cases absent : definition.member.withNull with
      | true => rfl
      | false => simp [absent] at isUnion
    exact (Bool.and_eq_true_iff.mp withNull).1

end PropertyDefinition

/-- Properties at one level have the same line exactly if they agree on what a line can show, and no
flags give marks that exclude each other. -/
theorem line_determines_property {first second : PropertyDefinition Callback}
    {left right : Writer} (sameIndent : left.sheet.indent = right.sheet.indent)
    (sameLevel : left.level = right.level) (firstOneLine : first.IsOneLine)
    (secondOneLine : second.IsOneLine) :
    (addedText left (left.property first) = addedText right (right.property second) ↔
      first.SameLine second) ∧
    first.HasSoundMarks left.margin (addedText left (left.property first)) := by
  have margin := Writer.margin_congr sameIndent sameLevel
  rw [Writer.addedText_property left firstOneLine.description firstOneLine.decorators,
    Writer.addedText_property right secondOneLine.description secondOneLine.decorators, margin]
  refine ⟨?_, first.hasSoundMarks right.margin⟩
  rw [String.append_left_inj, String.append_right_inj]
  exact PropertyDefinition.content_eq_iff firstOneLine secondOneLine

theorem idle_assertion_does_not_show :
    let first : PropertyDefinition Callback := {
      name := "static"
      typeName := "T"
      usesQuestionToken := true
      usesDefiniteAssignment := true
      defaultValue := some "a!: T | null; b?: T = " }
    let second := { first with usesQuestionToken := false, usesDefiniteAssignment := false }
    let later : Writer := { sheet := { text := "class A \x7b\n" } }
    first.IsOneLine ∧ second.IsOneLine ∧
      addedText {} (Writer.property first {}) = addedText later (later.property second) := by
  intro first second later
  have firstOneLine : first.IsOneLine := ⟨rfl, rfl, by decide, by decide⟩
  have secondOneLine : second.IsOneLine := ⟨rfl, rfl, by decide, by decide⟩
  have sameIndent : ({} : Writer).sheet.indent = later.sheet.indent := rfl
  have sameLevel : ({} : Writer).level = later.level := rfl
  have sameLine : first.SameLine second := by constructor <;> rfl
  exact ⟨firstOneLine, secondOneLine,
    (line_determines_property sameIndent sameLevel firstOneLine secondOneLine).1.mpr sameLine⟩

end Typescribe
