import Typescribe.Proofs.Delimiters
/-!
# A function is known from its signature

Two functions have the same signature exactly if they agree on what a signature can show: the
parameters that are not results and, except in constructors, the modifiers, the name and the
result. A constructor is told from a function of the name `constructor` by the type of the
result, which only the function has.
-/
set_option autoImplicit false

namespace Typescribe

/-- The characters that come between the names and types of a signature. -/
def signatureStops : List Char := [' ', ':', '?', ',', '(', ')', '[', ']', ';', '\n']

def IsPlainName (name : String) : Prop := Avoids signatureStops name

instance (name : String) : Decidable (IsPlainName name) :=
  inferInstanceAs (Decidable (Avoids signatureStops name))

structure ShownParameter where
  access : Option AccessModifier
  name : String
  question : Bool
  typeName : String
  isMultivalued : Bool
  null : Bool
  deriving DecidableEq

def ParameterDefinition.shown (inConstructor : Bool) (definition : ParameterDefinition) :
    ShownParameter where
  access := definition.shownAccess inConstructor
  name := definition.name
  question := definition.isOptional && definition.usesQuestionToken
  typeName := definition.typeName
  isMultivalued := definition.isMultivalued
  null := definition.isOptional && definition.hasNullUnion

namespace FunctionDefinition

def shownParameters (definition : FunctionDefinition) : List ShownParameter :=
  (definition.parameters.filter fun parameter => !parameter.isResult).map
    (ParameterDefinition.shown definition.isConstructor)

/-- Names and types are plain, but for the name of a constructor, which is not written. -/
structure HasPlainSignature (definition : FunctionDefinition) : Prop where
  description : definition.description = []
  name : definition.isConstructor = false → ∃ name, definition.name = some name ∧ IsPlainName name
  returnType : definition.isConstructor = false →
    ∀ typeName ∈ definition.returnTypeName, IsPlainName typeName
  parameters : ∀ parameter ∈ definition.inputs,
    IsPlainName parameter.name ∧ IsPlainName parameter.typeName

/-- What functions with the same signature agree on, if they are no constructors. -/
structure SameFunction (first second : FunctionDefinition) : Prop where
  access : first.access = second.access
  isStatic : first.isStatic = second.isStatic
  isAbstract : first.isStatic = false → first.isAbstract = second.isAbstract
  name : first.name = second.name
  question :
    (first.returnsOptional && first.returnUsesQuestionToken) =
      (second.returnsOptional && second.returnUsesQuestionToken)
  returnType : first.returnTypeName.getD "void" = second.returnTypeName.getD "void"
  returnsMultivalued : first.returnsMultivalued = second.returnsMultivalued
  null :
    (first.returnsOptional && first.returnHasNullUnion) =
      (second.returnsOptional && second.returnHasNullUnion)

structure SameSignature (first second : FunctionDefinition) : Prop where
  isConstructor : first.isConstructor = second.isConstructor
  parameters : first.shownParameters = second.shownParameters
  function : first.isConstructor = false → first.SameFunction second

end FunctionDefinition

/-! ## Parts of a signature -/

theorem questionMark_unique {first second : Bool}
    (same : questionMark first = questionMark second) : first = second := by
  cases first <;> cases second <;> first | rfl | exact absurd same (by decide)

theorem questionMark_halts (condition : Bool) : Halts ['?'] (questionMark condition) := by
  cases condition with
  | true => exact .inr ⟨'?', [], rfl, by simp⟩
  | false => exact .inl rfl

namespace ShownParameter

def member (parameter : ShownParameter) : Member where
  keywords := accessKeywords parameter.access
  name := parameter.name
  mark := questionMark parameter.question
  typeName := parameter.typeName
  isMultivalued := parameter.isMultivalued
  withNull := parameter.null

theorem member_injective {first second : ShownParameter} (same : first.member = second.member) :
    first = second := by
  have keywords : accessKeywords first.access ++ [] = accessKeywords second.access ++ [] := by
    rw [List.append_nil, List.append_nil]
    exact congrArg Member.keywords same
  have access := (accessKeywords_unique (by simp) (by simp) keywords).1
  have question := questionMark_unique (congrArg Member.mark same)
  have name : first.name = second.name := congrArg Member.name same
  have typeName : first.typeName = second.typeName := congrArg Member.typeName same
  have isMultivalued : first.isMultivalued = second.isMultivalued :=
    congrArg Member.isMultivalued same
  have null : first.null = second.null := congrArg Member.withNull same
  cases first
  cases second
  simp only at access name question typeName isMultivalued null
  subst access name question typeName isMultivalued null
  rfl

end ShownParameter

namespace Member

structure IsSignaturePart (member : Member) : Prop where
  keywords : ∀ keyword ∈ member.keywords, Avoids [' ', ':', '(', ')', ',', '?', '!'] keyword
  name : IsPlainName member.name
  mark : ∃ condition, member.mark = questionMark condition
  typeName : IsPlainName member.typeName

variable {member : Member}

theorem IsSignaturePart.isPlain {stop : Char} (part : member.IsSignaturePart)
    (isStop : stop = ':' ∨ stop = '(') : member.IsPlain stop ['?'] := by
  obtain ⟨condition, isMark⟩ := part.mark
  have noStop : Avoids [stop] member.mark := by
    rw [isMark]
    rcases isStop with rfl | rfl <;> cases condition <;> decide
  have fewer : [' ', stop, '?'] ⊆ [' ', ':', '(', ')', ',', '?', '!'] := by
    rcases isStop with rfl | rfl <;> decide
  have fewerStops : [' ', stop, '?'] ⊆ signatureStops := by
    rcases isStop with rfl | rfl <;> decide
  exact {
    keywords := fun keyword isKeyword => (part.keywords keyword isKeyword).mono fewer
    name := part.name.mono fewerStops
    markHalts := isMark ▸ questionMark_halts condition
    markAvoids := noStop
    typeName := part.typeName.mono (by decide) }

theorem IsSignaturePart.avoids_front (part : member.IsSignaturePart) :
    Avoids [',', '(', ')'] member.front := by
  obtain ⟨condition, isMark⟩ := part.mark
  have mark : Avoids [',', '(', ')'] member.mark := by
    rw [isMark]
    cases condition <;> decide
  have keywords : Avoids [',', '(', ')'] (keywordsText member.keywords) :=
    .keywordsText (by decide) fun keyword isKeyword =>
      (part.keywords keyword isKeyword).mono (by decide)
  exact (keywords.append (part.name.mono (by decide))).append mark

theorem IsSignaturePart.avoids_text (part : member.IsSignaturePart) :
    Avoids [',', '(', ')'] member.text := by
  have typeName : Avoids [',', '(', ')'] member.typeName := part.typeName.mono (by decide)
  have brackets : Avoids [',', '(', ')'] (if member.isMultivalued then "[]" else "") :=
    .ite (by decide) (by decide)
  have union : Avoids [',', '(', ')'] (if member.withNull then " | null" else "") :=
    .ite (by decide) (by decide)
  have colon : Avoids [',', '(', ')'] ": " := by decide
  exact part.avoids_front.append (colon.append ((typeName.append brackets).append union))

theorem text_ne_empty (member : Member) : member.text ≠ "" := by
  intro isEmpty
  rw [text, back, String.append_eq_empty_iff, String.append_eq_empty_iff] at isEmpty
  exact absurd isEmpty.2.1 (by decide)

theorem texts_unique {members members' : List Member}
    (parts : ∀ member ∈ members, member.IsSignaturePart)
    (parts' : ∀ member ∈ members', member.IsSignaturePart)
    (same : members.map text = members'.map text) : members = members' := by
  have nothing : EndsType "" := ⟨.inl rfl, by simp⟩
  induction members generalizing members' with
  | nil => exact (List.map_eq_nil_iff.mp same.symm).symm
  | cons member members ih =>
    cases members' with
    | nil => simp at same
    | cons member' members' =>
      simp only [List.map_cons, List.cons.injEq] at same
      have sameText : member.text ++ "" = member'.text ++ "" := by rw [same.1]
      obtain ⟨sameMember, -⟩ := text_unique (by decide)
        ((parts member (by simp)).isPlain (.inl rfl))
        ((parts' member' (by simp)).isPlain (.inl rfl)) nothing nothing sameText
      have sameMembers := ih (fun other isMember => parts other (List.mem_cons_of_mem _ isMember))
        (fun other isMember => parts' other (List.mem_cons_of_mem _ isMember)) same.2
      rw [sameMember, sameMembers]

end Member

namespace FunctionDefinition

variable {definition first second : FunctionDefinition}

theorem inputMembers_eq_shown (definition : FunctionDefinition) :
    definition.inputMembers = definition.shownParameters.map ShownParameter.member := by
  rw [shownParameters, List.map_map]
  rfl

theorem inputMember_isPart (plain : definition.HasPlainSignature) {member : Member}
    (isInput : member ∈ definition.inputMembers) : member.IsSignaturePart := by
  obtain ⟨parameter, inInputs, rfl⟩ := List.mem_map.mp isInput
  obtain ⟨name, typeName⟩ := plain.parameters parameter inInputs
  exact {
    keywords := fun keyword isKeyword => avoids_of_mem_accessKeywords isKeyword
    name := name
    mark := ⟨_, rfl⟩
    typeName := typeName }

theorem member_isPart (plain : definition.HasPlainSignature)
    (function : definition.isConstructor = false) : definition.member.IsSignaturePart := by
  obtain ⟨name, isName, plainName⟩ := plain.name function
  refine ⟨?_, ?_, ⟨_, rfl⟩, ?_⟩
  · intro keyword isKeyword
    simp only [member, List.mem_append, mem_keywordIf] at isKeyword
    rcases isKeyword with (isAccess | ⟨-, rfl⟩) | ⟨-, rfl⟩
    · exact avoids_of_mem_accessKeywords isAccess
    · decide
    · decide
  · simpa [member, isName] using plainName
  · cases returnType : definition.returnTypeName with
    | none => simp only [member, returnType]; decide
    | some typeName =>
      simpa [member, returnType] using plain.returnType function typeName returnType

/-! ## From the text to the parts -/

theorem avoids_head (plain : definition.HasPlainSignature) : Avoids ['('] definition.head := by
  cases kind : definition.isConstructor with
  | true => rw [head, if_pos kind]; decide
  | false =>
    rw [head_eq_member kind]
    exact (member_isPart plain kind).avoids_front.mono (by decide)

theorem avoids_of_mem_parameterTexts (plain : definition.HasPlainSignature) {text : String}
    (isText : text ∈ definition.parameterTexts) : Avoids [',', '(', ')'] text := by
  rw [parameterTexts_eq_members] at isText
  obtain ⟨member, isInput, rfl⟩ := List.mem_map.mp isText
  exact (inputMember_isPart plain isInput).avoids_text

theorem isItem_of_mem_parameterTexts (plain : definition.HasPlainSignature) {text : String}
    (isText : text ∈ definition.parameterTexts) : IsItem text := by
  refine ⟨?_, (avoids_of_mem_parameterTexts plain isText).mono (by decide)⟩
  rw [parameterTexts_eq_members] at isText
  obtain ⟨member, -, rfl⟩ := List.mem_map.mp isText
  exact member.text_ne_empty

theorem avoids_parametersText {multiLine : Bool} {margin inner : String}
    (isMargin : IsMargin margin) (isInner : IsMargin inner) {texts : List String}
    (avoids : ∀ text ∈ texts, Avoids [')'] text) :
    Avoids [')'] (parametersText multiLine margin inner texts) := by
  rw [parametersText]
  refine .ite ?_ (.intercalate (by decide) avoids)
  have lineFeed : Avoids [')'] "\n" := by decide
  have rows : ∀ row ∈ texts.map fun text => text ++ ",", Avoids [')'] row := by
    intro row isRow
    obtain ⟨text, isText, rfl⟩ := List.mem_map.mp isRow
    exact (avoids text isText).append (by decide)
  have inside := Avoids.linesText (.margin isInner (by decide) (by decide)) (by decide) rows
  exact (lineFeed.append inside).append (.margin isMargin (by decide) (by decide))

/-- The head ends at the first opening parenthesis and the parameters at the first closing one. -/
theorem parts_of_signatureText {margin inner : String} (isMargin : IsMargin margin)
    (isInner : IsMargin inner) (firstPlain : first.HasPlainSignature)
    (secondPlain : second.HasPlainSignature)
    (sameLayout : first.multiLineSignature = second.multiLineSignature)
    (same : signatureText margin inner first = signatureText margin inner second) :
    first.head = second.head ∧ first.tail = second.tail ∧
      first.parameterTexts = second.parameterTexts := by
  have noClosing {definition : FunctionDefinition} (plain : definition.HasPlainSignature) :
      Avoids [')'] (parametersText definition.multiLineSignature margin inner
        definition.parameterTexts) :=
    avoids_parametersText isMargin isInner fun text isText =>
      (avoids_of_mem_parameterTexts plain isText).mono (by decide)
  have opening (text : String) : Halts ['('] ("(" ++ text) :=
    .inr ⟨'(', text.toList, by simp, by simp⟩
  have closing (text : String) : Halts [')'] (")" ++ text) :=
    .inr ⟨')', text.toList, by simp, by simp⟩
  simp only [signatureText, parameterListText_eq, String.append_assoc, String.append_right_inj]
    at same
  obtain ⟨head, behindHead⟩ := cut_unique (avoids_head firstPlain) (avoids_head secondPlain)
    (opening _) (opening _) same
  obtain ⟨inside, behind⟩ := cut_unique (noClosing firstPlain) (noClosing secondPlain)
    (closing _) (closing _) ((String.append_right_inj _).mp behindHead)
  rw [sameLayout] at inside
  refine ⟨head, (String.append_right_inj _).mp behind, ?_⟩
  exact parametersText_unique isMargin isInner
    (fun _ => isItem_of_mem_parameterTexts firstPlain)
    (fun _ => isItem_of_mem_parameterTexts secondPlain) inside

theorem sameFunction_of_parts (firstPlain : first.HasPlainSignature)
    (secondPlain : second.HasPlainSignature) (firstFunction : first.isConstructor = false)
    (secondFunction : second.isConstructor = false)
    (head : first.head = second.head) (tail : first.tail = second.tail) :
    first.SameFunction second := by
  rw [head_eq_member firstFunction, head_eq_member secondFunction] at head
  rw [tail_eq_member firstFunction, tail_eq_member secondFunction] at tail
  have firstPart := member_isPart firstPlain firstFunction
  have secondPart := member_isPart secondPlain secondFunction
  have parenthesis : Opens ['('] "(" := ⟨'(', [], rfl, by simp⟩
  have nothing : Member.EndsType "" := ⟨.inl rfl, by simp⟩
  obtain ⟨keywords, name, mark, -⟩ := Member.front_unique (by decide)
    (firstPart.isPlain (.inr rfl)) (secondPart.isPlain (.inr rfl)) parenthesis parenthesis
    (congrArg (· ++ "(") head)
  obtain ⟨typeName, isMultivalued, withNull, -⟩ := Member.back_unique
    (firstPart.isPlain (.inr rfl)).typeName (secondPart.isPlain (.inr rfl)).typeName
    nothing nothing (congrArg (· ++ "") tail)
  have foreign (definition : FunctionDefinition) (modifier : AccessModifier) :
      modifier.keyword ∉ keywordIf definition.isStatic "static"
        ++ keywordIf (!definition.isStatic && definition.isAbstract) "abstract" := by
    intro inside
    simp only [List.mem_append, mem_keywordIf] at inside
    cases modifier <;> simp [AccessModifier.keyword] at inside
  simp only [member, List.append_assoc] at keywords
  obtain ⟨access, others⟩ := accessKeywords_unique (foreign first) (foreign second) keywords
  obtain ⟨isStatic, isAbstract⟩ := keywordIf_unique (by decide) others
  obtain ⟨firstName, isFirstName, -⟩ := firstPlain.name firstFunction
  obtain ⟨secondName, isSecondName, -⟩ := secondPlain.name secondFunction
  exact {
    access, isStatic, returnsMultivalued := isMultivalued, null := withNull
    isAbstract := by
      intro notStatic
      simpa [notStatic, ← isStatic] using isAbstract
    name := by simpa [member, isFirstName, isSecondName] using name
    question := questionMark_unique mark
    returnType := typeName }

theorem tail_ne_of_constructor (constructor : first.isConstructor = true)
    (function : second.isConstructor = false) : first.tail ≠ second.tail := by
  intro same
  rw [tail_eq_member function, tail, if_pos constructor, Member.back] at same
  have isEmpty := String.append_eq_empty_iff.mp same.symm
  exact absurd isEmpty.1 (by decide)

theorem sameSignature_of_parts (firstPlain : first.HasPlainSignature)
    (secondPlain : second.HasPlainSignature) (head : first.head = second.head)
    (tail : first.tail = second.tail) (parameters : first.parameterTexts = second.parameterTexts) :
    first.SameSignature second := by
  have isConstructor : first.isConstructor = second.isConstructor := by
    cases firstKind : first.isConstructor <;> cases secondKind : second.isConstructor
    · rfl
    · exact absurd tail.symm (tail_ne_of_constructor secondKind firstKind)
    · exact absurd tail (tail_ne_of_constructor firstKind secondKind)
    · rfl
  refine ⟨isConstructor, ?_, ?_⟩
  · rw [parameterTexts_eq_members, parameterTexts_eq_members] at parameters
    have members := Member.texts_unique (fun _ => inputMember_isPart firstPlain)
      (fun _ => inputMember_isPart secondPlain) parameters
    rw [inputMembers_eq_shown, inputMembers_eq_shown] at members
    exact (List.map_inj_right fun _ _ => ShownParameter.member_injective).mp members
  · intro firstFunction
    exact sameFunction_of_parts firstPlain secondPlain firstFunction
      (isConstructor ▸ firstFunction) head tail

/-! ## From the parts to the text -/

theorem member_eq_of_sameFunction (same : first.SameFunction second) :
    first.member = second.member := by
  have isAbstract : (!first.isStatic && first.isAbstract) =
      (!second.isStatic && second.isAbstract) := by
    rw [← same.isStatic]
    cases isStatic : first.isStatic with
    | true => rfl
    | false => rw [same.isAbstract isStatic]
  simp only [member, isAbstract]
  simp only [same.access, same.isStatic, same.name, same.question, same.returnType,
    same.returnsMultivalued, same.null]

theorem signatureText_congr (margin inner : String)
    (sameLayout : first.multiLineSignature = second.multiLineSignature)
    (same : first.SameSignature second) :
    signatureText margin inner first = signatureText margin inner second := by
  have parameters : first.parameterTexts = second.parameterTexts := by
    rw [parameterTexts_eq_members, parameterTexts_eq_members, inputMembers_eq_shown,
      inputMembers_eq_shown, same.parameters]
  have ends : first.head = second.head ∧ first.tail = second.tail := by
    cases kind : first.isConstructor with
    | true =>
      have kind' : second.isConstructor = true := by rw [← same.isConstructor, kind]
      simp [head, tail, kind, kind']
    | false =>
      have kind' : second.isConstructor = false := by rw [← same.isConstructor, kind]
      rw [head_eq_member kind, head_eq_member kind', tail_eq_member kind, tail_eq_member kind',
        member_eq_of_sameFunction (same.function kind)]
      exact ⟨rfl, rfl⟩
  simp only [signatureText, parameterListText_eq, ends, parameters, sameLayout]

def withoutResults (definition : FunctionDefinition) : FunctionDefinition :=
  { definition with parameters := definition.inputs }

theorem sameSignature_withoutResults (definition : FunctionDefinition) :
    definition.withoutResults.SameSignature definition where
  isConstructor := rfl
  parameters := by
    simp only [shownParameters, withoutResults, inputs, List.filter_filter, Bool.and_self]
  function := fun _ => by constructor <;> intros <;> rfl

def withoutAccess (definition : FunctionDefinition) : FunctionDefinition :=
  { definition with
    parameters := definition.parameters.map fun parameter => { parameter with access := none } }

theorem sameSignature_withoutAccess (function : definition.isConstructor = false) :
    definition.withoutAccess.SameSignature definition where
  isConstructor := rfl
  parameters := by
    simp only [shownParameters, withoutAccess, List.filter_map, List.map_map, function]
    rfl
  function := fun _ => by constructor <;> intros <;> rfl

end FunctionDefinition

theorem Writer.addedText_congr {first second : FunctionDefinition} (writer : Writer)
    (firstBare : first.description = []) (secondBare : second.description = [])
    (sameLayout : first.multiLineSignature = second.multiLineSignature)
    (same : first.SameSignature second) :
    addedText writer (writer.functionDeclaration first) =
      addedText writer (writer.functionDeclaration second) := by
  rw [addedText_functionDeclaration writer firstBare,
    addedText_functionDeclaration writer secondBare,
    FunctionDefinition.signatureText_congr _ _ sameLayout same]

/-- Functions in one layout at one level have the same text exactly if they agree on what a
signature shows: neither results, nor access outside constructors. -/
theorem signature_determines_function {first second : FunctionDefinition} {left right : Writer}
    (sameIndent : left.sheet.indent = right.sheet.indent) (sameLevel : left.level = right.level)
    (firstPlain : first.HasPlainSignature) (secondPlain : second.HasPlainSignature)
    (sameLayout : first.multiLineSignature = second.multiLineSignature) :
    (addedText left (left.functionDeclaration first) =
        addedText right (right.functionDeclaration second) ↔ first.SameSignature second) ∧
    addedText left (left.functionDeclaration first.withoutResults) =
      addedText left (left.functionDeclaration first) ∧
    (first.isConstructor = false →
      addedText left (left.functionDeclaration first.withoutAccess) =
        addedText left (left.functionDeclaration first)) := by
  have margin := Writer.margin_congr sameIndent sameLevel
  have inner := Writer.innerMargin_congr sameIndent sameLevel
  have isMargin : IsMargin right.margin := isMargin_copies _ _
  have isInner : IsMargin right.innerMargin := isMargin_copies _ _
  have bare := firstPlain.description
  refine ⟨?_, ?_, ?_⟩
  · rw [Writer.addedText_functionDeclaration left bare,
      Writer.addedText_functionDeclaration right secondPlain.description, margin, inner,
      String.append_left_inj]
    constructor
    · intro same
      obtain ⟨head, tail, parameters⟩ := FunctionDefinition.parts_of_signatureText isMargin
        isInner firstPlain secondPlain sameLayout same
      exact FunctionDefinition.sameSignature_of_parts firstPlain secondPlain head tail parameters
    · exact FunctionDefinition.signatureText_congr _ _ sameLayout
  · exact left.addedText_congr bare bare rfl first.sameSignature_withoutResults
  · intro function
    exact left.addedText_congr bare bare rfl
      (FunctionDefinition.sameSignature_withoutAccess function)

/-- A constructor is not taken for a function of that name. -/
theorem constructor_is_not_a_function :
    let parameter : ParameterDefinition := {
      name := "a", typeName := "T", isMultivalued := true, isOptional := true
      hasNullUnion := true, access := some .priv }
    let result : ParameterDefinition := { name := "r", typeName := "T", isResult := true }
    let first : FunctionDefinition := {
      isConstructor := true, parameters := [parameter], multiLineSignature := true }
    let second : FunctionDefinition := {
      name := some "constructor", parameters := [result, parameter], multiLineSignature := true }
    let deep : Writer := { sheet := { level := 2 } }
    let later : Writer := { sheet := { level := 2, text := "class A \x7b\n" } }
    first.HasPlainSignature ∧ second.HasPlainSignature ∧
      addedText deep (deep.functionDeclaration first) ≠
        addedText later (later.functionDeclaration second) := by
  intro parameter result first second deep later
  have parameterPlain : IsPlainName "a" ∧ IsPlainName "T" := by decide
  have firstPlain : first.HasPlainSignature := {
    description := rfl
    name := by intro function; simp [first] at function
    returnType := by intro _ typeName member; simp [first] at member
    parameters := by
      intro given member
      have inputs : first.inputs = [parameter] := rfl
      rw [inputs, List.mem_singleton] at member
      rw [member]
      exact parameterPlain }
  have secondPlain : second.HasPlainSignature := {
    description := rfl
    name := fun _ => ⟨"constructor", rfl, by decide⟩
    returnType := by intro _ typeName member; simp [second] at member
    parameters := by
      intro given member
      have inputs : second.inputs = [parameter] := rfl
      rw [inputs, List.mem_singleton] at member
      rw [member]
      exact parameterPlain }
  have sameIndent : deep.sheet.indent = later.sheet.indent := rfl
  have sameLevel : deep.level = later.level := rfl
  refine ⟨firstPlain, secondPlain, fun same => ?_⟩
  have sameSignature :=
    (signature_determines_function sameIndent sameLevel firstPlain secondPlain rfl).1.mp same
  exact absurd sameSignature.isConstructor (by decide)

end Typescribe
