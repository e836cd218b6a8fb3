import Typescribe.Proofs.Supplied
/-!
# Rendered texts

The headers, contents, doc lines and imports that definitions are written with are put together
from the texts of the definition, and from pieces of the writer's own. So a property of texts that
joining keeps holds of them if it holds of the texts that they are made of. `TextRules` says what
such a property has to allow. To close every bracket is one: the texts need not be free of
brackets, since a default value may be an empty list.
-/
set_option autoImplicit false

namespace Typescribe

variable {κ : Type}

/-- The first piece leaves brackets due, which the second closes. -/
structure Frame (opening ending : String) : Prop where
  pairs : ∃ owed, Shifts [] owed opening ∧ Shifts owed [] ending
  oneLine : Avoids ['\n'] (opening ++ ending)

theorem Frame.avoid_lineFeed {opening ending : String} (frame : Frame opening ending) :
    Avoids ['\n'] opening ∧ Avoids ['\n'] ending :=
  ⟨frame.oneLine.of_subset (by simp), frame.oneLine.of_subset (by simp)⟩

/-- A property of texts holds of what a writer puts together from them. -/
structure TextRules (holds : String → Prop) : Prop where
  own : ∀ {piece : String}, Avoids marks piece → holds piece
  append : ∀ {first second : String}, holds first → holds second → holds (first ++ second)
  between : ∀ {opening inside ending : String}, Frame opening ending → holds inside →
    holds (opening ++ inside ++ ending)
  quoted : ∀ {text : String}, holds text → holds (Text.quotedString text)

theorem Balanced.of_avoids {text : String} (avoids : Avoids marks text) : Balanced text :=
  .of_bracketFree (bracketFree_iff_avoids.mpr (avoids.mono (List.subset_cons_self _ _)))

theorem Balanced.rules : TextRules Balanced where
  own := .of_avoids
  append := Balanced.append
  between frame inside := by
    obtain ⟨owed, opens, closes⟩ := frame.pairs
    exact Balanced.between opens inside closes
  quoted := Balanced.quotedString

namespace TextRules

variable {holds : String → Prop}

theorem ite (_ : TextRules holds) {condition : Prop} [Decidable condition] {first second : String}
    (left : holds first) (right : holds second) : holds (if condition then first else second) := by
  split
  · exact left
  · exact right

variable (rules : TextRules holds)

include rules

theorem empty : holds "" := rules.own (by decide)

theorem intercalate {separator : String} (between : holds separator) {pieces : List String}
    (each : ∀ piece ∈ pieces, holds piece) : holds (separator.intercalate pieces) := by
  match pieces with
  | [] => exact rules.empty
  | [piece] =>
    rw [String.intercalate_singleton]
    exact each piece (by simp)
  | piece :: next :: rest =>
    have tail : holds (separator.intercalate (next :: rest)) :=
      intercalate between fun other member => each other (List.mem_cons_of_mem _ member)
    rw [String.intercalate_cons_cons]
    exact rules.append (rules.append (each piece (by simp)) between) tail

theorem array (isMultivalued : Bool) : holds (if isMultivalued then "[]" else "") := by
  have frame : Frame "[" "]" := ⟨⟨[']'], fun _ => rfl, fun _ => rfl⟩, by decide⟩
  exact rules.ite (rules.between frame rules.empty) rules.empty

/-! ## Headers and contents -/

theorem exportKeywords (isExported isDeclared : Bool) :
    holds (exportKeywords isExported isDeclared) :=
  rules.append (rules.ite (rules.own (by decide)) rules.empty)
    (rules.ite (rules.own (by decide)) rules.empty)

theorem nameList {keyword : String} (own : Avoids marks keyword) {names : List String}
    (each : ∀ name ∈ names, holds name) : holds (nameList keyword names) :=
  rules.ite rules.empty
    (rules.append (rules.own own) (rules.intercalate (rules.own (by decide)) each))

theorem classHeader {definition : ClassDefinition κ}
    (each : ∀ text ∈ definition.texts, holds text) : holds definition.header := by
  simp only [ClassDefinition.texts, List.forall_mem_append, List.forall_mem_cons] at each
  obtain ⟨name, ⟨⟨-, parents⟩, contracts⟩, -⟩ := each
  refine rules.append (rules.append (rules.append (rules.append (rules.append ?_ ?_) ?_) name)
    ?_) ?_
  · exact rules.exportKeywords _ _
  · exact rules.ite (rules.own (by decide)) rules.empty
  · exact rules.own (by decide)
  · exact rules.nameList (by decide) parents
  · exact rules.nameList (by decide) contracts

theorem interfaceHeader {definition : InterfaceDefinition}
    (each : ∀ text ∈ definition.texts, holds text) : holds definition.header := by
  simp only [InterfaceDefinition.texts, List.forall_mem_append, List.forall_mem_cons] at each
  obtain ⟨name, -, parents⟩ := each
  refine rules.append (rules.append (rules.append ?_ ?_) name) ?_
  · exact rules.exportKeywords _ _
  · exact rules.own (by decide)
  · exact rules.nameList (by decide) parents

theorem enumHeader {definition : EnumDefinition}
    (each : ∀ text ∈ definition.texts, holds text) : holds definition.header := by
  simp only [EnumDefinition.texts, List.forall_mem_append, List.forall_mem_cons] at each
  obtain ⟨name, -, -⟩ := each
  refine rules.append (rules.append (rules.append ?_ ?_) ?_) name
  · exact rules.exportKeywords _ _
  · exact rules.ite (rules.own (by decide)) rules.empty
  · exact rules.own (by decide)

theorem enumMemberContent {member : EnumMember} (each : ∀ text ∈ member.texts, holds text) :
    holds member.content := by
  simp only [EnumMember.texts, List.forall_mem_append, List.forall_mem_cons] at each
  obtain ⟨name, -, value⟩ := each
  rw [EnumMember.content]
  refine rules.append name ?_
  split
  · exact rules.empty
  · next given isGiven =>
    rw [isGiven] at value
    refine rules.append (rules.own (by decide)) ?_
    cases given with
    | number number => exact rules.own (avoids_toString _)
    | text text => exact rules.quoted (value text (by simp [EnumValue.texts]))

theorem literalTypeContent {definition : StringLiteralType}
    (each : ∀ text ∈ definition.texts, holds text) : holds definition.content := by
  simp only [StringLiteralType.texts, List.forall_mem_append, List.forall_mem_cons] at each
  obtain ⟨name, -, literals⟩ := each
  have union : holds definition.union :=
    rules.ite (rules.own (by decide)) (rules.intercalate (rules.own (by decide))
      (List.forall_mem_map.mpr fun literal member => rules.quoted (literals literal member)))
  refine rules.append (rules.append (rules.append (rules.append (rules.append ?_ ?_) name) ?_)
    union) ?_
  · exact rules.exportKeywords _ _
  all_goals exact rules.own (by decide)

theorem variableContent {definition : VariableDefinition}
    (each : ∀ text ∈ definition.texts, holds text) : holds definition.content := by
  simp only [VariableDefinition.texts, List.forall_mem_append, List.forall_mem_cons,
    Option.mem_toList] at each
  obtain ⟨name, ⟨-, typeName⟩, initializer⟩ := each
  have keyword : holds definition.kind.keyword := by
    refine rules.own ?_
    cases definition.kind <;> decide
  have blank : holds " " := rules.own (by decide)
  have semicolon : holds ";" := rules.own (by decide)
  rw [VariableDefinition.content]
  refine rules.append (rules.append (rules.append (rules.append (rules.append (rules.append
    (rules.exportKeywords _ _) keyword) blank) name) ?typePart) ?valuePart) semicolon
  case typePart =>
    split
    · exact rules.empty
    · next given isGiven => exact rules.append (rules.own (by decide)) (typeName given isGiven)
  case valuePart =>
    split
    · exact rules.empty
    · next given isGiven => exact rules.append (rules.own (by decide)) (initializer given isGiven)

theorem accessPrefix (access : Option AccessModifier) : holds (accessPrefix access) := by
  refine rules.own ?_
  cases access with
  | none => decide
  | some access => cases access <;> decide

theorem typeText {typeName : String} (named : holds typeName) (isMultivalued withNull : Bool) :
    holds (typeText typeName isMultivalued withNull) :=
  rules.append (rules.append named (rules.array _))
    (rules.ite (rules.own (by decide)) rules.empty)

theorem propertyContent {definition : PropertyDefinition κ}
    (each : ∀ text ∈ definition.texts, holds text) : holds definition.content := by
  simp only [PropertyDefinition.texts, List.forall_mem_append, List.forall_mem_cons,
    Option.mem_toList] at each
  obtain ⟨name, typeName, ⟨-, value⟩, -⟩ := each
  have mark : holds definition.mark :=
    rules.ite (rules.own (by decide)) (rules.ite (rules.own (by decide)) rules.empty)
  have staticKeyword : holds (if definition.isStatic then "static " else "") :=
    rules.ite (rules.own (by decide)) rules.empty
  have readonlyKeyword : holds (if definition.isReadonly then "readonly " else "") :=
    rules.ite (rules.own (by decide)) rules.empty
  have colon : holds ": " := rules.own (by decide)
  have semicolon : holds ";" := rules.own (by decide)
  rw [PropertyDefinition.content]
  refine rules.append (rules.append (rules.append (rules.append (rules.append (rules.append
    (rules.append (rules.append (rules.accessPrefix _) staticKeyword) readonlyKeyword) name) mark)
      colon) (rules.typeText typeName _ _)) ?valuePart) semicolon
  split
  · exact rules.empty
  · next given isGiven => exact rules.append (rules.own (by decide)) (value given isGiven)

theorem parameterContent {definition : ParameterDefinition}
    (each : ∀ text ∈ definition.texts, holds text) (inConstructor : Bool) :
    holds (definition.content inConstructor) := by
  simp only [ParameterDefinition.texts, List.forall_mem_cons] at each
  obtain ⟨name, typeName, -⟩ := each
  have question : holds
      (if definition.isOptional && definition.usesQuestionToken then "?" else "") :=
    rules.ite (rules.own (by decide)) rules.empty
  have colon : holds ": " := rules.own (by decide)
  exact rules.append (rules.append (rules.append (rules.append
    (rules.ite (rules.accessPrefix _) rules.empty) name) question) colon)
      (rules.typeText typeName _ _)

theorem functionHead {definition : FunctionDefinition}
    (each : ∀ text ∈ definition.texts, holds text) : holds definition.head := by
  simp only [FunctionDefinition.texts, List.forall_mem_append, Option.mem_toList] at each
  obtain ⟨⟨⟨name, -⟩, -⟩, -⟩ := each
  have modifier : holds definition.modifier :=
    rules.ite (rules.own (by decide)) (rules.ite (rules.own (by decide)) rules.empty)
  have nameOrNothing : holds (definition.name.getD "") := by
    cases given : definition.name with
    | none => exact rules.empty
    | some text => exact name text given
  exact rules.ite (rules.own (by decide)) (rules.append (rules.append (rules.append
    (rules.accessPrefix _) modifier) nameOrNothing) (rules.ite (rules.own (by decide)) rules.empty))

theorem functionTail {definition : FunctionDefinition}
    (each : ∀ text ∈ definition.texts, holds text) : holds definition.tail := by
  simp only [FunctionDefinition.texts, List.forall_mem_append, Option.mem_toList] at each
  obtain ⟨⟨-, result⟩, -⟩ := each
  have typeName : holds (definition.returnTypeName.getD "void") := by
    cases given : definition.returnTypeName with
    | none => exact rules.own (by decide)
    | some text => exact result text given
  exact rules.ite rules.empty
    (rules.append (rules.own (by decide)) (rules.typeText typeName _ _))

theorem parameterTexts {definition : FunctionDefinition}
    (each : ∀ text ∈ definition.texts, holds text) :
    ∀ text ∈ definition.parameterTexts, holds text := by
  simp only [FunctionDefinition.texts, List.forall_mem_append] at each
  refine List.forall_mem_map.mpr fun parameter isInput => ?_
  refine rules.parameterContent (fun text member => ?_) _
  exact each.2 text (List.mem_flatMap.mpr ⟨parameter, (List.mem_filter.mp isInput).1, member⟩)

/-! ## Doc comments -/

theorem paragraphLines {paragraphs : List String}
    (each : ∀ paragraph ∈ paragraphs, holds paragraph) :
    ∀ line ∈ Docs.paragraphLines paragraphs, holds line := by
  have separated (lines : List String) (eachLine : ∀ line ∈ lines, holds line) :
      ∀ line ∈ lines.intersperse "", holds line := by
    intro line member
    fun_induction List.intersperse "" lines with
    | case1 => simp at member
    | case2 only => exact eachLine line member
    | case3 first rest notSingle ih =>
      simp only [List.mem_cons] at member
      rcases member with rfl | rfl | inRest
      · exact eachLine line (by simp)
      · exact rules.empty
      · exact ih (fun other isOther => eachLine other (by simp [isOther])) inRest
  exact separated _ fun line member => each line (List.mem_filter.mp member).1

theorem parameterTag {parameter : ParameterDefinition}
    (each : ∀ text ∈ parameter.texts, holds text) : holds (Docs.parameterTag parameter) := by
  simp only [ParameterDefinition.texts, List.forall_mem_cons] at each
  obtain ⟨name, typeName, description⟩ := each
  have blank : holds " " := rules.own (by decide)
  have type : holds (parameter.typeName ++ if parameter.isMultivalued then "[]" else "") :=
    rules.append typeName (rules.array _)
  have resultFrame : Frame "@returns \x7b" "\x7d" :=
    ⟨⟨['\x7d'], fun _ => rfl, fun _ => rfl⟩, by decide⟩
  have parameterFrame : Frame "@param \x7b" "\x7d " :=
    ⟨⟨['\x7d'], fun _ => rfl, fun _ => rfl⟩, by decide⟩
  have tag : holds (if parameter.isResult then
        "@returns \x7b" ++ (parameter.typeName ++ if parameter.isMultivalued then "[]" else "")
          ++ "\x7d"
      else
        "@param \x7b" ++ (parameter.typeName ++ if parameter.isMultivalued then "[]" else "")
          ++ "\x7d " ++ parameter.name) :=
    rules.ite (rules.between resultFrame type)
      (rules.append (rules.between parameterFrame type) name)
  exact rules.ite tag (rules.append (rules.append tag blank) (rules.intercalate blank description))

theorem functionLines {definition : FunctionDefinition}
    (each : ∀ text ∈ definition.texts, holds text) :
    ∀ line ∈ Docs.functionLines definition, holds line := by
  simp only [FunctionDefinition.texts, List.forall_mem_append] at each
  obtain ⟨⟨⟨-, description⟩, -⟩, parameters⟩ := each
  rw [Docs.functionLines]
  split
  · simp
  · refine List.forall_mem_append.mpr ⟨rules.paragraphLines description, ?_⟩
    refine List.forall_mem_map.mpr fun parameter isTagged => ?_
    refine rules.parameterTag fun text member => ?_
    exact parameters text
      (List.mem_flatMap.mpr ⟨parameter, (List.mem_filter.mp isTagged).1, member⟩)

/-! ## Imports -/

theorem namedImport {name : String} {names : List String} (path : holds (modulePath name))
    (each : ∀ text ∈ names, holds text) : ∀ line ∈ namedImport? name names, holds line := by
  have frame : Frame "import \x7b " " \x7d from '" :=
    ⟨⟨['\x7d'], fun _ => rfl, fun _ => rfl⟩, by decide⟩
  have list : holds (", ".intercalate names) := rules.intercalate (rules.own (by decide)) each
  intro line isLine
  rw [namedImport?] at isLine
  split at isLine
  · simp at isLine
  · rw [← Option.some.inj isLine]
    exact rules.append (rules.append (rules.between frame list) path) (rules.own (by decide))

theorem wholeImport {name : String} {given : Option String} (path : holds (modulePath name))
    (aliasName : holds (importAlias name given)) :
    ∀ line ∈ wholeImport? name given, holds line := by
  intro line isLine
  rw [wholeImport?] at isLine
  split at isLine
  · simp at isLine
  · rw [← Option.some.inj isLine]
    exact rules.append (rules.append (rules.append (rules.append (rules.own (by decide)) aliasName)
      (rules.own (by decide))) path) (rules.own (by decide))

end TextRules

/-! ## Signatures -/

theorem FunctionDefinition.balanced_signatureText {definition : FunctionDefinition}
    (balanced : ∀ text ∈ definition.texts, Balanced text) {margin inner : String}
    (isMargin : IsMargin margin) (isInner : IsMargin inner) :
    Balanced (signatureText margin inner definition) := by
  have parameters := Balanced.rules.parameterTexts balanced
  have comma : Balanced "," := .of_bracketFree (by decide)
  have rows : ∀ row ∈ definition.parameterTexts.map fun text => text ++ ",", Balanced row :=
    List.forall_mem_map.mpr fun text member => (parameters text member).append comma
  have opens : Shifts [] [')'] "(" := fun _ => rfl
  have opensLine : Shifts [] [')'] "(\n" := fun _ => rfl
  have closes : Shifts [')'] [] ")" := fun _ => rfl
  have list : Balanced (parameterListText margin inner definition) := by
    rw [parameterListText]
    have comma : Balanced ", " := .of_bracketFree (by decide)
    refine Balanced.rules.ite ?_
      (Balanced.between opens (Balanced.rules.intercalate comma parameters) closes)
    have lines := (Balanced.linesText isInner rows).shifts [')']
    have blanks := (Balanced.margin isMargin).shifts [')']
    exact ((opensLine.append lines).append blanks).append closes
  exact (((Balanced.margin isMargin).append (Balanced.rules.functionHead balanced)).append
    list).append (Balanced.rules.functionTail balanced)

end Typescribe
