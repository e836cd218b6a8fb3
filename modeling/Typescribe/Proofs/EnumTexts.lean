import Typescribe.Proofs.Documentation
import Typescribe.Proofs.Tokens
/-!
# Enums read back

The tokens of an enum are its keywords, its name and, between braces, its members with a comma
between any two. A reader of tokens takes them back to the enum without its descriptions: a name
in front of a comma or the closing brace has no value, and behind a comma another member must
follow.
-/
set_option autoImplicit false

namespace Typescribe

/-! ## Tokens of an enum -/

def EnumMember.tokens (member : EnumMember) : List Token :=
  .word member.name :: match member.value with
    | none => []
    | some value => [.equals, .value value]

namespace EnumDefinition

def keywords (definition : EnumDefinition) : List String :=
  keywordIf definition.isExported "export" ++ keywordIf definition.isDeclared "declare"
    ++ keywordIf definition.isConst "const" ++ ["enum"]

def headerTokens (definition : EnumDefinition) : List Token :=
  definition.keywords.map .word ++ [.word definition.name, .opening]

def tokens (definition : EnumDefinition) : List Token :=
  definition.headerTokens
    ++ List.intercalate [.comma] (definition.members.map EnumMember.tokens) ++ [.closing]

end EnumDefinition

/-! ## Reading tokens -/

def keywordFirst (keyword : String) : List Token → Bool × List Token
  | .word name :: rest => if name = keyword then (true, rest) else (false, .word name :: rest)
  | tokens => (false, tokens)

def someMembers? : List Token → Option (List EnumMember × List Token)
  | .word name :: .comma :: rest =>
    (someMembers? rest).map (Prod.map (List.cons { name }) id)
  | .word name :: .closing :: rest => some ([{ name }], rest)
  | .word name :: .equals :: .value value :: .comma :: rest =>
    (someMembers? rest).map (Prod.map (List.cons { name, value := some value }) id)
  | .word name :: .equals :: .value value :: .closing :: rest =>
    some ([{ name, value := some value }], rest)
  | _ => none

def members? : List Token → Option (List EnumMember × List Token)
  | .closing :: rest => some ([], rest)
  | tokens => someMembers? tokens

def enumOf? (tokens : List Token) : Option (EnumDefinition × List Token) :=
  let (isExported, tokens) := keywordFirst "export" tokens
  let (isDeclared, tokens) := keywordFirst "declare" tokens
  let (isConst, tokens) := keywordFirst "const" tokens
  let (isEnum, tokens) := keywordFirst "enum" tokens
  match isEnum, tokens with
  | true, .word name :: .opening :: tokens => (members? tokens).map
    (Prod.map (fun members => { name, isExported, isDeclared, isConst, members }) id)
  | _, _ => none

/-- The enum that begins a text, and the tokens behind it. -/
def readEnum? (text : String) : Option (EnumDefinition × List Token) :=
  (tokens? text.toList).bind enumOf?

/-! ## From text to tokens -/

theorem Lexes.keywordsText {keywords : List String}
    (words : ∀ keyword ∈ keywords, isIdentifier keyword = true) :
    Lexes (keywordsText keywords) (keywords.map .word) := by
  induction keywords with
  | nil => exact nil
  | cons keyword keywords ih =>
    have blank : Lexes " " [] := signs (by decide)
    have others := ih fun other member => words other (by simp [member])
    have opens : Opens Token.separators (" " ++ Typescribe.keywordsText keywords) :=
      Opens.append ⟨' ', [], rfl, by decide⟩ _
    rw [Typescribe.keywordsText, String.append_assoc, List.map_cons]
    exact word (words keyword (by simp)) opens (blank.append others)

theorem EnumMember.lexes_content {member : EnumMember} (isName : isIdentifier member.name = true)
    {ending : String} {behind : List Token} (opens : Opens Token.separators ending)
    (trailing : Lexes ending behind) :
    Lexes (member.content ++ ending) (member.tokens ++ behind) := by
  rw [content, tokens, String.append_assoc]
  cases member.value with
  | none =>
    rw [String.empty_append]
    exact Lexes.word isName opens trailing
  | some value =>
    have equals : Lexes " = " [.equals] := Lexes.signs (by decide)
    have opensEquals : Opens Token.separators (" = " ++ (value.render ++ ending)) :=
      Opens.append ⟨' ', ['=', ' '], rfl, by decide⟩ _
    rw [String.append_assoc]
    exact Lexes.word isName opensEquals (equals.append (Lexes.value value opens trailing))

theorem lexes_membersText {margin : String} (isMargin : IsMargin margin) (width : UInt64)
    (members : List EnumMember) (areNames : ∀ member ∈ members, isIdentifier member.name = true) :
    Lexes (membersText margin width members)
      (List.intercalate [.comma] (members.map EnumMember.tokens)) := by
  have comment (member : EnumMember) := Lexes.docText isMargin width
    (Docs.paragraphLines member.description)
  have blanks := Lexes.margin isMargin
  match members with
  | [] => exact Lexes.nil
  | [member] =>
    have lineFeed : Lexes "\n" [] := Lexes.signs (by decide)
    have content := EnumMember.lexes_content (areNames member (by simp))
      ⟨'\n', [], rfl, by decide⟩ lineFeed
    have whole := (comment member).append (blanks.append content)
    simpa [membersText, lineText, List.intercalate, String.append_assoc] using whole
  | member :: next :: members =>
    have commaLine : Lexes ",\n" [.comma] := Lexes.signs (by decide)
    have content := EnumMember.lexes_content (areNames member (by simp))
      ⟨',', ['\n'], rfl, by decide⟩ commaLine
    have others := lexes_membersText isMargin width (next :: members) fun other inside =>
      areNames other (List.mem_cons_of_mem _ inside)
    have whole := ((comment member).append (blanks.append content)).append others
    have line : member.content ++ "," ++ "\n" = member.content ++ ",\n" := by
      rw [String.append_assoc]
      rfl
    simpa [membersText, lineText, List.intercalate, String.append_assoc, line] using whole

namespace EnumDefinition

theorem header_eq_keywords (definition : EnumDefinition) :
    definition.header = keywordsText definition.keywords ++ definition.name := by
  have enumKeyword : keywordsText ["enum"] = "enum " := rfl
  simp only [header, exportKeywords, keywords, keywordsText_append, keywordsText_keywordIf,
    enumKeyword, String.append_assoc]
  rfl

theorem isIdentifier_of_mem_keywords {definition : EnumDefinition} {keyword : String}
    (member : keyword ∈ definition.keywords) : isIdentifier keyword = true := by
  simp only [keywords, List.mem_append, mem_keywordIf, List.mem_singleton] at member
  rcases member with ((⟨-, rfl⟩ | ⟨-, rfl⟩) | ⟨-, rfl⟩) | rfl <;> decide

theorem lexes_header {margin : String} (isMargin : IsMargin margin) {definition : EnumDefinition}
    (isName : isIdentifier definition.name = true) :
    Lexes (lineText margin (definition.header ++ " \x7b")) definition.headerTokens := by
  have brace : Lexes " \x7b\n" [.opening] := Lexes.signs (by decide)
  have named := Lexes.word isName ⟨' ', ['\x7b', '\n'], rfl, by decide⟩ brace
  have keywords : Lexes (keywordsText definition.keywords) (definition.keywords.map .word) :=
    Lexes.keywordsText fun keyword member => isIdentifier_of_mem_keywords member
  have whole := (Lexes.margin isMargin).append (keywords.append named)
  have line : " \x7b" ++ "\n" = " \x7b\n" := rfl
  simpa [lineText, header_eq_keywords, headerTokens, String.append_assoc, line] using whole

theorem lexes_enum (writer : Writer) {definition : EnumDefinition}
    (isName : isIdentifier definition.name = true)
    (areNames : ∀ member ∈ definition.members, isIdentifier member.name = true) :
    Lexes (addedText writer (writer.enum definition)) definition.tokens := by
  have isMargin : IsMargin writer.margin := isMargin_copies _ _
  have isInnerMargin : IsMargin writer.innerMargin := isMargin_copies _ _
  have added := addedText_of_text
    ((congrArg Writer.text (Writer.enum_eq_write definition writer)).trans (Writer.text_write _ _))
  have comment := Lexes.docText isMargin writer.commentWidth
    (Docs.paragraphLines definition.description)
  have members := lexes_membersText isInnerMargin writer.commentWidth definition.members areNames
  have brace : Lexes "\x7d\n" [.closing] := Lexes.signs (by decide)
  have last := (Lexes.margin isMargin).append brace
  have line : "\x7d" ++ "\n" = "\x7d\n" := rfl
  have whole := ((comment.append (lexes_header isMargin isName)).append members).append last
  rw [added, tokens]
  simpa [lineText, String.append_assoc, line] using whole

end EnumDefinition

/-! ## From tokens to the enum -/

theorem keywordFirst_keywordIf (condition : Bool) (keyword : String) (others : List String)
    (isOther : keyword ∉ others) (notEmpty : others ≠ []) (rest : List Token) :
    keywordFirst keyword ((keywordIf condition keyword ++ others).map .word ++ rest) =
      (condition, others.map .word ++ rest) := by
  obtain ⟨other, others, rfl⟩ := List.exists_cons_of_ne_nil notEmpty
  cases condition with
  | true => simp [keywordIf, keywordFirst]
  | false =>
    have different : other ≠ keyword := by
      rintro rfl
      exact isOther (by simp)
    simp [keywordIf, keywordFirst, different]

theorem someMembers_tokens (members : List EnumMember) (notEmpty : members ≠ [])
    (rest : List Token) :
    someMembers? (List.intercalate [.comma] (members.map EnumMember.tokens)
      ++ .closing :: rest) = some (members.map EnumMember.undocumented, rest) := by
  match members with
  | [] => exact absurd rfl notEmpty
  | [member] =>
    obtain ⟨name, description, value⟩ := member
    cases value <;> rfl
  | member :: next :: members =>
    have others := someMembers_tokens (next :: members) (by simp) rest
    have joined : List.intercalate [Token.comma]
        ((member :: next :: members).map EnumMember.tokens) = member.tokens ++ .comma ::
          List.intercalate [Token.comma] ((next :: members).map EnumMember.tokens) := by
      simp [List.intercalate]
    rw [joined, List.append_assoc, List.cons_append]
    -- A comma stands behind the member, where two clauses of the reader go on: that for a name
    -- alone and that for a name with a value.
    obtain ⟨name, description, value⟩ := member
    cases value with
    | none =>
      rw [EnumMember.tokens, List.cons_append, List.nil_append, someMembers?, others]
      rfl
    | some value =>
      rw [EnumMember.tokens, List.cons_append, List.cons_append, List.cons_append,
        List.nil_append, someMembers?, others]
      rfl

theorem members_tokens (members : List EnumMember) (rest : List Token) :
    members? (List.intercalate [.comma] (members.map EnumMember.tokens) ++ .closing :: rest) =
      some (members.map EnumMember.undocumented, rest) := by
  cases members with
  | nil => rfl
  | cons member members =>
    have read := someMembers_tokens (member :: members) (by simp) rest
    -- The first token is the name of a member, whether another member follows or not.
    cases members with
    | nil => exact read
    | cons next members => exact read

theorem enumOf_tokens (definition : EnumDefinition) (rest : List Token) :
    enumOf? (definition.tokens ++ rest) = some (definition.undocumented, rest) := by
  let afterDeclare := keywordIf definition.isConst "const" ++ ["enum"]
  let afterExport := keywordIf definition.isDeclared "declare" ++ afterDeclare
  let body := .word definition.name :: .opening ::
    (List.intercalate [.comma] (definition.members.map EnumMember.tokens) ++ .closing :: rest)
  have exported := keywordFirst_keywordIf definition.isExported "export" afterExport
    (by simp [afterExport, afterDeclare, mem_keywordIf]) (by simp [afterExport, afterDeclare]) body
  have declared := keywordFirst_keywordIf definition.isDeclared "declare" afterDeclare
    (by simp [afterDeclare, mem_keywordIf]) (by simp [afterDeclare]) body
  have const := keywordFirst_keywordIf definition.isConst "const" ["enum"] (by simp) (by simp) body
  have parts : definition.tokens ++ rest =
      (keywordIf definition.isExported "export" ++ afterExport).map .word ++ body := by
    simp [EnumDefinition.tokens, EnumDefinition.headerTokens, EnumDefinition.keywords, body,
      afterExport, afterDeclare]
  have enumKeyword : keywordFirst "enum" (["enum"].map .word ++ body) = (true, body) := rfl
  rw [parts, enumOf?, exported]
  dsimp only
  rw [declared]
  dsimp only
  rw [const]
  dsimp only
  rw [enumKeyword]
  dsimp only [body]
  rw [members_tokens]
  rfl

/-- From the tokens of an enum its keywords, its name, and its members in order with their values
are read back, whatever its texts say and whatever follows. -/
theorem enum_reads_back (writer : Writer) (definition : EnumDefinition)
    (isName : isIdentifier definition.name = true)
    (areNames : ∀ member ∈ definition.members, isIdentifier member.name = true) :
    tokens? (addedText writer (writer.enum definition)).toList = some definition.tokens ∧
    ∀ rest, readEnum? (addedText writer (writer.enum definition) ++ rest) =
      (tokens? rest.toList).map fun behind => (definition.undocumented, behind) := by
  have lexes := EnumDefinition.lexes_enum writer isName areNames
  refine ⟨lexes.tokens_eq, ?_⟩
  intro rest
  rw [readEnum?, String.toList_append, lexes]
  cases tokens? rest.toList with
  | none => rfl
  | some behind => exact enumOf_tokens definition behind

theorem misleading_enum_reads_back :
    let definition : EnumDefinition :=
      { name := "const", description := ["*/ export enum a \x7b"], isConst := true,
        members :=
          [{ name := "enum", value := some (.number 0) },
           { name := "$", description := ["', b = 1,", "\x7d"], value := some (.text "") },
           { name := "export" },
           { name := "_1", value := some (.text "', /* c") },
           { name := "d", value := some (.number (-9223372036854775808)) }] }
    let writer : Writer := { sheet := { level := 1 }, commentWidth := 4 }
    isIdentifier definition.name = true ∧
    (∀ member ∈ definition.members, isIdentifier member.name = true) ∧
    tokens? (addedText writer (writer.enum definition)).toList = some definition.tokens ∧
    readEnum? (addedText writer (writer.enum definition) ++ ",") =
      some (definition.undocumented, [.comma]) := by
  intro definition writer
  have isName : isIdentifier definition.name = true := by decide
  have areNames : ∀ member ∈ definition.members, isIdentifier member.name = true := by decide
  have comma : tokens? ",".toList = some [.comma] :=
    Lexes.tokens_eq (Lexes.signs (by decide))
  obtain ⟨isTokens, readsBack⟩ := enum_reads_back writer definition isName areNames
  have readsOn := readsBack ","
  rw [comma] at readsOn
  exact ⟨isName, areNames, isTokens, readsOn⟩

end Typescribe
