import Typescribe.Proofs.Plain
import Typescribe.Toml.Quotation
/-!
# Literals read back

A reader of literals in single quotes goes through a text letter by letter. It knows the escapes
of the backslash, the quote, the line feed, the carriage return and the tab, and code points in
four hexadecimal digits or in any number of them between braces; it stops at the first quote that
is not escaped and rejects raw line terminators, other escapes and code points that are not
characters. Reading undoes `quoted`, whatever follows the literal, so that every literal in the
output ends where the writer goes on.
-/
set_option autoImplicit false

namespace Typescribe

namespace Text

def isLineTerminator (letter : Char) : Bool :=
  letter = '\n' || letter = '\r' || letter = '\u2028' || letter = '\u2029'

inductive LiteralState where
  | plain
  | escape
  | unicode
  /-- Fewer than four digits behind `\u`. -/
  | digits (taken : List Char)
  /-- Some digits behind `\u` and a brace. -/
  | braced (taken : List Char)
  deriving DecidableEq

def literalEscape? (letter : Char) : Option Char :=
  [('\\', '\\'), ('\'', '\''), ('n', '\n'), ('r', '\r'), ('t', '\t')].lookup letter

/-- The characters that a letter completes, and the state behind it. -/
def LiteralState.next : LiteralState → Char → Option (List Char × LiteralState)
  | .plain, letter =>
    if letter = '\\' then some ([], .escape)
    else if isLineTerminator letter then none
    else some ([letter], .plain)
  | .escape, letter =>
    if letter = 'u' then some ([], .unicode)
    else (literalEscape? letter).map fun meant => ([meant], .plain)
  | .unicode, letter => some ([], if letter = '\x7b' then .braced [] else .digits [letter])
  | .digits taken, letter =>
    if taken.length < 3 then some ([], .digits (taken ++ [letter]))
    else (Toml.codePoint? (taken ++ [letter])).map fun meant => ([meant], .plain)
  | .braced taken, letter =>
    if letter = '\x7d' then (Toml.codePoint? taken).map fun meant => ([meant], .plain)
    else some ([], .braced (taken ++ [letter]))

/-- What a literal says from a state on, and what follows its closing quote. -/
def readRest? (state : LiteralState) : List Char → Option (List Char × List Char)
  | [] => none
  | letter :: rest =>
    if state = .plain ∧ letter = '\'' then some ([], rest)
    else (state.next letter).bind fun (meant, next) =>
      (readRest? next rest).map (Toml.putBefore meant)

/-- The text that a literal stands for, and what follows the literal. -/
def readLiteral? (source : String) : Option (String × String) :=
  match source.toList with
  | '\'' :: rest =>
    (readRest? .plain rest).map fun read => (String.ofList read.1, String.ofList read.2)
  | _ => none

/-! ## Escapes -/

theorem codePoint_toDigits (letter : Char) :
    Toml.codePoint? (Nat.toDigits 16 letter.toNat) = some letter := by
  have valid : letter.toNat.isValidChar := letter.valid
  rw [Toml.codePoint?, numberOfDigits_toDigits (by decide) (by decide), Option.bind_some,
    if_pos valid, Char.ofNat_toNat]

@[simp] theorem putBefore_nil : Toml.putBefore [] = id := rfl

theorem readRest_simple {letter meant : Char} (known : literalEscape? letter = some meant)
    (notUnicode : letter ≠ 'u') (rest : List Char) :
    readRest? .plain ('\\' :: letter :: rest) =
      (readRest? .plain rest).map (Toml.putBefore [meant]) := by
  simp [readRest?, LiteralState.next, known, notUnicode]

theorem readRest_fixed {first second third fourth meant : Char}
    (known : Toml.codePoint? [first, second, third, fourth] = some meant)
    (noBrace : first ≠ '\x7b') (rest : List Char) :
    readRest? .plain ('\\' :: 'u' :: first :: second :: third :: fourth :: rest) =
      (readRest? .plain rest).map (Toml.putBefore [meant]) := by
  simp [readRest?, LiteralState.next, known, noBrace]

theorem readRest_braced {taken digits : List Char} {meant : Char} (noBrace : '\x7d' ∉ digits)
    (known : Toml.codePoint? (taken ++ digits) = some meant) (rest : List Char) :
    readRest? (.braced taken) (digits ++ '\x7d' :: rest) =
      (readRest? .plain rest).map (Toml.putBefore [meant]) := by
  induction digits generalizing taken with
  | nil =>
    rw [List.append_nil] at known
    simp [readRest?, LiteralState.next, known]
  | cons digit digits ih =>
    have isDigit : digit ≠ '\x7d' := fun same => noBrace (by simp [same])
    have others : '\x7d' ∉ digits := fun inside => noBrace (by simp [inside])
    have step : readRest? (.braced taken) (digit :: digits ++ '\x7d' :: rest) =
        readRest? (.braced (taken ++ [digit])) (digits ++ '\x7d' :: rest) := by
      simp [readRest?, LiteralState.next, isDigit]
    rw [step, ih others (by rwa [List.append_assoc])]

theorem readRest_escaped (letter : Char) (rest : List Char) :
    readRest? .plain (escaped letter ++ rest) =
      (readRest? .plain rest).map (Toml.putBefore [letter]) := by
  rw [escaped]
  split
  · next same => rw [same]; exact readRest_simple rfl (by decide) rest
  split
  · next same => rw [same]; exact readRest_simple rfl (by decide) rest
  split
  · next same => rw [same]; exact readRest_simple rfl (by decide) rest
  split
  · next same => rw [same]; exact readRest_simple rfl (by decide) rest
  split
  · next same => rw [same]; exact readRest_simple rfl (by decide) rest
  split
  · next same => rw [same]; exact readRest_fixed rfl (by decide) rest
  split
  · next same => rw [same]; exact readRest_fixed rfl (by decide) rest
  split
  · next control =>
    have noBrace : '\x7d' ∉ Nat.toDigits 16 letter.toNat := fun inside =>
      absurd (plain_of_mem_toDigits (by decide) (by decide) _ _ inside) (by decide)
    have opened : readRest? .plain ('\\' :: 'u' :: '\x7b' ::
          (Nat.toDigits 16 letter.toNat ++ ['\x7d']) ++ rest) =
        readRest? (.braced []) (Nat.toDigits 16 letter.toNat ++ '\x7d' :: rest) := by
      simp [readRest?, LiteralState.next]
    rw [opened, readRest_braced noBrace (codePoint_toDigits letter)]
  · next noBackslash noQuote noLineFeed noReturn _ noLine noParagraph _ =>
    have noLineEnd : ¬isLineTerminator letter := by
      simp [isLineTerminator, noLineFeed, noReturn, noLine, noParagraph]
    simp [readRest?, LiteralState.next, noBackslash, noQuote, noLineEnd]

theorem readRest_quoted (text rest : List Char) :
    readRest? .plain (text.flatMap escaped ++ '\'' :: rest) = some (text, rest) := by
  induction text with
  | nil => rfl
  | cons letter text ih =>
    rw [List.flatMap_cons, List.append_assoc, readRest_escaped, ih]
    rfl

theorem toList_quotedString_append (text : String) (rest : List Char) :
    (quotedString text).toList ++ rest =
      '\'' :: (text.toList.flatMap escaped ++ '\'' :: rest) := by
  simp [quotedString, quoted]

theorem readLiteral_quotedString (text rest : String) :
    readLiteral? (quotedString text ++ rest) = some (text, rest) := by
  rw [readLiteral?, String.toList_append, toList_quotedString_append]
  simp [readRest_quoted]

theorem quotedString_injective : Function.Injective quotedString := by
  intro first second same
  have readFirst := readLiteral_quotedString first ""
  rw [same, readLiteral_quotedString] at readFirst
  exact (Prod.mk.inj (Option.some.inj readFirst)).1.symm

def isVisible (letter : Char) : Bool := !isLineTerminator letter && !isControl letter

theorem isVisible_of_mem_escaped {source letter : Char} (member : letter ∈ escaped source) :
    isVisible letter := by
  rw [escaped] at member
  -- Seven characters have an escape of their own.
  iterate 7
    split at member
    · exact List.all_eq_true.mp (by decide : List.all _ isVisible = true) letter member
  split at member
  · next control =>
    have digits : ∀ digit ∈ Nat.toDigits 16 source.toNat, isVisible digit :=
      forall_mem_toDigits (by decide) (by decide) _
    simp only [List.mem_cons, List.mem_append, List.not_mem_nil, or_false] at member
    rcases member with rfl | rfl | rfl | digit | rfl
    · decide
    · decide
    · decide
    · exact digits letter digit
    · decide
  · next noLineFeed noReturn _ noLine noParagraph noControl =>
    rw [List.mem_singleton.mp member]
    simp [isVisible, isLineTerminator, noLineFeed, noReturn, noLine, noParagraph, noControl]

theorem isVisible_of_mem_quotedString {text : String} {letter : Char}
    (member : letter ∈ (quotedString text).toList) : isVisible letter := by
  rw [quotedString, String.toList_ofList, quoted, List.mem_cons, List.mem_append,
    List.mem_singleton] at member
  rcases member with rfl | inText | rfl
  · decide
  · obtain ⟨source, -, inside⟩ := List.mem_flatMap.mp inText
    exact isVisible_of_mem_escaped inside
  · decide

end Text

/-! ## Literals in the output -/

/-- A reader that begins between `front` and `rest` reads `value` and stops at `rest`. -/
def LiteralAt (text front value rest : String) : Prop :=
  ∃ source, text = front ++ source ++ rest ∧
    Text.readLiteral? (source ++ rest) = some (value, rest)

theorem literalAt_of_eq {text front value rest : String}
    (parts : text = front ++ Text.quotedString value ++ rest) : LiteralAt text front value rest :=
  ⟨_, parts, Text.readLiteral_quotedString value rest⟩

theorem membersText_split_values (margin : String) (width : UInt64)
    (earlier later : List EnumMember) (member : EnumMember) :
    ∃ front rest, ∀ value,
      membersText margin width (earlier ++ { member with value } :: later) =
        front ++ { member with value }.content ++ (if later.isEmpty then "\n" else ",\n")
          ++ rest := by
  induction earlier with
  | nil =>
    cases later with
    | nil =>
      refine ⟨docText margin width (Docs.paragraphLines member.description) ++ margin, "",
        fun value => ?_⟩
      simp [membersText, lineText, String.append_assoc]
    | cons next later =>
      refine ⟨docText margin width (Docs.paragraphLines member.description) ++ margin,
        membersText margin width (next :: later), fun value => ?_⟩
      simp [membersText, lineText, String.append_assoc]
  | cons first earlier ih =>
    obtain ⟨front, rest, parts⟩ := ih
    obtain ⟨lines, isLines⟩ : ∃ lines, ∀ value, membersText margin width
        (first :: (earlier ++ { member with value } :: later)) =
          lines ++ membersText margin width (earlier ++ { member with value } :: later) := by
      cases earlier <;> exact ⟨_, fun _ => rfl⟩
    refine ⟨lines ++ front, rest, fun value => ?_⟩
    rw [List.cons_append, isLines, parts]
    simp only [String.append_assoc]

theorem membersText_split (margin : String) (width : UInt64) (earlier later : List EnumMember)
    (member : EnumMember) :
    ∃ front rest, membersText margin width (earlier ++ member :: later) =
      front ++ member.content ++ (if later.isEmpty then "\n" else ",\n") ++ rest := by
  obtain ⟨front, rest, parts⟩ := membersText_split_values margin width earlier later member
  exact ⟨front, rest, parts member.value⟩

theorem intercalate_split (separator : String) (earlier later : List String) (piece : String) :
    separator.intercalate (earlier ++ piece :: later) =
      separator.intercalate earlier ++ (if earlier.isEmpty then "" else separator) ++ piece
        ++ (if later.isEmpty then "" else separator) ++ separator.intercalate later := by
  induction earlier with
  | nil => cases later <;> simp
  | cons first earlier ih =>
    cases earlier with
    | nil => cases later <;> simp [String.append_assoc]
    | cons next earlier =>
      simp only [List.cons_append, String.intercalate_cons_cons] at ih ⊢
      rw [ih]
      simp [String.append_assoc]

theorem PropertyDefinition.content_of_default {κ : Type} (definition : PropertyDefinition κ)
    (value : String) :
    ∃ front, { definition with defaultValue := some value }.content =
      front ++ " = " ++ value ++ ";" := by
  obtain ⟨front, parts⟩ : ∃ front, { definition with defaultValue := some value }.content =
      front ++ (" = " ++ value) ++ ";" := ⟨_, rfl⟩
  exact ⟨front, by rw [parts, ← String.append_assoc]⟩

namespace Writer

theorem text_enum (definition : EnumDefinition) (writer : Writer) :
    ∃ before after, (writer.enum definition).text =
      before ++ membersText writer.innerMargin writer.commentWidth definition.members ++ after := by
  refine ⟨writer.text ++ (docText writer.margin writer.commentWidth
    (Docs.paragraphLines definition.description)
      ++ lineText writer.margin (definition.header ++ " \x7b")), lineText writer.margin "\x7d", ?_⟩
  simp only [enum_eq_write, text_write, String.append_assoc]

theorem literalAt_enum (writer : Writer) (definition : EnumDefinition)
    (earlier later : List EnumMember) (member : EnumMember) (value : String) :
    ∃ front rest, LiteralAt (writer.enum { definition with
        members := earlier ++ { member with value := some (.text value) } :: later }).text
      (front ++ member.name ++ " = ") value
      ((if later.isEmpty then "\n" else ",\n") ++ rest) := by
  obtain ⟨before, after, whole⟩ := text_enum { definition with
    members := earlier ++ { member with value := some (.text value) } :: later } writer
  obtain ⟨front, rest, parts⟩ := membersText_split writer.innerMargin writer.commentWidth earlier
    later { member with value := some (.text value) }
  refine ⟨before ++ front, rest ++ after, literalAt_of_eq ?_⟩
  rw [whole, parts, EnumMember.content]
  simp only [EnumValue.render, String.append_assoc]

theorem text_stringLiteralType (definition : StringLiteralType) (writer : Writer) :
    ∃ before, (writer.stringLiteralType definition).text =
      before ++ "type " ++ definition.name ++ " = " ++ definition.union ++ ";\n" := by
  refine ⟨writer.text ++ (docText writer.margin writer.commentWidth
    (Docs.paragraphLines definition.description) ++ writer.margin
      ++ exportKeywords definition.isExported definition.isDeclared), ?_⟩
  simp only [stringLiteralType_eq_write, text_write, lineText, StringLiteralType.content,
    String.append_assoc]
  rfl

theorem literalAt_stringLiteralType (writer : Writer) (definition : StringLiteralType)
    (earlier later : List String) (literal : String) :
    ∃ front rest, LiteralAt (writer.stringLiteralType { definition with
        literals := earlier ++ literal :: later }).text
      (front ++ if earlier.isEmpty then "type " ++ definition.name ++ " = " else " | ") literal
      ((if later.isEmpty then ";\n" else " | ") ++ rest) := by
  have union := intercalate_split " | " (earlier.map Text.quotedString)
    (later.map Text.quotedString) (Text.quotedString literal)
  obtain ⟨before, whole⟩ := text_stringLiteralType
    { definition with literals := earlier ++ literal :: later } writer
  rw [whole, StringLiteralType.union, if_neg (by simp), List.map_append, List.map_cons, union]
  refine ⟨before ++ if earlier.isEmpty then "" else "type " ++ definition.name ++ " = "
      ++ " | ".intercalate (earlier.map Text.quotedString),
    if later.isEmpty then "" else " | ".intercalate (later.map Text.quotedString) ++ ";\n",
    literalAt_of_eq ?_⟩
  cases earlier <;> cases later <;> simp [String.append_assoc]

theorem literalAt_property (writer : Writer) (definition : PropertyDefinition Callback)
    (value : String) :
    ∃ front, LiteralAt (writer.property { definition with
        defaultValue := some (DefaultRequest.render (.text value)) }).text
      (front ++ " = ") value ";\n" := by
  obtain ⟨front, content⟩ := definition.content_of_default (Text.quotedString value)
  let decorated := ((writer.docParagraphs definition.description).startLine).decoratorPieces
    definition.decorators
  refine ⟨decorated.text ++ front, literalAt_of_eq ?_⟩
  rw [DefaultRequest.render, property, endLine_eq_write, text_write, content]
  simp only [String.append_assoc]
  rfl

end Writer

theorem DefaultRequest.initializer_of_text (request : DefaultRequest) (value : String) :
    initializer { request with value := some (.text value) } ∈
      [none, some "null", some "[]", some (Text.quotedString value)] := by
  simp only [initializer, nullIfUsed, render]
  split
  · split
    · simp
    split
    · split <;> simp
    · simp
  split
  · simp
  split
  · split <;> simp
  · simp

/-- Reading undoes quoting in front of any text, a literal stays on one line, and in enum values,
unions and default values it ends where the writer goes on. -/
theorem literals_read_back :
    (∀ text rest, Text.readLiteral? (Text.quotedString text ++ rest) = some (text, rest)) ∧
    Function.Injective Text.quotedString ∧
    (∀ text, ∀ letter ∈ (Text.quotedString text).toList,
      Text.isLineTerminator letter = false ∧ Text.isControl letter = false) ∧
    (∀ (writer : Writer) (definition : EnumDefinition) (earlier later : List EnumMember)
      (member : EnumMember) (value : String), ∃ front rest,
      LiteralAt (writer.enum { definition with
          members := earlier ++ { member with value := some (.text value) } :: later }).text
        (front ++ member.name ++ " = ") value
        ((if later.isEmpty then "\n" else ",\n") ++ rest)) ∧
    (∀ (writer : Writer) (definition : StringLiteralType) (earlier later : List String)
      (literal : String), ∃ front rest,
      LiteralAt (writer.stringLiteralType { definition with
          literals := earlier ++ literal :: later }).text
        (front ++ if earlier.isEmpty then "type " ++ definition.name ++ " = " else " | ") literal
        ((if later.isEmpty then ";\n" else " | ") ++ rest)) ∧
    (∀ (writer : Writer) (definition : PropertyDefinition Callback) (value : String), ∃ front,
      LiteralAt (writer.property { definition with
          defaultValue := some (DefaultRequest.render (.text value)) }).text
        (front ++ " = ") value ";\n") ∧
    ∀ (request : DefaultRequest) (value : String),
      DefaultRequest.initializer { request with value := some (.text value) } ∈
        [none, some "null", some "[]", some (DefaultRequest.render (.text value))] := by
  refine ⟨Text.readLiteral_quotedString, Text.quotedString_injective, fun text letter member => ?_,
    fun writer => writer.literalAt_enum, fun writer => writer.literalAt_stringLiteralType,
    fun writer => writer.literalAt_property, DefaultRequest.initializer_of_text⟩
  simpa [Text.isVisible] using Text.isVisible_of_mem_quotedString member

end Typescribe
