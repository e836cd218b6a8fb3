import Typescribe.Proofs.GreedyFill
import Typescribe.Proofs.Programs
import Typescribe.Proofs.Tokens
/-!
# Unions of literals read back

A reader of a string literal type skips the doc comment, takes the first line and goes through it:
keywords, a name up to a blank, and a union of literals in single quotes with bars between them. A
literal ends at its own quote, so a bar, a quote or `never` inside a literal is not taken for one
outside; the bare word `never` is the union of no literals.
-/
set_option autoImplicit false

namespace Typescribe

def lineEnds : List Char := ['\n', '\r', '\u2028', '\u2029']

/-! ## Reading -/

/-- What follows the blanks and the doc comment in front of a text. -/
def code? (text : List Char) : Option (List Char) :=
  let started := text.dropWhile Text.isBlank
  match "/**".toList.isPrefixOf? started with
  | none => some started
  | some inside => (afterComment inside).map (List.dropWhile Text.isBlank)

def takePiece (piece : String) (letters : List Char) : Bool × List Char :=
  match piece.toList.isPrefixOf? letters with
  | none => (false, letters)
  | some rest => (true, rest)

/-- Literals with bars between them, up to the semicolon that ends the line. -/
def literals? : List Char → Option (List String)
  | '\'' :: inside =>
    match _read : Text.readRest? .plain inside with
    | some (letters, ' ' :: '|' :: ' ' :: next) => (literals? next).map (String.ofList letters :: ·)
    | some (letters, [';']) => some [String.ofList letters]
    | _ => none
  | _ => none
  termination_by letters => letters.length
  decreasing_by
    have shorter := Token.length_readRest _read
    simp only [List.length_cons] at shorter ⊢
    omega

def union? (letters : List Char) : Option (List String) :=
  if letters = "never;".toList then some [] else literals? letters

def literalType? (line : List Char) : Option StringLiteralType :=
  let (isExported, line) := takePiece "export " line
  let (isDeclared, line) := takePiece "declare " line
  let (isType, line) := takePiece "type " line
  let name := line.takeWhile fun letter => !Text.isBlank letter
  let (isUnion, union) := takePiece " = " (line.dropWhile fun letter => !Text.isBlank letter)
  if isType && isUnion then
    (union? union).map fun literals =>
      { name := String.ofList name, isExported, isDeclared, literals }
  else none

/-- The string literal type in the first line behind the doc comment of a text. -/
def readLiteralType? (text : String) : Option StringLiteralType :=
  (code? text.toList).bind fun code =>
    literalType? (code.takeWhile fun letter => letter ∉ lineEnds)

theorem code_of_docComment {margin comment : String} (isMargin : IsMargin margin)
    (isComment : comment = "" ∨ IsDocComment margin comment) {first : Char} {rest : List Char}
    (noBlank : Text.isBlank first = false) (noSlash : first ≠ '/') :
    code? (comment.toList ++ (margin.toList ++ first :: rest)) = some (first :: rest) := by
  have blank : ∀ letter ∈ margin.toList, Text.isBlank letter = true := by
    intro letter member
    rcases isMargin letter member with rfl | rfl <;> decide
  have behindMargin (letter : Char) (others : List Char) (noBlank : Text.isBlank letter = false) :
      (margin.toList ++ letter :: others).dropWhile Text.isBlank = letter :: others := by
    rw [List.dropWhile_append_of_pos blank, List.dropWhile_cons_of_neg (by simp [noBlank])]
  rcases isComment with rfl | ⟨interior, rfl, ended⟩
  · have noComment : "/**".toList.isPrefixOf? (first :: rest) = none := by
      simp [List.isPrefixOf?, noSlash.symm]
    simp only [code?, String.toList_empty, List.nil_append, behindMargin first rest noBlank,
      noComment]
  · have letters : (margin ++ "/**\n" ++ interior ++ margin ++ "*/\n").toList
          ++ (margin.toList ++ first :: rest) = margin.toList ++ '/' :: '*' :: '*' ::
        (("\n" ++ interior ++ margin ++ "*/\n").toList ++ (margin.toList ++ first :: rest)) := by
      simp
    have isComment (inside : List Char) :
        "/**".toList.isPrefixOf? ('/' :: '*' :: '*' :: inside) = some inside := rfl
    have lineFeed : Text.isBlank '\n' = true := by decide
    rw [code?, letters]
    simp only [behindMargin _ _ (by decide : Text.isBlank '/' = false), isComment, ended,
      Option.map_some, List.dropWhile_cons_of_pos lineFeed, behindMargin first rest noBlank]

theorem takePiece_append (piece : String) (rest : List Char) :
    takePiece piece (piece.toList ++ rest) = (true, rest) := by
  have isFirst : piece.toList.isPrefixOf? (piece.toList ++ rest) = some rest :=
    List.isPrefixOf?_eq_some_iff_append_eq.mpr rfl
  rw [takePiece, isFirst]

theorem takePiece_optional {piece : String} {rest : List Char}
    (isOther : piece.toList.isPrefixOf? rest = none) (condition : Bool) :
    takePiece piece ((if condition then piece else "").toList ++ rest) = (condition, rest) := by
  cases condition with
  | false => rw [if_neg (by simp), String.toList_empty, List.nil_append, takePiece, isOther]
  | true => rw [if_pos rfl, takePiece_append]

/-! ## Unions -/

theorem literals_bar (text : String) (next : List Char) :
    literals? ((Text.quotedString text).toList ++ ' ' :: '|' :: ' ' :: next) =
      (literals? next).map (text :: ·) := by
  have read := Text.readRest_quoted text.toList (' ' :: '|' :: ' ' :: next)
  rw [Text.toList_quotedString_append, literals?]
  split
  · next letters behind isRead =>
    cases read.symm.trans isRead
    rw [String.ofList_toList]
  · next letters isRead => cases read.symm.trans isRead
  · next noBar noEnd => exact absurd read (noBar _ _)

theorem literals_end (text : String) :
    literals? ((Text.quotedString text).toList ++ [';']) = some [text] := by
  have read := Text.readRest_quoted text.toList [';']
  rw [Text.toList_quotedString_append, literals?]
  split
  · next letters behind isRead => cases read.symm.trans isRead
  · next letters isRead =>
    cases read.symm.trans isRead
    rw [String.ofList_toList]
  · next noBar noEnd => exact absurd read (noEnd _)

theorem literals_intercalate {literals : List String} (notEmpty : literals ≠ []) :
    literals? ((" | ".intercalate (literals.map Text.quotedString)).toList ++ [';']) =
      some literals := by
  match literals with
  | [text] =>
    rw [List.map_singleton, String.intercalate_singleton]
    exact literals_end text
  | text :: next :: literals =>
    have others := literals_intercalate (List.cons_ne_nil next literals)
    have letters (union : String) :
        (Text.quotedString text ++ " | " ++ union).toList ++ [';'] =
          (Text.quotedString text).toList ++ ' ' :: '|' :: ' ' :: (union.toList ++ [';']) := by
      simp
    rw [List.map_cons, List.map_cons, String.intercalate_cons_cons, ← List.map_cons, letters,
      literals_bar, others]
    rfl

theorem union_append (definition : StringLiteralType) :
    union? (definition.union.toList ++ [';']) = some definition.literals := by
  rw [StringLiteralType.union]
  cases definition.literals with
  | nil => rfl
  | cons text literals =>
    have readsBack := literals_intercalate (List.cons_ne_nil text literals)
    have noNever :
        (" | ".intercalate ((text :: literals).map Text.quotedString)).toList ++ [';'] ≠
          "never;".toList := by
      intro same
      rw [same] at readsBack
      simp [literals?] at readsBack
    rw [if_neg (by simp), union?, if_neg noNever, readsBack]

/-! ## Lines -/

namespace StringLiteralType

def shown (definition : StringLiteralType) : StringLiteralType :=
  { definition with description := [] }

theorem literalType_content {definition : StringLiteralType}
    (isWord : Text.IsWord definition.name.toList) :
    literalType? definition.content.toList = some definition.shown := by
  let union := definition.union.toList ++ [';']
  let named := definition.name.toList ++ (" = ".toList ++ union)
  let typed := "type ".toList ++ named
  let declared := (if definition.isDeclared then "declare " else "").toList ++ typed
  have letters : definition.content.toList =
      (if definition.isExported then "export " else "").toList ++ declared := by
    simp only [content, exportKeywords, String.toList_append, List.append_assoc, declared, typed,
      named, union]
    rfl
  -- Each keyword is followed by what cannot be taken for it, so it is found just if it is there.
  have exportFirst : takePiece "export " definition.content.toList =
      (definition.isExported, declared) := by
    rw [letters]
    refine takePiece_optional ?_ _
    cases isDeclared : definition.isDeclared <;> simp only [declared, isDeclared] <;> rfl
  have declareFirst : takePiece "declare " declared = (definition.isDeclared, typed) :=
    takePiece_optional rfl _
  have typeFirst : takePiece "type " typed = (true, named) := takePiece_append _ _
  have notBlank : ∀ letter ∈ definition.name.toList, (!Text.isBlank letter) = true := by
    intro letter member
    rw [isWord.noBlank letter member]
    rfl
  have stops : ∀ letter ∈ (" = ".toList ++ union).head?, (!Text.isBlank letter) = false := by
    intro letter isFirst
    obtain rfl := Option.some.inj isFirst
    decide
  obtain ⟨nameTaken, nameDropped⟩ := Text.run_stops notBlank stops
  have equalsFirst : takePiece " = " (" = ".toList ++ union) = (true, union) :=
    takePiece_append _ _
  rw [literalType?, exportFirst]
  simp only [declareFirst, typeFirst, named, nameTaken, nameDropped, equalsFirst, Bool.and_self,
    if_true, union, union_append, Option.map_some, String.ofList_toList, shown]

theorem avoids_lineEnds {definition : StringLiteralType}
    (isWord : Text.IsWord definition.name.toList) : Avoids lineEnds definition.content := by
  have inName : Avoids lineEnds definition.name := by
    intro letter member isEnd
    have blank : lineEnds.all Text.isBlank = true := by decide
    exact absurd (List.all_eq_true.mp blank letter isEnd) (by simp [isWord.noBlank letter member])
  have inLiterals : ∀ piece ∈ definition.literals.map Text.quotedString,
      Avoids lineEnds piece := by
    intro piece isPiece letter member isEnd
    obtain ⟨text, -, rfl⟩ := List.mem_map.mp isPiece
    have invisible : lineEnds.any Text.isVisible = false := by decide
    exact List.any_eq_false.mp invisible letter isEnd (Text.isVisible_of_mem_quotedString member)
  have inUnion : Avoids lineEnds definition.union :=
    .ite (by decide) (.intercalate (by decide) inLiterals)
  have keywords : Avoids lineEnds (exportKeywords definition.isExported definition.isDeclared) :=
    (Avoids.ite (by decide) (by decide)).append (.ite (by decide) (by decide))
  exact ((((keywords.append (by decide)).append inName).append (by decide)).append inUnion).append
    (by decide)

theorem content_eq_cons (definition : StringLiteralType) :
    ∃ first others, definition.content.toList = first :: others ∧ first ∈ ['t', 'd', 'e'] := by
  rw [content, exportKeywords]
  cases definition.isExported <;> cases definition.isDeclared <;> simp

/-- A union of literals ends in a quote, which the bare word does not. -/
theorem ends_never_iff (margin : String) (definition : StringLiteralType) :
    (∃ front, margin ++ definition.content = front ++ " = never;") ↔ definition.literals = [] := by
  obtain ⟨front, content⟩ : ∃ front,
      margin ++ definition.content = front ++ " = " ++ definition.union ++ ";" :=
    ⟨margin ++ (exportKeywords definition.isExported definition.isDeclared ++ "type "
      ++ definition.name), by simp only [StringLiteralType.content, String.append_assoc]⟩
  constructor
  · rintro ⟨other, ends⟩
    rcases List.eq_nil_or_concat' definition.literals with noLiteral | ⟨earlier, last, isLast⟩
    · exact noLiteral
    · have union :=
        intercalate_split " | " (earlier.map Text.quotedString) [] (Text.quotedString last)
      rw [content, StringLiteralType.union, if_neg (by simp [isLast]), isLast, List.map_append,
        List.map_singleton, union] at ends
      -- In front of the semicolon stands the quote of the last literal, and not an `r`.
      have letters := congrArg (fun text => text.toList.reverse) ends
      simp [Text.quotedString, Text.quoted] at letters
  · intro noLiteral
    refine ⟨front, ?_⟩
    rw [content, StringLiteralType.union, noLiteral, String.append_assoc, String.append_assoc]
    rfl

end StringLiteralType

theorem readLiteralType_of_content {definition : StringLiteralType}
    (isWord : Text.IsWord definition.name.toList) {margin comment : String}
    (isMargin : IsMargin margin) (isComment : comment = "" ∨ IsDocComment margin comment)
    (rest : String) :
    readLiteralType? (comment ++ (margin ++ definition.content) ++ "\n" ++ rest) =
      some definition.shown := by
  obtain ⟨first, others, opens, isFirst⟩ := definition.content_eq_cons
  have starts :
      ['t', 'd', 'e'].all (fun letter => !Text.isBlank letter && letter ≠ '/') = true := by
    decide
  obtain ⟨noBlank, noSlash⟩ : Text.isBlank first = false ∧ first ≠ '/' := by
    simpa using List.all_eq_true.mp starts first isFirst
  have letters : (comment ++ (margin ++ definition.content) ++ "\n" ++ rest).toList =
      comment.toList ++ (margin.toList ++ first :: (others ++ ("\n" ++ rest).toList)) := by
    simp [opens]
  have whole : first :: (others ++ ("\n" ++ rest).toList) =
      (definition.content ++ ("\n" ++ rest)).toList := by
    simp [opens]
  have lineEnd : Halts lineEnds ("\n" ++ rest) := .inr ⟨'\n', rest.toList, by simp, by decide⟩
  rw [readLiteralType?, letters, code_of_docComment isMargin isComment noBlank noSlash,
    Option.bind_some, whole,
    toList_eq_takeWhile (StringLiteralType.avoids_lineEnds isWord) lineEnd,
    StringLiteralType.literalType_content isWord]

theorem isWord_of_isIdentifier {name : String} (identifier : isIdentifier name = true) :
    Text.IsWord name.toList := by
  rw [isIdentifier] at identifier
  split at identifier
  · simp at identifier
  next first others letters =>
  rw [Bool.and_eq_true, List.all_eq_true] at identifier
  obtain ⟨starts, continues⟩ := identifier
  have each : ∀ letter ∈ first :: others, Token.continuesWord letter = true :=
    List.forall_mem_cons.mpr ⟨by simp [Token.continuesWord, starts], continues⟩
  rw [letters]
  exact ⟨List.cons_ne_nil _ _, fun letter member =>
    Token.noBlank_of_continuesWord (each letter member)⟩

/-- The type built for an enumeration is read back from the line behind its doc comment, which ends
in `never` exactly if there are no literals. -/
theorem literal_union_reads_back {element : Enumeration}
    (isWord : Text.IsWord element.name.toList) (options : StringLiteralOptions)
    (writer : Writer) :
    ∃ definition, Resolver.stringLiteralType element options = .ok definition ∧
      ∃ comment line,
        (Step.perform (.stringLiteralType (some definition)) writer).writer.text =
          writer.text ++ comment ++ line ++ "\n" ∧
        (comment = "" ∨ IsDocComment writer.margin comment) ∧ Avoids lineEnds line ∧
        (∀ rest, readLiteralType? (comment ++ line ++ "\n" ++ rest) = some {
          name := element.name
          isExported := resolveExport options.exported element.visibility
          isDeclared := options.declared.getD false
          literals := element.literals.map EnumLiteral.name }) ∧
        ((∃ front, line = front ++ " = never;") ↔ element.literals = []) := by
  have named : element.name ≠ "" := fun isEmpty =>
    isWord.notEmpty (by rw [isEmpty, String.toList_empty])
  let definition : StringLiteralType := {
    name := element.name
    description := commentBodies element.comments
    isExported := resolveExport options.exported element.visibility
    isDeclared := options.declared.getD false
    literals := element.literals.map EnumLiteral.name }
  have built : Resolver.stringLiteralType element options = .ok definition := by
    rw [Resolver.stringLiteralType, requiredName_of_ne named]
    rfl
  have isMargin : IsMargin writer.margin := isMargin_copies _ _
  have isComment := isDocComment_docText isMargin writer.commentWidth
    (Docs.paragraphLines definition.description)
  refine ⟨definition, built, _, writer.margin ++ definition.content, ?_, isComment, ?_,
    fun rest => readLiteralType_of_content isWord isMargin isComment rest, ?_⟩
  · rw [Step.perform, Performed.writer_ofWriter, Option.elim_some,
      Writer.stringLiteralType_eq_write, Writer.text_write, lineText]
    simp only [String.append_assoc]
  · exact (Avoids.margin isMargin (by decide) (by decide)).append
      (StringLiteralType.avoids_lineEnds isWord)
  · rw [StringLiteralType.ends_never_iff]
    exact List.map_eq_nil_iff

theorem misleading_literals_read_back :
    let names := ["", "it's | 'b'", "never", ";", "\\", "c\u2028d\n"]
    let element : Enumeration := {
      name := "never"
      visibility := some .pub
      comments := [⟨"*/ type a = 'b';"⟩]
      literals := names.map EnumLiteral.ofName }
    let writer : Writer := { sheet := { level := 1 } }
    let comment := "  /**\n  * *\\/ type a = 'b';\n  */\n"
    let line := "  export type never = '' | 'it\\'s | \\'b\\'' | 'never' | ';' | '\\\\' | "
      ++ "'c\\u2028d\\n';"
    isIdentifier element.name = true ∧ Text.IsWord element.name.toList ∧
      ∃ definition, Resolver.stringLiteralType element {} = .ok definition ∧
        (Step.perform (.stringLiteralType (some definition)) writer).writer.text =
          comment ++ line ++ "\n" ∧
        readLiteralType? (comment ++ line ++ "\n") =
          some { name := "never", isExported := true, literals := names } := by
  intro names element writer comment line
  have isWord : Text.IsWord element.name.toList := isWord_of_isIdentifier (by decide)
  obtain ⟨definition, built, before, row, text, -, -, readsBack, -⟩ :=
    literal_union_reads_back isWord {} writer
  have written : (Step.perform (.stringLiteralType (some definition)) writer).writer.text =
      comment ++ line ++ "\n" := by
    cases Except.ok.inj built
    decide
  have noText : writer.text = "" := rfl
  have read := readsBack ""
  rw [written, noText, String.empty_append] at text
  rw [String.append_empty, ← text] at read
  exact ⟨by decide, isWord, definition, built, written, read⟩

end Typescribe
