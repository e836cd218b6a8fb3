import Typescribe.Proofs.Changes
import Typescribe.Proofs.Delimiters
/-!
# Headers read back

The line that opens a class or an interface is read as words between blanks. A keyword in front of
the name is not taken for one behind it, since there is one name and it is never left out, and in
a list of names a comma at the end of a word says that another name follows, whatever that is. So
a class may well be called `extends`.
-/
set_option autoImplicit false

namespace Typescribe

variable {κ : Type}

structure Header where
  isInterface : Bool := false
  isExported : Bool := false
  isDeclared : Bool := false
  isAbstract : Bool := false
  name : String
  parents : List String := []
  contracts : List String := []
  deriving DecidableEq

def listedWords : List String → List String
  | [] => []
  | [name] => [name]
  | name :: next :: names => (name ++ ",") :: listedWords (next :: names)

def clauseWords (keyword : String) (names : List String) : List String :=
  if names.isEmpty then [] else keyword :: listedWords names

namespace Header

def names (header : Header) : List String := header.name :: (header.parents ++ header.contracts)

/-- Names may be keywords, but hold no blanks, commas or line feeds. -/
def IsReadable (header : Header) : Prop := ∀ name ∈ header.names, Avoids [' ', ',', '\n'] name

def words (header : Header) : List String :=
  keywordIf header.isExported "export" ++ keywordIf header.isDeclared "declare"
    ++ keywordIf header.isAbstract "abstract"
    ++ (if header.isInterface then "interface" else "class") :: header.name
      :: (clauseWords "extends" header.parents ++ clauseWords "implements" header.contracts)

def text (header : Header) : String := keywordsText header.words ++ "\x7b"

end Header

/-! ## Reading -/

def takeKeyword (keyword : String) : List String → Bool × List String
  | [] => (false, [])
  | word :: words => if word = keyword then (true, words) else (false, word :: words)

def takeNames : List String → List String × List String
  | [] => ([], [])
  | word :: words =>
    if word.toList.getLast? = some ',' then
      let (names, rest) := takeNames words
      (String.ofList word.toList.dropLast :: names, rest)
    else ([word], words)

def takeClause (keyword : String) (words : List String) : List String × List String :=
  let (found, rest) := takeKeyword keyword words
  if found then takeNames rest else ([], rest)

def headerOf? (words : List String) : Option Header :=
  let (isExported, words) := takeKeyword "export" words
  let (isDeclared, words) := takeKeyword "declare" words
  let (isAbstract, words) := takeKeyword "abstract" words
  match words with
  | kind :: name :: words =>
    let (parents, words) := takeClause "extends" words
    let (contracts, words) := takeClause "implements" words
    if kind ∈ ["class", "interface"] ∧ words = ["\x7b"] then
      some {
        isInterface := kind = "interface"
        isExported, isDeclared, isAbstract, name, parents, contracts }
    else none
  | _ => none

/-- The words of the first line of a text, without its indentation. -/
def lineWords (text : String) : List String :=
  let line := text.toList.takeWhile fun letter => letter ∉ ['\n']
  ((line.dropWhile fun letter => letter ∈ [' ', '\t']).splitOn ' ').map String.ofList

/-- The header in the first line of a text. -/
def readHeader (text : String) : Option Header := headerOf? (lineWords text)

/-! ## Words of a header -/

theorem forall_mem_listedWords {holds : String → Prop} {names : List String}
    (each : ∀ name ∈ names, holds name) (withComma : ∀ name ∈ names, holds (name ++ ",")) :
    ∀ word ∈ listedWords names, holds word := by
  fun_induction listedWords names with
  | case1 => simp
  | case2 name => exact each
  | case3 name next names ih =>
    refine List.forall_mem_cons.mpr ⟨withComma name (by simp), ih ?_ ?_⟩
    · exact fun other member => each other (List.mem_cons_of_mem _ member)
    · exact fun other member => withComma other (List.mem_cons_of_mem _ member)

theorem forall_mem_clauseWords {holds : String → Prop} {keyword : String} {names : List String}
    (isKeyword : holds keyword) (each : ∀ name ∈ names, holds name)
    (withComma : ∀ name ∈ names, holds (name ++ ",")) :
    ∀ word ∈ clauseWords keyword names, holds word := by
  rw [clauseWords]
  split
  · simp
  · exact List.forall_mem_cons.mpr ⟨isKeyword, forall_mem_listedWords each withComma⟩

theorem Header.avoids_of_mem_words {header : Header} (readable : header.IsReadable) :
    ∀ word ∈ header.words, Avoids [' ', '\n'] word := by
  have few : [' ', '\n'] ⊆ [' ', ',', '\n'] := by decide
  simp only [IsReadable, names, List.forall_mem_cons, List.forall_mem_append] at readable
  obtain ⟨name, parents, contracts⟩ := readable
  have clause {keyword : String} {names : List String} (isKeyword : Avoids [' ', '\n'] keyword)
      (each : ∀ name ∈ names, Avoids [' ', ',', '\n'] name) :
      ∀ word ∈ clauseWords keyword names, Avoids [' ', '\n'] word :=
    forall_mem_clauseWords isKeyword (fun other member => (each other member).mono few)
      fun other member => ((each other member).mono few).append (by decide)
  have modifier {condition : Bool} {keyword : String} (isKeyword : Avoids [' ', '\n'] keyword) :
      ∀ word ∈ keywordIf condition keyword, Avoids [' ', '\n'] word := by
    intro word member
    rw [(mem_keywordIf.mp member).2]
    exact isKeyword
  simp only [words, List.forall_mem_append, List.forall_mem_cons]
  exact ⟨⟨⟨modifier (by decide), modifier (by decide)⟩, modifier (by decide)⟩,
    .ite (by decide) (by decide), name.mono few, clause (by decide) parents,
    clause (by decide) contracts⟩

/-! ## From a line to its words -/

theorem splitOn_keywordsText {words : List String} {last : String}
    (noBlank : ∀ word ∈ words, ' ' ∉ word.toList) (lastNoBlank : ' ' ∉ last.toList) :
    (keywordsText words ++ last).toList.splitOn ' ' =
      (words ++ [last]).map String.toList := by
  induction words with
  | nil =>
    simp [keywordsText, List.splitOn_eq_singleton lastNoBlank]
  | cons word words ih =>
    have inWord : ' ' ∉ word.toList := noBlank word (by simp)
    have letters : (keywordsText (word :: words) ++ last).toList =
        word.toList ++ ' ' :: (keywordsText words ++ last).toList := by
      simp [keywordsText]
    rw [letters, List.splitOn_append_cons_self_of_not_mem inWord,
      ih fun other member => noBlank other (List.mem_cons_of_mem _ member)]
    rfl

theorem Header.exists_first_word (header : Header) : ∃ first others,
    header.words = first :: others ∧
      first ∈ ["export", "declare", "abstract", "interface", "class"] := by
  obtain ⟨isInterface, isExported, isDeclared, isAbstract, name, parents, contracts⟩ := header
  cases isExported <;> cases isDeclared <;> cases isAbstract <;> cases isInterface <;>
    exact ⟨_, _, rfl, by simp⟩

theorem Header.dropWhile_text (header : Header) :
    (header.text.toList.dropWhile fun letter => letter ∈ [' ', '\t']) = header.text.toList := by
  obtain ⟨first, others, words, isFirst⟩ := header.exists_first_word
  have starts : ∀ keyword ∈ ["export", "declare", "abstract", "interface", "class"],
      ∃ letter rest, keyword.toList = letter :: rest ∧ letter ∉ [' ', '\t'] := by
    intro keyword member
    have cases : keyword = "export" ∨ keyword = "declare" ∨ keyword = "abstract" ∨
        keyword = "interface" ∨ keyword = "class" := by simpa using member
    rcases cases with rfl | rfl | rfl | rfl | rfl <;> exact ⟨_, _, rfl, by decide⟩
  obtain ⟨letter, rest, letters, noMargin⟩ := starts first isFirst
  rw [text, words, keywordsText]
  simp only [String.toList_append, letters, List.cons_append, List.dropWhile_cons]
  rw [if_neg (by simpa using noMargin)]

theorem lineWords_of_header {header : Header} (readable : header.IsReadable) {margin : String}
    (isMargin : IsMargin margin) (rest : String) :
    lineWords (lineText margin header.text ++ rest) = header.words ++ ["\x7b"] := by
  have avoids := header.avoids_of_mem_words readable
  have oneLine : Avoids ['\n'] (margin ++ header.text) := by
    have inWords : Avoids ['\n'] (keywordsText header.words) :=
      .keywordsText (by decide) fun word member => (avoids word member).mono (by decide)
    have inMargin : Avoids ['\n'] margin := .margin isMargin (by decide) (by decide)
    exact inMargin.append (inWords.append (by decide))
  have lineEnd : Halts ['\n'] ("\n" ++ rest) := .inr ⟨'\n', rest.toList, by simp, by decide⟩
  have noBlank : ∀ word ∈ header.words, ' ' ∉ word.toList := fun word member isBlank =>
    avoids word member ' ' isBlank (by decide)
  have inMargin : ∀ letter ∈ margin.toList, decide (letter ∈ [' ', '\t']) = true := by
    intro letter member
    simpa using isMargin letter member
  rw [lineWords, lineText, String.append_assoc, toList_eq_takeWhile oneLine lineEnd,
    String.toList_append, List.dropWhile_append_of_pos inMargin, header.dropWhile_text,
    Header.text, splitOn_keywordsText noBlank (by decide), List.map_map]
  simp

/-! ## From words to the header -/

theorem takeNames_listedWords {names : List String} (notEmpty : names ≠ [])
    (noComma : ∀ name ∈ names, ',' ∉ name.toList) (rest : List String) :
    takeNames (listedWords names ++ rest) = (names, rest) := by
  fun_induction listedWords names with
  | case1 => exact absurd rfl notEmpty
  | case2 name =>
    have last : name.toList.getLast? ≠ some ',' := fun isComma =>
      noComma name (by simp) (List.mem_of_getLast? isComma)
    simp [takeNames, last]
  | case3 name next names ih =>
    have others := ih (by simp) fun other member => noComma other (List.mem_cons_of_mem _ member)
    rw [List.cons_append, takeNames, others]
    simp

theorem takeClause_clauseWords {keyword : String} {names : List String}
    (noComma : ∀ name ∈ names, ',' ∉ name.toList) {next : String} (isOther : next ≠ keyword)
    (rest : List String) :
    takeClause keyword (clauseWords keyword names ++ next :: rest) = (names, next :: rest) := by
  rw [takeClause, clauseWords]
  cases names with
  | nil => simp [takeKeyword, isOther]
  | cons name names =>
    have taken := takeNames_listedWords (List.cons_ne_nil name names) noComma (next :: rest)
    simp [takeKeyword, taken]

theorem takeClause_parents {parents : List String}
    (noComma : ∀ name ∈ parents, ',' ∉ name.toList) (contracts : List String) :
    takeClause "extends" (clauseWords "extends" parents
        ++ (clauseWords "implements" contracts ++ ["\x7b"])) =
      (parents, clauseWords "implements" contracts ++ ["\x7b"]) := by
  cases contracts with
  | nil => exact takeClause_clauseWords noComma (by decide) []
  | cons name names => exact takeClause_clauseWords noComma (by decide) _

theorem headerOf_words {header : Header} (readable : header.IsReadable) :
    headerOf? (header.words ++ ["\x7b"]) = some header := by
  obtain ⟨isInterface, isExported, isDeclared, isAbstract, name, parents, contracts⟩ := header
  simp only [Header.IsReadable, Header.names, List.forall_mem_cons, List.forall_mem_append]
    at readable
  obtain ⟨-, parentsReadable, contractsReadable⟩ := readable
  have behindName := takeClause_parents (fun other member isComma =>
    parentsReadable other member ',' isComma (by decide)) contracts
  have behindParents : takeClause "implements" (clauseWords "implements" contracts ++ ["\x7b"]) =
      (contracts, ["\x7b"]) :=
    takeClause_clauseWords (fun other member isComma =>
      contractsReadable other member ',' isComma (by decide)) (by decide) []
  -- The keywords in front decide the branches; the lists behind the name are the same in each.
  cases isExported <;> cases isDeclared <;> cases isAbstract <;> cases isInterface <;>
    simp [headerOf?, Header.words, keywordIf, takeKeyword, behindName, behindParents]

/-! ## Written headers -/

theorem nameList_append_blank (keyword : String) (names : List String) :
    nameList (" " ++ keyword ++ " ") names ++ " " =
      " " ++ keywordsText (clauseWords keyword names) := by
  have listed (first : String) (others : List String) :
      ", ".intercalate (first :: others) ++ " " = keywordsText (listedWords (first :: others)) := by
    induction others generalizing first with
    | nil => simp [listedWords, keywordsText]
    | cons next others ih =>
      have comma : ", " = "," ++ " " := rfl
      rw [String.intercalate_cons_cons, String.append_assoc, ih, listedWords, keywordsText, comma]
      simp only [String.append_assoc]
  cases names with
  | nil => rfl
  | cons first others =>
    have keywordFirst : nameList (" " ++ keyword ++ " ") (first :: others) =
        " " ++ keyword ++ " " ++ ", ".intercalate (first :: others) := rfl
    have words : clauseWords keyword (first :: others) =
        keyword :: listedWords (first :: others) := rfl
    rw [keywordFirst, words, String.append_assoc, listed, keywordsText]
    simp only [String.append_assoc]

def ClassDefinition.shownHeader (definition : ClassDefinition κ) : Header where
  isExported := definition.isExported
  isDeclared := definition.isDeclared
  isAbstract := definition.isAbstract
  name := definition.name
  parents := definition.parents
  contracts := definition.contracts

def InterfaceDefinition.shownHeader (definition : InterfaceDefinition) : Header where
  isInterface := true
  isExported := definition.isExported
  isDeclared := definition.isDeclared
  name := definition.name
  parents := definition.parents

theorem exportKeywords_eq (isExported isDeclared : Bool) :
    exportKeywords isExported isDeclared =
      keywordsText (keywordIf isExported "export" ++ keywordIf isDeclared "declare") := by
  rw [keywordsText_append, keywordsText_keywordIf, keywordsText_keywordIf]
  rfl

theorem keywordsText_clauses (name : String) (parents contracts : List String) :
    keywordsText (name :: (clauseWords "extends" parents ++ clauseWords "implements" contracts)) =
      name ++ nameList " extends " parents ++ nameList " implements " contracts ++ " " := by
  have behindParents := nameList_append_blank "implements" contracts
  have behindName := nameList_append_blank "extends" parents
  have extending : " " ++ "extends" ++ " " = " extends " := rfl
  have implementing : " " ++ "implements" ++ " " = " implements " := rfl
  rw [extending] at behindName
  rw [implementing] at behindParents
  calc keywordsText (name :: (clauseWords "extends" parents ++ clauseWords "implements" contracts))
    _ = name ++ (" " ++ keywordsText (clauseWords "extends" parents))
          ++ keywordsText (clauseWords "implements" contracts) := by
      simp only [keywordsText, keywordsText_append, String.append_assoc]
    _ = name ++ nameList " extends " parents
          ++ (" " ++ keywordsText (clauseWords "implements" contracts)) := by
      rw [← behindName]
      simp only [String.append_assoc]
    _ = name ++ nameList " extends " parents ++ nameList " implements " contracts ++ " " := by
      rw [← behindParents]
      simp only [String.append_assoc]

theorem ClassDefinition.header_eq (definition : ClassDefinition κ) :
    definition.header ++ " \x7b" = definition.shownHeader.text := by
  have brace : " \x7b" = " " ++ "\x7b" := rfl
  have classKeyword : "class" ++ " " = "class " := rfl
  have abstractKeyword : "abstract" ++ " " = "abstract " := rfl
  have clauses := keywordsText_clauses definition.name definition.parents definition.contracts
  rw [Header.text, Header.words, keywordsText_append, keywordsText_append, ← exportKeywords_eq,
    keywordsText_keywordIf, keywordsText]
  simp only [shownHeader, Bool.false_eq_true, if_false, clauses, header, brace, classKeyword,
    abstractKeyword, String.append_assoc]

theorem InterfaceDefinition.header_eq (definition : InterfaceDefinition) :
    definition.header ++ " \x7b" = definition.shownHeader.text := by
  have brace : " \x7b" = " " ++ "\x7b" := rfl
  have interfaceKeyword : "interface" ++ " " = "interface " := rfl
  have clauses := keywordsText_clauses definition.name definition.parents []
  have noContracts : nameList " implements " [] = "" := rfl
  rw [Header.text, Header.words, keywordsText_append, keywordsText_append, ← exportKeywords_eq,
    keywordsText_keywordIf, keywordsText]
  simp only [shownHeader, Bool.false_eq_true, if_true, if_false, clauses, header, brace,
    interfaceKeyword, noContracts, String.empty_append, String.append_assoc]

/-! ## Blocks -/

/-- What stands in front of a header: the doc comment and the decorators. -/
def Writer.led (description : List String) (decorators : List (Decorator Callback))
    (writer : Writer) : Writer :=
  (writer.docParagraphs description).decoratorLines decorators

theorem readHeader_of_block {header : Header} (readable : header.IsReadable) (closing : String)
    (contents : Program) (writer : Writer) : ∃ added,
      ((writer.line header.text).enclosed closing (Step.runAll contents)).2.text =
        writer.text ++ added ∧ readHeader added = some header := by
  obtain ⟨-, -, rest, text, -⟩ := Blind.enclosed closing (Blind.run contents) _ _
    (Alike.refl (writer.line header.text))
  have isMargin : IsMargin writer.margin := isMargin_copies _ _
  refine ⟨lineText writer.margin header.text ++ rest, ?_, ?_⟩
  · rw [← String.append_assoc, ← Writer.text_write, ← Writer.line_eq_write]
    exact text
  · rw [readHeader, lineWords_of_header readable isMargin, headerOf_words readable]

theorem readHeader_of_classBlock {definition : ClassDefinition Callback}
    (readable : definition.shownHeader.IsReadable) (contents : Program) (writer : Writer) :
    ∃ added, (writer.classBlock definition (Step.runAll contents)).2.text =
        (writer.led definition.description definition.decorators).text ++ added ∧
      readHeader added = some definition.shownHeader := by
  have block := readHeader_of_block readable "\x7d" contents
    (writer.led definition.description definition.decorators)
  rwa [← definition.header_eq] at block

theorem readHeader_of_interfaceBlock {definition : InterfaceDefinition}
    (readable : definition.shownHeader.IsReadable) (contents : Program) (writer : Writer) :
    ∃ added, (writer.interfaceBlock definition (Step.runAll contents)).2.text =
        (writer.led definition.description []).text ++ added ∧
      readHeader added = some definition.shownHeader := by
  have block := readHeader_of_block readable "\x7d" contents
    (writer.led definition.description [])
  rwa [← definition.header_eq] at block

/-! ## Elements of a model -/

/-- Those of the model come first. -/
def Class.shownParents (resolver : Resolver) (options : ClassOptions) (element : Class) :
    List String :=
  if (options.features.getD .all).generalizations then
    (element.generalizations.map fun relation => resolver.parentName relation.general)
      ++ options.parents
  else []

def Class.shownContracts (resolver : Resolver) (options : ClassOptions) (element : Class) :
    List String :=
  if (options.features.getD .all).realizations then
    (element.realizations.map fun relation => resolver.parentName relation.contract)
      ++ options.contracts
  else []

def Interface.shownParents (resolver : Resolver) (options : InterfaceOptions)
    (element : Interface) : List String :=
  if (options.features.getD .all).generalizations then
    (element.generalizations.map fun relation => resolver.parentName relation.general)
      ++ options.parents
  else []

def Class.shownDescription (options : ClassOptions) (element : Class) : List String :=
  if (options.features.getD .all).description then commentBodies element.comments else []

def Interface.shownDescription (options : InterfaceOptions) (element : Interface) : List String :=
  if (options.features.getD .all).description then commentBodies element.comments else []

theorem Writer.text_led_noting {α : Type} (outcome : Outcome α) (description : List String)
    (decorators : List (Decorator Program)) (writer : Writer) :
    ((writer.noting outcome).led description (Step.callbacks decorators)).text =
      (writer.led description (Step.callbacks decorators)).text := by
  have blind : Blind (Writer.led description (Step.callbacks decorators)) :=
    (Blind.docParagraphs _).andThen
      (Blind.decoratorLines (Step.eachCallback fun program _ => Blind.run program))
  have alike : Alike (writer.noting outcome) writer := ⟨rfl, rfl, rfl, rfl⟩
  obtain ⟨-, -, added, notedText, text⟩ := blind _ _ alike
  rw [notedText, text]
  rfl

theorem Resolver.exists_classDefinition (resolver : Resolver) {element : Class}
    (named : element.name ≠ "") (decorators : List (Decorator κ)) (options : ClassOptions) :
    ∃ definition, (resolver.classDefinition element decorators options).result = .ok definition ∧
      definition.description = element.shownDescription options ∧
      definition.decorators = decorators ∧ definition.isAbstract = element.isAbstract ∧
      definition.name = element.name ∧
      definition.parents = element.shownParents resolver options ∧
      definition.contracts = element.shownContracts resolver options := by
  rw [classDefinition, requiredName_of_ne named]
  exact ⟨_, rfl, rfl, rfl, rfl, rfl, rfl, rfl⟩

theorem Resolver.exists_interfaceDefinition (resolver : Resolver) {element : Interface}
    (named : element.name ≠ "") (options : InterfaceOptions) :
    ∃ definition, (resolver.interfaceDefinition element options).result = .ok definition ∧
      definition.description = element.shownDescription options ∧
      definition.name = element.name ∧
      definition.parents = element.shownParents resolver options := by
  rw [interfaceDefinition, requiredName_of_ne named]
  exact ⟨_, rfl, rfl, rfl, rfl⟩

theorem readHeader_of_writeClass {element : Class} (named : element.name ≠ "")
    (decorators : List (Decorator Program)) {options : ClassOptions} {writer : Writer}
    (readable : ∀ name ∈ element.name :: (element.shownParents writer.builder.resolver options
      ++ element.shownContracts writer.builder.resolver options), Avoids [' ', ',', '\n'] name)
    (contents : Program) : ∃ added header,
      ((Step.writeClass element decorators options contents).perform writer).writer.text =
        (writer.led (element.shownDescription options) (Step.callbacks decorators)).text ++ added ∧
      readHeader added = some header ∧ header.isInterface = false ∧
      header.isAbstract = element.isAbstract ∧ header.name = element.name ∧
      header.parents = element.shownParents writer.builder.resolver options ∧
      header.contracts = element.shownContracts writer.builder.resolver options := by
  obtain ⟨definition, built, description, decorated, isAbstract, name, parents, contracts⟩ :=
    writer.builder.resolver.exists_classDefinition named (Step.callbacks decorators) options
  have readableHeader : definition.shownHeader.IsReadable := by
    rwa [Header.IsReadable, Header.names, ClassDefinition.shownHeader, name, parents, contracts]
  obtain ⟨added, text, read⟩ := readHeader_of_classBlock readableHeader contents (writer.noting
    (writer.builder.resolver.classDefinition element (Step.callbacks decorators) options))
  rw [description, decorated, Writer.text_led_noting] at text
  refine ⟨added, definition.shownHeader, ?_, read, rfl, isAbstract, name, parents, contracts⟩
  rw [Step.perform, Performed.writer_ofWrite, Writer.writeClass, built]
  exact text

theorem readHeader_of_writeInterface {element : Interface} (named : element.name ≠ "")
    {options : InterfaceOptions} {writer : Writer}
    (readable : ∀ name ∈ element.name :: element.shownParents writer.builder.resolver options,
      Avoids [' ', ',', '\n'] name) (contents : Program) : ∃ added header,
      ((Step.writeInterface element options contents).perform writer).writer.text =
        (writer.led (element.shownDescription options) []).text ++ added ∧
      readHeader added = some header ∧ header.isInterface = true ∧ header.name = element.name ∧
      header.parents = element.shownParents writer.builder.resolver options := by
  obtain ⟨definition, built, description, name, parents⟩ :=
    writer.builder.resolver.exists_interfaceDefinition named options
  have readableHeader : definition.shownHeader.IsReadable := by
    rwa [Header.IsReadable, Header.names, InterfaceDefinition.shownHeader, name, parents,
      List.append_nil]
  obtain ⟨added, text, read⟩ := readHeader_of_interfaceBlock readableHeader contents
    (writer.noting (writer.builder.resolver.interfaceDefinition element options))
  have noDecorators : Step.callbacks [] = [] := by rw [Step.callbacks]
  rw [description, ← noDecorators, Writer.text_led_noting, noDecorators] at text
  refine ⟨added, definition.shownHeader, ?_, read, rfl, name, parents⟩
  rw [Step.perform, Performed.writer_ofWrite, Writer.writeInterface, built]
  exact text

/-- From the line that opens a class or an interface its modifiers, its name and its lists are read
back; those of an element are the lists of the model and then those of the options. -/
theorem headers_read_back (writer : Writer) (contents : Program) :
    (∀ definition : ClassDefinition Program, definition.description = [] →
      definition.decorators = [] → definition.shownHeader.IsReadable → ∃ added,
        ((Step.classBlock (some definition) contents).perform writer).writer.text =
          writer.text ++ added ∧
        readHeader added = some definition.shownHeader) ∧
    (∀ definition : InterfaceDefinition, definition.description = [] →
      definition.shownHeader.IsReadable → ∃ added,
        ((Step.interfaceBlock (some definition) contents).perform writer).writer.text =
          writer.text ++ added ∧
        readHeader added = some definition.shownHeader) ∧
    (∀ (element : Class) (decorators : List (Decorator Program)) (options : ClassOptions),
      element.name ≠ "" →
      (∀ name ∈ element.name :: (element.shownParents writer.builder.resolver options
        ++ element.shownContracts writer.builder.resolver options),
          Avoids [' ', ',', '\n'] name) → ∃ added header,
        ((Step.writeClass element decorators options contents).perform writer).writer.text =
          (writer.led (element.shownDescription options) (Step.callbacks decorators)).text
            ++ added ∧
        readHeader added = some header ∧ header.isInterface = false ∧
        header.isAbstract = element.isAbstract ∧ header.name = element.name ∧
        header.parents = element.shownParents writer.builder.resolver options ∧
        header.contracts = element.shownContracts writer.builder.resolver options) ∧
    ∀ (element : Interface) (options : InterfaceOptions), element.name ≠ "" →
      (∀ name ∈ element.name :: element.shownParents writer.builder.resolver options,
        Avoids [' ', ',', '\n'] name) → ∃ added header,
        ((Step.writeInterface element options contents).perform writer).writer.text =
          (writer.led (element.shownDescription options) []).text ++ added ∧
        readHeader added = some header ∧ header.isInterface = true ∧
        header.name = element.name ∧
        header.parents = element.shownParents writer.builder.resolver options := by
  refine ⟨fun definition bare plain readable => ?_, fun definition bare readable => ?_,
    fun element decorators options named readable =>
      readHeader_of_writeClass named decorators readable contents,
    fun element options named readable => readHeader_of_writeInterface named readable contents⟩
  · have sameHeader : (Step.classCallbacks definition).shownHeader = definition.shownHeader := by
      rw [Step.classCallbacks]
      rfl
    have sameDescription :
        (Step.classCallbacks definition).description = definition.description := by
      rw [Step.classCallbacks]
    have block := readHeader_of_classBlock (sameHeader ▸ readable) contents writer
    rw [sameHeader, sameDescription, bare, Step.decorators_classCallbacks, plain,
      Step.callbacks] at block
    exact block
  · have block := readHeader_of_interfaceBlock readable contents writer
    rw [bare] at block
    exact block

theorem keyword_names_read_back :
    let definition : ClassDefinition Program := {
      name := "extends"
      isExported := true
      parents := ["implements", "implements"]
      contracts := ["class", "extends"] }
    let element : Class := {
      name := "class"
      comments := [⟨"c"⟩]
      generalizations := [⟨.classType "B"⟩]
      realizations := [⟨.interfaceType "C"⟩] }
    let options : ClassOptions := {
      features := some (.single 1)
      parents := ["B"]
      contracts := ["D"] }
    let writer : Writer := { sheet := { level := 1 } }
    ((Step.classBlock (some definition) []).perform writer).writer.text =
        "  export class extends extends implements, implements implements class, extends \x7b\n"
          ++ "  \x7d\n" ∧
      (∃ added, ((Step.classBlock (some definition) []).perform writer).writer.text =
          writer.text ++ added ∧
        readHeader added = some definition.shownHeader) ∧
      ((Step.writeClass element [] options []).perform writer).writer.text =
        "  class class extends B, B \x7b\n  \x7d\n" ∧
      ∃ added header, ((Step.writeClass element [] options []).perform writer).writer.text =
          (writer.led (element.shownDescription options) (Step.callbacks [])).text ++ added ∧
        readHeader added = some header ∧ header.isInterface = false ∧
        header.isAbstract = element.isAbstract ∧ header.name = element.name ∧
        header.parents = element.shownParents writer.builder.resolver options ∧
        header.contracts = element.shownContracts writer.builder.resolver options := by
  intro definition element options writer
  obtain ⟨ofClass, -, ofModel, -⟩ := headers_read_back writer []
  refine ⟨by decide, ofClass definition rfl rfl ?_, by decide,
    ofModel element [] options (by decide) (by decide)⟩
  have readable : ∀ name ∈ definition.shownHeader.names, Avoids [' ', ',', '\n'] name := by decide
  exact readable

end Typescribe
