import Typescribe.Proofs.Headers
import Typescribe.Proofs.Unbroken
/-!
# Modules of imports

An import names its module between quotes, with slashes for backslashes. The name is not quoted
as other texts are: it is set down as it is. So a reader of literals gets it back if it holds
neither a quote nor a line terminator, and in all other cases what the reader makes of the line is
not an import of that module.
-/
set_option autoImplicit false

namespace Typescribe

namespace Text

/-- But for backslashes, the text says itself between quotes. -/
def IsRaw (text : List Char) : Prop :=
  ∀ letter ∈ text, letter ≠ '\'' ∧ isLineTerminator letter = false

instance : DecidablePred IsRaw := fun text =>
  inferInstanceAs (Decidable (∀ letter ∈ text, letter ≠ '\'' ∧ isLineTerminator letter = false))

/-! ## Reading what is not escaped -/

theorem readLiteral_quote (source : String) :
    readLiteral? ("'" ++ source) = (readRest? .plain source.toList).map fun read =>
      (String.ofList read.1, String.ofList read.2) := by
  have letters : ("'" ++ source).toList = '\'' :: source.toList := by simp
  simp only [readLiteral?, letters]

theorem readRest_letter {letter : Char} (noBackslash : letter ≠ '\\') (noQuote : letter ≠ '\'')
    (noLineEnd : isLineTerminator letter = false) (rest : List Char) :
    readRest? .plain (letter :: rest) =
      (readRest? .plain rest).map (Toml.putBefore [letter]) := by
  simp [readRest?, LiteralState.next, noBackslash, noQuote, noLineEnd]

theorem readRest_raw {text : List Char} (noBackslash : '\\' ∉ text) (raw : IsRaw text)
    (rest : List Char) : readRest? .plain (text ++ '\'' :: rest) = some (text, rest) := by
  induction text with
  | nil => rfl
  | cons letter text ih =>
    obtain ⟨⟨noQuote, noLineEnd⟩, others⟩ := List.forall_mem_cons.mp raw
    rw [List.mem_cons, not_or] at noBackslash
    rw [List.cons_append, readRest_letter (Ne.symm noBackslash.1) noQuote noLineEnd,
      ih noBackslash.2 others]
    rfl

/-- The literal has no end, or it ends too early. -/
theorem length_lt_of_readRest {text rest value behind : List Char} (noBackslash : '\\' ∉ text)
    (notRaw : ¬ IsRaw text)
    (read : readRest? .plain (text ++ '\'' :: rest) = some (value, behind)) :
    rest.length < behind.length := by
  induction text generalizing value with
  | nil => exact absurd (List.forall_mem_nil _) notRaw
  | cons letter text ih =>
    rw [List.mem_cons, not_or] at noBackslash
    by_cases quote : letter = '\''
    · have cut : text ++ '\'' :: rest = behind := by
        simpa [readRest?, quote] using congrArg (Option.map Prod.snd) read
      simp [← cut]
      omega
    · cases lineEnd : isLineTerminator letter with
      | true => simp [readRest?, LiteralState.next, quote, lineEnd, Ne.symm noBackslash.1] at read
      | false =>
        rw [List.cons_append, readRest_letter (Ne.symm noBackslash.1) quote lineEnd] at read
        obtain ⟨⟨others, _⟩, readOthers, same⟩ := Option.map_eq_some_iff.mp read
        obtain rfl := congrArg Prod.snd same
        refine ih noBackslash.2 (fun raw => notRaw ?_) readOthers
        exact List.forall_mem_cons.mpr ⟨⟨quote, lineEnd⟩, raw⟩

end Text

/-! ## Modules -/

/-- A literal behind `from`, with nothing but a semicolon behind it. -/
def importedModule? (line : String) : Option String :=
  if "from ".toList <:+ line.toList.takeWhile fun letter => letter ∉ ['\''] then
    (Text.readLiteral? (String.ofList (line.toList.dropWhile fun letter => letter ∉ ['\'']))).bind
      fun (name, rest) => if rest = ";\n" then some name else none
  else none

theorem importedModule_append {front : String} (noQuote : Avoids ['\''] front) (rest : String) :
    importedModule? (front ++ "from '" ++ rest) =
      (Text.readLiteral? ("'" ++ rest)).bind fun (name, behind) =>
        if behind = ";\n" then some name else none := by
  have isFront : ∀ letter ∈ (front ++ "from ").toList, decide (letter ∉ ['\'']) = true :=
    fun letter member => decide_eq_true (noQuote.append (by decide) letter member)
  have letters : (front ++ "from '" ++ rest).toList =
      (front ++ "from ").toList ++ '\'' :: rest.toList := by
    simp
  have quoted : String.ofList ('\'' :: rest.toList) = "'" ++ rest := by
    rw [String.ofList_cons, String.ofList_toList]
    rfl
  have atQuote : ∀ letter ∈ ('\'' :: rest.toList).head?, decide (letter ∉ ['\'']) = false := by
    simp
  obtain ⟨taken, dropped⟩ := Text.run_stops isFront atQuote
  rw [importedModule?, letters, taken, dropped, quoted,
    if_pos ⟨front.toList, by rw [String.toList_append]⟩]

theorem noBackslash_modulePath (name : String) : '\\' ∉ (modulePath name).toList := by
  rw [modulePath, String.toList_ofList, Text.replaced]
  intro member
  obtain ⟨letter, -, isBackslash⟩ := List.mem_map.mp member
  split at isBackslash
  · cases isBackslash
  · next other => exact other isBackslash

theorem forall_mem_modulePath {holds : Char → Prop} (same : holds '\\' ↔ holds '/')
    (name : String) :
    (∀ letter ∈ (modulePath name).toList, holds letter) ↔ ∀ letter ∈ name.toList, holds letter := by
  rw [modulePath, String.toList_ofList, Text.replaced, List.forall_mem_map]
  refine forall₂_congr fun letter _ => ?_
  split
  · next isBackslash => rw [isBackslash, same]
  · exact Iff.rfl

theorem importedModule_of_front {front : String} (noQuote : Avoids ['\''] front) (name : String) :
    importedModule? (front ++ "from '" ++ (modulePath name ++ "';\n")) =
      if Text.IsRaw name.toList then some (modulePath name) else none := by
  have letters : (modulePath name ++ "';\n").toList =
      (modulePath name).toList ++ '\'' :: [';', '\n'] := by
    rw [String.toList_append]
    rfl
  have isRaw : Text.IsRaw (modulePath name).toList ↔ Text.IsRaw name.toList :=
    forall_mem_modulePath (by decide) name
  rw [importedModule_append noQuote, Text.readLiteral_quote, letters]
  by_cases raw : Text.IsRaw name.toList
  · rw [if_pos raw, Text.readRest_raw (noBackslash_modulePath name) (isRaw.mpr raw)]
    simp
  · rw [if_neg raw]
    have notRaw : ¬ Text.IsRaw (modulePath name).toList := fun pathRaw => raw (isRaw.mp pathRaw)
    cases read : Text.readRest? .plain ((modulePath name).toList ++ '\'' :: [';', '\n']) with
    | none => rfl
    | some parts =>
      have longer := Text.length_lt_of_readRest (noBackslash_modulePath name) notRaw read
      refine if_neg fun ends => ?_
      have isEnd : parts.2 = [';', '\n'] := by
        simpa using congrArg String.toList ends
      rw [isEnd] at longer
      exact absurd longer (Nat.lt_irrefl _)

/-! ## Imports -/

structure ImportWritten (name line : String) (writer after : Writer) : Prop where
  text : after.text = writer.text ++ lineText writer.margin line
  oneLine : Unbroken line ↔ Unbroken name
  module : importedModule? (lineText writer.margin line) =
    if Text.IsRaw name.toList then some (modulePath name) else none

theorem exists_importWritten {front name : String} {line? : Option String}
    (plain : Avoids ['\'', '\n'] front)
    (isLine : line? = some (front ++ "from '" ++ modulePath name ++ "';")) (writer : Writer) :
    ∃ line, ImportWritten name line writer (writer.line? line?) := by
  subst isLine
  have noQuote : Avoids ['\''] (writer.margin ++ front) :=
    (Avoids.margin (isMargin_copies _ _) (by decide) (by decide)).append (plain.mono (by decide))
  refine ⟨front ++ "from '" ++ modulePath name ++ "';", ?_, ?_, ?_⟩
  · rw [Writer.line?, Writer.line_eq_write, Writer.text_write]
  · have samePath : Unbroken (modulePath name) ↔ Unbroken name :=
      forall_mem_modulePath (by decide) name
    rw [← samePath]
    constructor
    · exact Avoids.of_subset fun letter member => by simp [member]
    · intro unbroken
      have opened : Unbroken (front ++ "from '") := (plain.mono (by decide)).append (by decide)
      exact (opened.append unbroken).append (by decide)
  · have whole : lineText writer.margin (front ++ "from '" ++ modulePath name ++ "';") =
        writer.margin ++ front ++ "from '" ++ (modulePath name ++ "';\n") := by
      have ending : "';" ++ "\n" = "';\n" := rfl
      simp only [lineText, String.append_assoc, ending]
    rw [whole]
    exact importedModule_of_front noQuote name

/-- A reader of the import gets the path of the module exactly if the name holds neither quotes nor
line terminators; else the line is no import. -/
theorem imports_name_their_module (writer : Writer) :
    (∀ name names, name ≠ "" → names ≠ [] → (∀ each ∈ names, Avoids ['\'', '\n'] each) →
      ∃ line, ImportWritten name line writer
        (Step.perform (.namedImport name names) writer).writer) ∧
    ∀ name given, name ≠ "" → Avoids ['\'', '\n'] (importAlias name given) →
      ∃ line, ImportWritten name line writer
        (Step.perform (.wholeImport name given) writer).writer := by
  constructor
  · intro name names isName named plain
    have front : Avoids ['\'', '\n'] ("import \x7b " ++ ", ".intercalate names ++ " \x7d ") :=
      (Avoids.append (by decide) (.intercalate (by decide) plain)).append (by decide)
    refine exists_importWritten front ?_ writer
    have ending : " \x7d from '" = " \x7d " ++ "from '" := rfl
    rw [namedImport?, if_neg (by simp [isName, named]), ending]
    simp only [String.append_assoc]
  · intro name given isName plain
    have front : Avoids ['\'', '\n'] ("import * as " ++ importAlias name given ++ " ") :=
      (Avoids.append (by decide) plain).append (by decide)
    refine exists_importWritten front ?_ writer
    have ending : " from '" = " " ++ "from '" := rfl
    rw [wholeImport?, if_neg (by simp [isName]), ending]
    simp only [String.append_assoc]

theorem windows_path_is_imported :
    let name := "..\\lib\\core"
    let writer : Writer := { sheet := { level := 1 } }
    name ≠ "" ∧ Avoids ['\'', '\n'] (importAlias name none) ∧
      (Step.perform (.wholeImport name none) writer).writer.text =
        "  import * as LibCore from '../lib/core';\n" ∧
      (∃ line, ImportWritten name line writer
        (Step.perform (.wholeImport name none) writer).writer) ∧
      ∃ line, ImportWritten name line writer
        (Step.perform (.namedImport name ["a", "b from"]) writer).writer := by
  intro name writer
  obtain ⟨named, whole⟩ := imports_name_their_module writer
  have plain : Avoids ['\'', '\n'] (importAlias name none) := by decide
  exact ⟨by decide, plain, by decide, whole name none (by decide) plain,
    named name ["a", "b from"] (by decide) (by decide) (by decide)⟩

theorem quote_ends_module :
    (Step.perform (.namedImport "./it's" ["a"]) {}).writer.text =
        "import \x7b a \x7d from './it's';\n" ∧
      Text.readLiteral? "'./it's';\n" = some ("./it", "s';\n") ∧
      importedModule? "import \x7b a \x7d from './it's';\n" = none := by
  decide

end Typescribe
