import Mathlib.Data.List.Nodup
import Mathlib.Data.List.TakeWhile
import Typescribe.Feature
import Typescribe.Proofs.Digits
import Typescribe.Proofs.Lossless
/-!
# Flag sets read back

A flag set is written as its names and one number for the bits that have none, and reading puts
the same eight bits together again, whichever they are.
-/
set_option autoImplicit false

namespace Typescribe

/-! ## Parts of a text -/

namespace Text

/-- Letters without bars and blanks. -/
structure IsPart (part : List Char) : Prop where
  notEmpty : part ≠ []
  isClean : ∀ letter ∈ part, letter ≠ '|' ∧ isBlank letter = false

namespace IsPart

variable {part : List Char}

theorem iff_all : IsPart part ↔
    part ≠ [] ∧ (part.all fun letter => letter ≠ '|' && !isBlank letter) = true := by
  constructor
  · intro isPart
    exact ⟨isPart.notEmpty, List.all_eq_true.mpr fun letter member => by
      simpa using isPart.isClean letter member⟩
  · rintro ⟨notEmpty, clean⟩
    exact ⟨notEmpty, fun letter member => by simpa using List.all_eq_true.mp clean letter member⟩

instance : Decidable (IsPart part) := decidable_of_iff' _ iff_all

theorem dropWhile (isPart : IsPart part) (rest : List Char) :
    (part ++ rest).dropWhile isBlank = part ++ rest := by
  cases part with
  | nil => exact absurd rfl isPart.notEmpty
  | cons letter part =>
    rw [List.cons_append, List.dropWhile_cons, (isPart.isClean letter (by simp)).2,
      if_neg nofun]

theorem reverse (isPart : IsPart part) : IsPart part.reverse where
  notEmpty := by simpa using isPart.notEmpty
  isClean letter member := isPart.isClean letter (List.mem_reverse.mp member)

theorem spaced (isPart : IsPart part) {before after : List Char}
    (spacesBefore : ∀ letter ∈ before, letter = ' ')
    (spacesAfter : ∀ letter ∈ after, letter = ' ') :
    '|' ∉ before ++ (part ++ after) ∧ trimmed (before ++ (part ++ after)) = part := by
  have atEnd := isPart.reverse.dropWhile []
  rw [List.append_nil] at atEnd
  constructor
  · intro member
    rcases List.mem_append.mp member with inBefore | member
    · exact absurd (spacesBefore '|' inBefore) (by decide)
    · rcases List.mem_append.mp member with inPart | inAfter
      · exact (isPart.isClean '|' inPart).1 rfl
      · exact absurd (spacesAfter '|' inAfter) (by decide)
  · rw [trimmed, List.dropWhile_append_of_pos fun letter member => by
        rw [spacesBefore letter member]; rfl,
      isPart.dropWhile, List.reverse_append, List.dropWhile_append_of_pos fun letter member => by
        rw [spacesAfter letter (List.mem_reverse.mp member)]; rfl,
      atEnd, List.reverse_reverse]

theorem trimmed_ne_nil (isPart : IsPart part) (rest : List Char) :
    trimmed (part ++ rest) ≠ [] := by
  intro empty
  rw [trimmed, isPart.dropWhile, List.reverse_eq_nil_iff, List.dropWhile_eq_nil_iff] at empty
  cases part with
  | nil => exact isPart.notEmpty rfl
  | cons letter part =>
    have blank := empty letter (by simp)
    rw [(isPart.isClean letter (by simp)).2] at blank
    cases blank

end IsPart

theorem parts_led {parts : List String} {part : String} {lead : List Char}
    (spaces : ∀ letter ∈ lead, letter = ' ')
    (areParts : ∀ each ∈ part :: parts, IsPart each.toList) :
    ((lead ++ (" | ".intercalate (part :: parts)).toList).splitOn '|').map trimmed =
      (part :: parts).map String.toList := by
  induction parts generalizing part lead with
  | nil =>
    have isPart := areParts part (by simp)
    obtain ⟨noBar, whole⟩ := isPart.spaced spaces (List.forall_mem_nil _)
    rw [List.append_nil] at noBar whole
    rw [String.intercalate_singleton, List.splitOn_eq_singleton noBar, List.map_singleton, whole,
      List.map_singleton]
  | cons next parts ih =>
    have isPart := areParts part (by simp)
    have space : ∀ letter ∈ [' '], letter = ' ' := by simp
    obtain ⟨noBar, whole⟩ := isPart.spaced spaces space
    have behind := ih space fun each member =>
      areParts each (List.mem_cons_of_mem part member)
    have cut : lead ++ (" | ".intercalate (part :: next :: parts)).toList =
        (lead ++ (part.toList ++ [' '])) ++
          '|' :: ([' '] ++ (" | ".intercalate (next :: parts)).toList) := by
      simp
    rw [cut, List.splitOn_append_cons_self_of_not_mem noBar, List.map_cons, whole, behind]
    rfl

theorem parts_intercalate {parts : List String} (notEmpty : parts ≠ [])
    (areParts : ∀ part ∈ parts, IsPart part.toList) :
    ((" | ".intercalate parts).toList.splitOn '|').map trimmed =
      parts.map String.toList := by
  cases parts with
  | nil => exact absurd rfl notEmpty
  | cons part parts => exact parts_led (List.forall_mem_nil _) areParts

theorem trimmed_intercalate_ne_nil {parts : List String} (notEmpty : parts ≠ [])
    (areParts : ∀ part ∈ parts, IsPart part.toList) :
    trimmed (" | ".intercalate parts).toList ≠ [] := by
  cases parts with
  | nil => exact absurd rfl notEmpty
  | cons part parts =>
    have isPart := areParts part (by simp)
    cases parts with
    | nil =>
      have alone := isPart.trimmed_ne_nil []
      rw [List.append_nil] at alone
      exact alone
    | cons next parts =>
      rw [String.intercalate_cons_cons, String.append_assoc, String.toList_append]
      exact isPart.trimmed_ne_nil _

theorem clean_of_mem_toDigits (number : Nat) :
    ∀ letter ∈ Nat.toDigits 16 number, letter ≠ '|' ∧ isBlank letter = false :=
  forall_mem_toDigits (by decide) (by decide) number

end Text

namespace FlagSet

/-- The names of flags differ, are parts of a text, and do not look like numbers. -/
class FlagNames (names : List String) : Prop where
  nodup : names.Nodup
  isPart : ∀ name ∈ names, Text.IsPart name.toList
  notNumber : ∀ name ∈ names, name.toList.head? ≠ some '0'

variable {names : List String}

/-! ## Bits -/

theorem has_empty (position : Nat) : (empty : FlagSet names).has position = false := by
  simp [has, empty]

theorem has_union (left right : FlagSet names) (position : Nat) :
    (left.union right).has position = (left.has position || right.has position) := by
  simp [has, union]

theorem has_single {flag position : Nat} (inRange : position < 8) :
    (single flag : FlagSet names).has position = decide (flag = position) := by
  rw [has, single, BitVec.getLsbD_ofNat, decide_eq_true inRange, Bool.true_and]
  exact Nat.testBit_two_pow

theorem has_all {position : Nat} (inRange : position < 8) :
    (all : FlagSet names).has position = decide (position < names.length) := by
  rw [has, all, BitVec.getLsbD_ofNat, decide_eq_true inRange, Bool.true_and]
  exact Nat.testBit_two_pow_sub_one _ _

theorem has_foldl (sets : List (FlagSet names)) (start : FlagSet names) (position : Nat) :
    (sets.foldl union start).has position =
      (start.has position || sets.any fun set => set.has position) := by
  induction sets generalizing start with
  | nil => simp
  | cons set sets ih => rw [List.foldl_cons, ih, has_union, List.any_cons, Bool.or_assoc]

theorem eq_of_has {left right : FlagSet names}
    (agree : ∀ position < 8, left.has position = right.has position) : left = right := by
  cases left
  cases right
  congr
  exact BitVec.eq_of_getLsbD_eq agree

/-! ## Pieces of a flag text -/

/-- What a set is written as, piece by piece, and the set that each piece stands for. -/
def pieces (set : FlagSet names) : List (String × FlagSet names) :=
  (names.zipIdx.filter fun named => set.has named.2).map
      (fun named => (named.1, single named.2)) ++
    if set.unnamed = 0 then []
    else [("0x" ++ String.ofList (Nat.toDigits 16 set.unnamed.toNat), ⟨set.unnamed⟩)]

theorem text_eq_pieces (set : FlagSet names) :
    set.text = " | ".intercalate (set.pieces.map Prod.fst) := by
  have held : (names.zipIdx.filter fun named => set.has named.2).map
      (Prod.fst ∘ fun named => (named.1, (single named.2 : FlagSet names))) = set.heldNames := rfl
  rw [text, pieces, List.map_append, List.map_map, held]
  split <;> rfl

theorem has_unnamed (set : FlagSet names) {position : Nat} (inRange : position < 8) :
    set.unnamed.getLsbD position =
      (set.has position && !decide (position < names.length)) := by
  rw [unnamed, BitVec.getLsbD_and, BitVec.getLsbD_not, decide_eq_true inRange, Bool.true_and]
  congr 2
  exact has_all inRange

theorem any_heldNames (set : FlagSet names) {position : Nat} (inRange : position < 8) :
    ((names.zipIdx.filter fun named => set.has named.2).any fun named =>
      (single named.2 : FlagSet names).has position) =
        (decide (position < names.length) && set.has position) := by
  rw [Bool.eq_iff_iff]
  simp only [List.any_eq_true, List.mem_filter, Bool.and_eq_true, decide_eq_true_eq,
    has_single inRange]
  constructor
  · rintro ⟨⟨name, flag⟩, ⟨isFlag, held⟩, rfl⟩
    obtain ⟨-, small, -⟩ := List.mem_zipIdx isFlag
    exact ⟨by omega, held⟩
  · rintro ⟨small, held⟩
    have isFlag : (names[position], position) ∈ names.zipIdx :=
      List.mem_zipIdx_iff_getElem?.mpr (List.getElem?_eq_getElem small)
    exact ⟨_, ⟨isFlag, held⟩, rfl⟩

theorem union_pieces (set : FlagSet names) :
    (set.pieces.map Prod.snd).foldl union empty = set := by
  apply eq_of_has
  intro position inRange
  have rest : (if set.unnamed = 0 then []
      else [("0x" ++ String.ofList (Nat.toDigits 16 set.unnamed.toNat),
        (⟨set.unnamed⟩ : FlagSet names))]).any (fun piece => piece.2.has position) =
        set.unnamed.getLsbD position := by
    split
    · next nothingLeft => simp [nothingLeft]
    · simp [has]
  rw [has_foldl, has_empty, Bool.false_or, List.any_map, pieces, List.any_append, List.any_map]
  simp only [Function.comp_def]
  rw [any_heldNames set inRange, rest, has_unnamed set inRange]
  cases set.has position <;> simp

theorem hexNumber_toDigits (number : Nat) :
    hexNumber? (Nat.toDigits 16 number) = some number := by
  have isNumber := Text.numberOfDigits_toDigits (by decide) (Nat.le_refl 16) number
  unfold hexNumber?
  split
  · next rest written =>
    have noDigit : Text.digitValue? 16 '+' = none := rfl
    simp [written, Text.numberOfDigits?, noDigit] at isNumber
  · exact isNumber

theorem ofPart_number (bits : BitVec 8) :
    Text.IsPart ("0x" ++ String.ofList (Nat.toDigits 16 bits.toNat)).toList ∧
      ofPart? names ("0x" ++ String.ofList (Nat.toDigits 16 bits.toNat)).toList = some ⟨bits⟩ := by
  have letters : ("0x" ++ String.ofList (Nat.toDigits 16 bits.toNat)).toList =
      '0' :: 'x' :: Nat.toDigits 16 bits.toNat := by
    simp
  rw [letters]
  refine ⟨⟨nofun, ?_⟩, ?_⟩
  · intro letter member
    rcases List.mem_cons.mp member with rfl | member
    · decide
    · rcases List.mem_cons.mp member with rfl | member
      · decide
      · exact Text.clean_of_mem_toDigits _ letter member
  · simp only [ofPart?]
    rw [hexNumber_toDigits bits.toNat, Option.bind_some, if_pos bits.isLt, BitVec.ofNat_toNat,
      BitVec.setWidth_eq]

theorem ofPart_name [FlagNames names] {name : String} {flag : Nat}
    (isFlag : names[flag]? = some name) :
    ofPart? names name.toList = some (single flag) := by
  obtain ⟨small, rfl⟩ := List.getElem?_eq_some_iff.mp isFlag
  have found : names.findIdx? (· == names[flag]) = some flag := by
    refine List.findIdx?_eq_some_iff_getElem.mpr ⟨small, beq_self_eq_true _, ?_⟩
    intro earlier before same
    have equal : earlier = flag :=
      (List.Nodup.getElem_inj_iff FlagNames.nodup).mp (eq_of_beq same)
    omega
  unfold ofPart?
  split
  · next digits written =>
    have notNumber := FlagNames.notNumber names[flag] (List.getElem_mem small)
    rw [written] at notNumber
    exact absurd rfl notNumber
  · rw [String.ofList_toList, found, Option.map_some]

theorem ofPart_piece [FlagNames names] {set : FlagSet names} {piece : String × FlagSet names}
    (isPiece : piece ∈ set.pieces) :
    Text.IsPart piece.1.toList ∧ ofPart? names piece.1.toList = some piece.2 := by
  rcases List.mem_append.mp isPiece with isNamed | isRest
  · obtain ⟨⟨name, flag⟩, held, rfl⟩ := List.mem_map.mp isNamed
    have isFlag := List.mem_zipIdx_iff_getElem?.mp (List.mem_filter.mp held).1
    have member : name ∈ names := List.mem_of_getElem? isFlag
    exact ⟨FlagNames.isPart name member, ofPart_name isFlag⟩
  · split at isRest
    · cases isRest
    · obtain rfl := List.mem_singleton.mp isRest
      exact ofPart_number set.unnamed

theorem ofText_text [FlagNames names] (set : FlagSet names) :
    ofText? names set.text = some set := by
  rw [ofText?, text_eq_pieces]
  by_cases noPiece : set.pieces = []
  · have nothing := union_pieces set
    rw [noPiece] at nothing ⊢
    exact congrArg some nothing
  · have areParts : ∀ part ∈ set.pieces.map Prod.fst, Text.IsPart part.toList := by
      intro part member
      obtain ⟨piece, isPiece, rfl⟩ := List.mem_map.mp member
      exact (ofPart_piece isPiece).1
    have notEmpty : set.pieces.map Prod.fst ≠ [] := by simpa using noPiece
    have cut := Text.parts_intercalate notEmpty areParts
    have read : (set.pieces.map (String.toList ∘ Prod.fst)).mapM (ofPart? names) =
        some (set.pieces.map Prod.snd) :=
      mapM_map_eq_some fun piece isPiece => (ofPart_piece isPiece).2
    rw [← List.map_map, ← cut, List.mapM_map] at read
    rw [if_neg (Text.trimmed_intercalate_ne_nil notEmpty areParts)]
    exact (congrArg (Option.map _) read).trans (congrArg some (union_pieces set))

instance [FlagNames names] : Lossless (FlagSet names) where
  readsBack set := ⟨ofText_text set, nofun⟩

end FlagSet

/-! ## The flag sets of definitions -/

instance : FlagSet.FlagNames ["NULL_KEYWORD", "QUESTION_TOKEN"] := by constructor <;> decide

instance : FlagSet.FlagNames
    ["JS_DOC_DESCRIPTION", "GENERALIZATIONS", "INTERFACE_REALIZATIONS"] := by
  constructor <;> decide

instance : FlagSet.FlagNames ["JS_DOC_DESCRIPTION", "GENERALIZATIONS"] := by
  constructor <;> decide

instance : FlagSet.FlagNames ["JS_DOC_DESCRIPTION", "INITIALIZERS"] := by constructor <;> decide

instance : FlagSet.FlagNames
    ["JS_DOC_DESCRIPTION", "ACCESS_MODIFIER", "READONLY_MODIFIER", "OPTIONAL_MODIFIER",
      "INITIALIZER", "DEFINITE_ASSIGNMENT_ASSERTION_MODIFIER"] := by
  constructor <;> decide

instance : FlagSet.FlagNames ["JS_DOC_DESCRIPTION", "ACCESS_MODIFIER", "OPTIONAL_MODIFIER"] := by
  constructor <;> decide

instance : FlagSet.FlagNames ["JS_DOC_DESCRIPTION", "OPTIONAL_MODIFIER"] := by
  constructor <;> decide

end Typescribe
