import Typescribe.Proofs.Delimiters
import Typescribe.Proofs.Literals
import Typescribe.Proofs.Traversal
/-!
# Tokens

What a reader of declarations sees: names, numbers, literals and signs. Blanks and block comments
count for nothing, a comment ends at the first `*/`, and a name or a number goes on as long as it
can. The reader knows nothing of a writer; a text `Lexes` to tokens if it stands for them in front
of whatever follows it, so that the tokens of an output are put together from those of its parts.
-/
set_option autoImplicit false

namespace Typescribe

inductive Token where
  | word (name : String)
  | value (value : EnumValue)
  | comma
  | equals
  | opening
  | closing
  deriving DecidableEq

namespace Token

def startsWord (letter : Char) : Bool :=
  ('A' ≤ letter && letter ≤ 'Z') || ('a' ≤ letter && letter ≤ 'z') || letter = '_' || letter = '$'

def continuesWord (letter : Char) : Bool := startsWord letter || letter.isDigit

def signs : List (Char × Token) :=
  [(',', comma), ('=', equals), ('\x7b', opening), ('\x7d', closing)]

def sign? (letter : Char) : Option Token := signs.lookup letter

def isSign (letter : Char) : Bool := (sign? letter).isSome

end Token

/-- ASCII letters, digits, low lines and dollar signs, with no digit in front. -/
def isIdentifier (name : String) : Bool :=
  match name.toList with
  | [] => false
  | first :: rest => Token.startsWord first && rest.all Token.continuesWord

namespace Token

/-! ## Readers -/

def digits? (letters : List Char) : Option (Nat × List Char) :=
  (Text.numberOfDigits? 10 (letters.takeWhile Char.isDigit)).map fun size =>
    (size, letters.dropWhile Char.isDigit)

def integer? : List Char → Option (Int × List Char)
  | '-' :: rest => (digits? rest).map (Prod.map (fun size => -Int.ofNat size) id)
  | letters => (digits? letters).map (Prod.map Int.ofNat id)

def number? (letters : List Char) : Option (Int64 × List Char) :=
  ((integer? letters).filter fun read =>
    Int64.minValue.toInt ≤ read.1 ∧ read.1 ≤ Int64.maxValue.toInt).map (Prod.map Int64.ofInt id)

def plainPiece? (letter : Char) (rest : List Char) : Option (Option Token × List Char) :=
  if Text.isBlank letter then some (none, rest)
  else if startsWord letter then
    some (some (.word (String.ofList (letter :: rest.takeWhile continuesWord))),
      rest.dropWhile continuesWord)
  else match sign? letter with
    | some sign => some (some sign, rest)
    | none => (number? (letter :: rest)).map
      (Prod.map (fun number => some (.value (.number number))) id)

/-- One token, or none for a blank or a block comment, and what follows it. -/
def piece? : List Char → Option (Option Token × List Char)
  | [] => none
  | '/' :: '*' :: inside => (afterComment inside).map fun rest => (none, rest)
  | '\'' :: inside => (Text.readRest? .plain inside).map
    (Prod.map (fun letters => some (.value (.text (String.ofList letters)))) id)
  | letter :: rest => plainPiece? letter rest

/-! ## Readers go on -/

theorem length_afterComment {text rest : List Char} (read : afterComment text = some rest) :
    rest.length < text.length := by
  fun_induction afterComment text with
  | case1 behind =>
    cases Option.some.inj read
    simp only [List.length_cons]
    omega
  | case2 letter tail notHere ih =>
    have shorter := ih read
    rw [List.length_cons]
    omega
  | case3 => simp at read

theorem length_readRest {state : Text.LiteralState} {text letters rest : List Char}
    (read : Text.readRest? state text = some (letters, rest)) : rest.length < text.length := by
  -- The state changes from letter to letter, so the induction is for all states.
  induction text generalizing state letters with
  | nil => simp [Text.readRest?] at read
  | cons letter text ih =>
    rw [Text.readRest?] at read
    split at read
    · cases Option.some.inj read
      simp
    · obtain ⟨⟨meant, next⟩, -, read⟩ := Option.bind_eq_some_iff.mp read
      have mapped : (Text.readRest? next text).map (Prod.map (meant ++ ·) id) =
          some (letters, rest) := read
      obtain ⟨before, inner⟩ := exists_of_map_fst_eq_some mapped
      have shorter := ih inner
      rw [List.length_cons]
      omega

theorem length_digits {letters rest : List Char} {size : Nat}
    (read : digits? letters = some (size, rest)) : rest.length < letters.length := by
  obtain ⟨number, isNumber, same⟩ := Option.map_eq_some_iff.mp read
  have sameRest : letters.dropWhile Char.isDigit = rest := congrArg Prod.snd same
  have someDigits : letters.takeWhile Char.isDigit ≠ [] := by
    intro noDigits
    rw [noDigits, Text.numberOfDigits?] at isNumber
    simp at isNumber
  have positive := List.length_pos_iff.mpr someDigits
  have whole : letters.takeWhile Char.isDigit ++ rest = letters := by
    rw [← sameRest, List.takeWhile_append_dropWhile]
  have total := congrArg List.length whole
  rw [List.length_append] at total
  omega

theorem length_number {letters rest : List Char} {number : Int64}
    (read : number? letters = some (number, rest)) : rest.length < letters.length := by
  obtain ⟨whole, inRange⟩ := exists_of_map_fst_eq_some read
  have isInteger := (Option.filter_eq_some_iff.mp inRange).1
  fun_cases integer? letters with
  | case1 behind =>
    obtain ⟨size, isSize⟩ := exists_of_map_fst_eq_some isInteger
    have shorter := length_digits isSize
    rw [List.length_cons]
    omega
  | case2 letters noSign =>
    rw [integer?.eq_2 _ noSign] at isInteger
    obtain ⟨size, isSize⟩ := exists_of_map_fst_eq_some isInteger
    exact length_digits isSize

theorem length_plainPiece {letter : Char} {behind rest : List Char} {token? : Option Token}
    (read : plainPiece? letter behind = some (token?, rest)) : rest.length ≤ behind.length := by
  rw [plainPiece?] at read
  split at read
  · have sameRest : behind = rest := congrArg Prod.snd (Option.some.inj read)
    exact Nat.le_of_eq (congrArg List.length sameRest.symm)
  split at read
  · have sameRest : behind.dropWhile continuesWord = rest :=
      congrArg Prod.snd (Option.some.inj read)
    rw [← sameRest]
    exact (List.dropWhile_sublist _).length_le
  split at read
  · have sameRest : behind = rest := congrArg Prod.snd (Option.some.inj read)
    exact Nat.le_of_eq (congrArg List.length sameRest.symm)
  · obtain ⟨number, isNumber⟩ := exists_of_map_fst_eq_some read
    have shorter := length_number isNumber
    rw [List.length_cons] at shorter
    omega

theorem length_piece {text rest : List Char} {token? : Option Token}
    (read : piece? text = some (token?, rest)) : rest.length < text.length := by
  fun_cases piece? text with
  | case1 => simp [piece?] at read
  | case2 inside =>
    rw [piece?] at read
    obtain ⟨behind, ended, same⟩ := Option.map_eq_some_iff.mp read
    have sameRest : behind = rest := congrArg Prod.snd same
    have shorter := length_afterComment ended
    simp only [List.length_cons, ← sameRest]
    omega
  | case3 inside =>
    rw [piece?] at read
    obtain ⟨letters, ended⟩ := exists_of_map_fst_eq_some read
    have shorter := length_readRest ended
    rw [List.length_cons]
    omega
  | case4 letter behind noComment noLiteral =>
    rw [piece?.eq_4 _ _ noComment noLiteral] at read
    have shorter := length_plainPiece read
    rw [List.length_cons]
    omega

end Token

/-- The tokens of a text; none if a part of it is no token. -/
def tokens? (text : List Char) : Option (List Token) :=
  if text.isEmpty then some []
  else match _read : Token.piece? text with
    | none => none
    | some (token?, rest) => (tokens? rest).map (token?.toList ++ ·)
  termination_by text.length
  decreasing_by exact Token.length_piece _read

theorem tokens_nil : tokens? [] = some [] := by
  rw [tokens?]
  rfl

namespace Token

/-! ## Classes of characters -/

theorem bounds_of_startsWord {letter : Char} (starts : startsWord letter = true) :
    letter.toNat = 36 ∨ (65 ≤ letter.toNat ∧ letter.toNat ≤ 90) ∨ letter.toNat = 95 ∨
      (97 ≤ letter.toNat ∧ letter.toNat ≤ 122) := by
  simp only [startsWord, Bool.or_eq_true, Bool.and_eq_true, decide_eq_true_eq, Char.le_def,
    UInt32.le_iff_toNat_le] at starts
  rcases starts with ((upper | lower) | rfl) | rfl
  · exact Or.inr (Or.inl upper)
  · exact Or.inr (Or.inr (Or.inr lower))
  · decide
  · decide

theorem bounds_of_isDigit {letter : Char} (digit : letter.isDigit = true) :
    48 ≤ letter.toNat ∧ letter.toNat ≤ 57 := by
  simp only [Char.isDigit, Bool.and_eq_true, decide_eq_true_eq, UInt32.le_iff_toNat_le,
    ge_iff_le] at digit
  exact digit

theorem noBlank_of_continuesWord {letter : Char} (continues : continuesWord letter = true) :
    Text.isBlank letter = false := by
  have bounds : 36 ≤ letter.toNat ∧ letter.toNat ≤ 122 := by
    rw [continuesWord, Bool.or_eq_true] at continues
    rcases continues with starts | digit
    · have := bounds_of_startsWord starts
      omega
    · have := bounds_of_isDigit digit
      omega
  apply List.any_eq_false.mpr
  intro range member
  have apart : range.2 < 36 ∨ 122 < range.1 :=
    (by decide : ∀ range ∈ Text.blankRanges, range.2 < 36 ∨ 122 < range.1) range member
  simp only [Bool.and_eq_true, decide_eq_true_eq]
  omega

theorem noWord_of_isDigit {letter : Char} (digit : letter.isDigit = true) :
    startsWord letter = false := by
  cases starts : startsWord letter with
  | false => rfl
  | true =>
    have digitBounds := bounds_of_isDigit digit
    have wordBounds := bounds_of_startsWord starts
    omega

def opensNumber (letter : Char) : Bool := letter = '-' || letter.isDigit

theorem clear_of_sign {letter : Char} {sign : Token} (known : sign? letter = some sign) :
    Text.isBlank letter = false ∧ startsWord letter = false ∧ opensNumber letter = false := by
  obtain ⟨front, behind, table, -⟩ := List.lookup_eq_some_iff.mp known
  have clear : ∀ entry ∈ signs, Text.isBlank entry.1 = false ∧ startsWord entry.1 = false ∧
      opensNumber entry.1 = false := by decide
  exact clear (letter, sign) (by simp [table])

theorem clear_of_opensNumber {letter : Char} (opens : opensNumber letter = true) :
    Text.isBlank letter = false ∧ startsWord letter = false ∧ sign? letter = none := by
  have noSign : sign? letter = none := by
    cases known : sign? letter with
    | none => rfl
    | some sign =>
      obtain ⟨-, -, noNumber⟩ := clear_of_sign known
      simp [noNumber] at opens
  rw [opensNumber, Bool.or_eq_true, decide_eq_true_eq] at opens
  rcases opens with rfl | digit
  · decide
  · exact ⟨noBlank_of_continuesWord (by simp [continuesWord, digit]), noWord_of_isDigit digit,
      noSign⟩

/-! ## Numbers -/

theorem digits_of_toDigits (size : Nat) {rest : List Char}
    (stops : ∀ letter ∈ rest.head?, letter.isDigit = false) :
    digits? (Nat.toDigits 10 size ++ rest) = some (size, rest) := by
  have digits : ∀ letter ∈ Nat.toDigits 10 size, letter.isDigit = true := fun letter member =>
    Nat.isDigit_of_mem_toDigits (by decide) (by decide) member
  obtain ⟨taken, dropped⟩ := Text.run_stops digits stops
  rw [digits?, taken, dropped, Text.numberOfDigits_toDigits (by decide) (by decide),
    Option.map_some]

theorem toList_toString_negSucc (size : Nat) :
    (toString (Int.negSucc size)).toList = '-' :: Nat.toDigits 10 (size + 1) := by
  have parts : toString (Int.negSucc size) = "-" ++ Nat.repr (size + 1) := rfl
  rw [parts, String.toList_append, Nat.toList_repr]
  rfl

theorem toDigits_eq_cons (size : Nat) :
    ∃ first more, Nat.toDigits 10 size = first :: more ∧ first.isDigit = true := by
  obtain ⟨first, more, letters⟩ := List.exists_cons_of_ne_nil (@Nat.toDigits_ne_nil size 10)
  exact ⟨first, more, letters, Nat.isDigit_of_mem_toDigits (by decide) (by decide)
    (letters ▸ List.mem_cons_self)⟩

theorem toString_eq_cons (whole : Int) :
    ∃ first more, (toString whole).toList = first :: more ∧ opensNumber first = true := by
  cases whole with
  | ofNat size =>
    obtain ⟨first, more, letters, digit⟩ := toDigits_eq_cons size
    exact ⟨first, more, Nat.toList_repr.trans letters, by simp [opensNumber, digit]⟩
  | negSucc size => exact ⟨'-', _, toList_toString_negSucc size, rfl⟩

theorem integer_toString (whole : Int) {rest : List Char}
    (stops : ∀ letter ∈ rest.head?, letter.isDigit = false) :
    integer? ((toString whole).toList ++ rest) = some (whole, rest) := by
  cases whole with
  | ofNat size =>
    have written : (toString (Int.ofNat size)).toList = Nat.toDigits 10 size := Nat.toList_repr
    -- The first digit is no sign, so the second clause of the reader applies.
    have noSign : ∀ tail, Nat.toDigits 10 size ++ rest = '-' :: tail → False := by
      obtain ⟨first, more, letters, digit⟩ := toDigits_eq_cons size
      intro tail sign
      rw [letters] at sign
      obtain ⟨rfl, -⟩ := List.cons_eq_cons.mp sign
      exact absurd digit (by decide)
    rw [written, integer?.eq_2 _ noSign, digits_of_toDigits size stops]
    rfl
  | negSucc size =>
    rw [toList_toString_negSucc, List.cons_append, integer?, digits_of_toDigits (size + 1) stops]
    rfl

theorem number_toString (number : Int64) {rest : List Char}
    (stops : ∀ letter ∈ rest.head?, letter.isDigit = false) :
    number? ((toString number.toInt).toList ++ rest) = some (number, rest) := by
  have inRange : Int64.minValue.toInt ≤ number.toInt ∧ number.toInt ≤ Int64.maxValue.toInt :=
    ⟨number.minValue_le_toInt, number.toInt_le⟩
  rw [number?, integer_toString number.toInt stops, Option.filter_some,
    if_pos (decide_eq_true inRange), Option.map_some, Prod.map, Int64.ofInt_toInt]
  rfl

/-! ## Single pieces -/

theorem tokens_of_piece {text rest : List Char} {token? : Option Token}
    (read : piece? text = some (token?, rest)) :
    tokens? text = (tokens? rest).map (token?.toList ++ ·) := by
  have notEmpty : text.isEmpty = false := by
    cases text with
    | nil => simp [piece?] at read
    | cons letter behind => rfl
  rw [tokens?, notEmpty]
  simp only [Bool.false_eq_true, if_false]
  split
  · next noPiece => simp [noPiece] at read
  · next other final same =>
    cases Option.some.inj (same.symm.trans read)
    rfl

theorem piece_of_class {kind : Char → Bool} (noSlash : kind '/' = false)
    (noQuote : kind '\'' = false) {letter : Char} (inKind : kind letter = true)
    (rest : List Char) : piece? (letter :: rest) = plainPiece? letter rest := by
  apply piece?.eq_4
  · rintro inside rfl
    simp [noSlash] at inKind
  · rintro rfl
    simp [noQuote] at inKind

theorem tokens_blank {letter : Char} (blank : Text.isBlank letter = true) (rest : List Char) :
    tokens? (letter :: rest) = tokens? rest := by
  have read : piece? (letter :: rest) = some (none, rest) := by
    rw [piece_of_class (by decide) (by decide) blank, plainPiece?, if_pos blank]
  rw [tokens_of_piece read]
  simp

theorem tokens_sign {letter : Char} {sign : Token} (known : sign? letter = some sign)
    (rest : List Char) : tokens? (letter :: rest) = (tokens? rest).map (sign :: ·) := by
  obtain ⟨noBlank, noWord, -⟩ := clear_of_sign known
  have inSigns : isSign letter = true := by rw [isSign, known, Option.isSome_some]
  have read : piece? (letter :: rest) = some (some sign, rest) := by
    rw [piece_of_class (by decide) (by decide) inSigns, plainPiece?, if_neg (by simp [noBlank]),
      if_neg (by simp [noWord])]
    simp only [known]
  exact tokens_of_piece read

theorem tokens_word {name : String} (identifier : isIdentifier name = true) {rest : List Char}
    (stops : ∀ letter ∈ rest.head?, continuesWord letter = false) :
    tokens? (name.toList ++ rest) = (tokens? rest).map (.word name :: ·) := by
  rw [isIdentifier] at identifier
  split at identifier
  · simp at identifier
  next first letters isName =>
  rw [Bool.and_eq_true, List.all_eq_true] at identifier
  obtain ⟨starts, continues⟩ := identifier
  have noBlank : Text.isBlank first = false :=
    noBlank_of_continuesWord (by simp [continuesWord, starts])
  obtain ⟨taken, dropped⟩ := Text.run_stops continues stops
  have isWord : String.ofList (first :: letters) = name := by
    rw [← isName, String.ofList_toList]
  have read : piece? (name.toList ++ rest) = some (some (.word name), rest) := by
    rw [isName, List.cons_append, piece_of_class (by decide) (by decide) starts, plainPiece?,
      if_neg (by simp [noBlank]), if_pos starts, taken, dropped, isWord]
  exact tokens_of_piece read

theorem tokens_number (number : Int64) {rest : List Char}
    (stops : ∀ letter ∈ rest.head?, letter.isDigit = false) :
    tokens? ((toString number.toInt).toList ++ rest) =
      (tokens? rest).map (.value (.number number) :: ·) := by
  have isNumber := number_toString number stops
  obtain ⟨first, more, letters, opens⟩ := toString_eq_cons number.toInt
  obtain ⟨noBlank, noWord, noSign⟩ := clear_of_opensNumber opens
  rw [letters, List.cons_append] at isNumber ⊢
  have read : piece? (first :: (more ++ rest)) = some (some (.value (.number number)), rest) := by
    rw [piece_of_class (by decide) (by decide) opens, plainPiece?, if_neg (by simp [noBlank]),
      if_neg (by simp [noWord])]
    simp only [noSign]
    rw [isNumber]
    rfl
  exact tokens_of_piece read

theorem tokens_quoted (text : String) (rest : List Char) :
    tokens? ((Text.quotedString text).toList ++ rest) =
      (tokens? rest).map (.value (.text text) :: ·) := by
  have read : piece? ((Text.quotedString text).toList ++ rest) =
      some (some (.value (.text text)), rest) := by
    rw [Text.toList_quotedString_append, piece?, Text.readRest_quoted]
    simp
  exact tokens_of_piece read

theorem tokens_comment {inside rest : List Char} (ended : afterComment inside = some rest) :
    tokens? ('/' :: '*' :: inside) = tokens? rest := by
  have read : piece? ('/' :: '*' :: inside) = some (none, rest) := by
    rw [piece?, ended, Option.map_some]
  rw [tokens_of_piece read]
  simp

def separators : List Char := [' ', ',', '\n']

theorem stops_of_opens {text : String} (opens : Opens separators text) (rest : List Char) :
    ∀ letter ∈ (text.toList ++ rest).head?, continuesWord letter = false := by
  obtain ⟨first, behind, letters, isSeparator⟩ := opens
  have ends : separators.all (fun separator => !continuesWord separator) = true := by decide
  intro letter isFirst
  rw [letters] at isFirst
  obtain rfl := Option.some.inj isFirst
  simpa using List.all_eq_true.mp ends first isSeparator

end Token

/-! ## Texts that stand for tokens -/

/-- A text stands for tokens wherever it is read, whatever follows it. -/
def Lexes (text : String) (tokens : List Token) : Prop :=
  ∀ rest, tokens? (text.toList ++ rest) = (tokens? rest).map (tokens ++ ·)

namespace Lexes

variable {first second : String} {front behind : List Token}

theorem nil : Lexes "" [] := by
  intro rest
  simp

theorem append (leading : Lexes first front) (trailing : Lexes second behind) :
    Lexes (first ++ second) (front ++ behind) := by
  intro rest
  rw [String.toList_append, List.append_assoc, leading, trailing, Option.map_map]
  congr 1
  funext tokens
  simp [List.append_assoc]

theorem tokens_eq {text : String} {tokens : List Token} (lexes : Lexes text tokens) :
    tokens? text.toList = some tokens := by
  have alone := lexes []
  rw [List.append_nil, tokens_nil, Option.map_some, List.append_nil] at alone
  exact alone

theorem signs {text : String}
    (known : text.toList.all fun letter => Text.isBlank letter || Token.isSign letter) :
    Lexes text (text.toList.filterMap Token.sign?) := by
  unfold Lexes
  generalize text.toList = letters at known
  intro rest
  induction letters with
  | nil => simp
  | cons letter letters ih =>
    rw [List.all_cons, Bool.and_eq_true, Bool.or_eq_true] at known
    obtain ⟨isKnown, areKnown⟩ := known
    have others := ih areKnown
    rw [List.cons_append]
    cases sign : Token.sign? letter with
    | none =>
      have blank : Text.isBlank letter = true := by
        simpa [Token.isSign, sign] using isKnown
      rw [Token.tokens_blank blank, others, List.filterMap_cons_none sign]
    | some token =>
      rw [Token.tokens_sign sign, others, List.filterMap_cons_some sign, Option.map_map]
      rfl

theorem margin {margin : String} (isMargin : IsMargin margin) : Lexes margin [] := by
  have blank : ∀ letter ∈ margin.toList,
      Text.isBlank letter = true ∧ Token.sign? letter = none := by
    intro letter member
    rcases isMargin letter member with rfl | rfl
    · decide
    · decide
  have noSigns : margin.toList.filterMap Token.sign? = [] :=
    List.filterMap_eq_nil_iff.mpr fun letter member => (blank letter member).2
  have lexes := signs (List.all_eq_true.mpr fun letter member => by
    rw [(blank letter member).1, Bool.true_or])
  rwa [noSigns] at lexes

/-- Names and numbers go on, so they are known only in front of a text that ends them. -/
theorem word {name : String} (identifier : isIdentifier name = true)
    (opens : Opens Token.separators second) (trailing : Lexes second behind) :
    Lexes (name ++ second) (.word name :: behind) := by
  intro rest
  have stops := Token.stops_of_opens opens rest
  rw [String.toList_append, List.append_assoc, Token.tokens_word identifier stops, trailing,
    Option.map_map]
  rfl

theorem value (written : EnumValue) (opens : Opens Token.separators second)
    (trailing : Lexes second behind) :
    Lexes (written.render ++ second) (.value written :: behind) := by
  intro rest
  have stops := Token.stops_of_opens opens rest
  rw [String.toList_append, List.append_assoc]
  cases written with
  | number number =>
    have noDigit : ∀ letter ∈ (second.toList ++ rest).head?, letter.isDigit = false := by
      intro letter isFirst
      have noWord := stops letter isFirst
      rw [Token.continuesWord, Bool.or_eq_false_iff] at noWord
      exact noWord.2
    rw [EnumValue.render, Token.tokens_number number noDigit, trailing, Option.map_map]
    rfl
  | text text =>
    rw [EnumValue.render, Token.tokens_quoted, trailing, Option.map_map]
    rfl

theorem docText {margin : String} (isMargin : IsMargin margin) (width : UInt64)
    (contents : List String) : Lexes (Typescribe.docText margin width contents) [] := by
  rcases isDocComment_docText isMargin width contents with noText | ⟨interior, parts, ended⟩
  · rw [noText]
    exact nil
  intro rest
  let inside := ("\n" ++ interior ++ margin ++ "*/\n").toList ++ rest
  have letters : (Typescribe.docText margin width contents).toList ++ rest =
      margin.toList ++ '/' :: '*' :: '*' :: inside := by
    simp [parts, inside]
  have noSlash : ∀ tail, inside = '/' :: tail → False := by
    simp [inside]
  -- The second star of the opening does not end the comment.
  have opened : afterComment ('*' :: inside) = some ('\n' :: rest) := by
    rw [afterComment.eq_2 _ _ fun tail _ slash => noSlash tail slash]
    exact ended rest
  rw [letters, Lexes.margin isMargin, Token.tokens_comment opened, Token.tokens_blank (by decide)]

end Lexes

end Typescribe
