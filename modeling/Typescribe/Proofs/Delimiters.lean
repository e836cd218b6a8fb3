import Typescribe.Proofs.Avoiding
import Typescribe.Proofs.Members
/-!
# Texts that come apart in one way

A text is cut at the first of some characters: if the front of it avoids them and the rest is
empty or begins with one of them, no other front and rest make the same text. From this follows
that a member is determined by its text, and a list of parameters by what stands between the
parentheses, as long as names and types hold none of the characters that come between them.
-/
set_option autoImplicit false

namespace Typescribe

def Opens (stops : List Char) (text : String) : Prop :=
  ∃ letter rest, text.toList = letter :: rest ∧ letter ∈ stops

/-- The text is empty or begins with one of the stops. -/
def Halts (stops : List Char) (text : String) : Prop := text = "" ∨ Opens stops text

/-! ## Cutting -/

theorem Avoids.keywordsText {stops : List Char} {keywords : List String} (noBlank : ' ' ∉ stops)
    (words : ∀ keyword ∈ keywords, Avoids stops keyword) :
    Avoids stops (keywordsText keywords) := by
  induction keywords with
  | nil => intro letter member; simp [Typescribe.keywordsText] at member
  | cons keyword keywords ih =>
    have blank : Avoids stops " " := by
      intro letter member
      have isBlank : letter = ' ' := by simpa using member
      rwa [isBlank]
    exact ((words keyword (by simp)).append blank).append
      (ih fun other member => words other (by simp [member]))

namespace Opens

variable {stops : List Char} {text : String}

theorem append (opens : Opens stops text) (rest : String) : Opens stops (text ++ rest) := by
  obtain ⟨letter, tail, letters, isStop⟩ := opens
  exact ⟨letter, tail ++ rest.toList, by rw [String.toList_append, letters]; rfl, isStop⟩

theorem mono {others : List Char} (more : stops ⊆ others) (opens : Opens stops text) :
    Opens others text := by
  obtain ⟨letter, tail, letters, isStop⟩ := opens
  exact ⟨letter, tail, letters, more isStop⟩

end Opens

theorem toList_eq_takeWhile {stops : List Char} {front rest : String}
    (avoids : Avoids stops front) (halts : Halts stops rest) :
    (front ++ rest).toList.takeWhile (fun letter => letter ∉ stops) = front.toList := by
  have isFront : ∀ letter ∈ front.toList, decide (letter ∉ stops) = true := by
    intro letter member
    exact decide_eq_true (avoids letter member)
  have atStop : ∀ letter ∈ rest.toList.head?, decide (letter ∉ stops) = false := by
    intro letter isFirst
    rcases halts with rfl | ⟨stop, behind, letters, isStop⟩
    · simp at isFirst
    · obtain rfl : stop = letter := by simpa [letters] using isFirst
      simpa using isStop
  rw [String.toList_append]
  exact (Text.run_stops isFront atStop).1

theorem cut_unique {stops : List Char} {front front' rest rest' : String}
    (avoids : Avoids stops front) (avoids' : Avoids stops front')
    (halts : Halts stops rest) (halts' : Halts stops rest')
    (same : front ++ rest = front' ++ rest') : front = front' ∧ rest = rest' := by
  have fronts : front = front' := by
    apply String.toList_inj.mp
    rw [← toList_eq_takeWhile avoids halts, same, toList_eq_takeWhile avoids' halts']
  refine ⟨fronts, ?_⟩
  rw [fronts] at same
  exact (String.append_right_inj _).mp same

/-! ## Keywords in front of a name -/

theorem keywords_unique {stops : List Char} (noBlank : ' ' ∉ stops)
    {keywords keywords' : List String} {name name' rest rest' : String}
    (words : ∀ keyword ∈ keywords, Avoids (' ' :: stops) keyword)
    (words' : ∀ keyword ∈ keywords', Avoids (' ' :: stops) keyword)
    (avoids : Avoids (' ' :: stops) name) (avoids' : Avoids (' ' :: stops) name')
    (opens : Opens stops rest) (opens' : Opens stops rest')
    (same : keywordsText keywords ++ (name ++ rest) = keywordsText keywords' ++ (name' ++ rest')) :
    keywords = keywords' ∧ name = name' ∧ rest = rest' := by
  have halts : Halts (' ' :: stops) rest := .inr (opens.mono (List.subset_cons_self _ _))
  have halts' : Halts (' ' :: stops) rest' := .inr (opens'.mono (List.subset_cons_self _ _))
  have blank (text : String) : Halts (' ' :: stops) (" " ++ text) :=
    .inr ⟨' ', text.toList, by simp, List.mem_cons_self⟩
  -- The name is the first word that no blank follows.
  have noWord {text tail : String} (opensText : Opens stops text) : text ≠ " " ++ tail := by
    rintro rfl
    obtain ⟨letter, behind, letters, isStop⟩ := opensText
    have isBlank : ' ' = letter := by
      rw [String.toList_append] at letters
      exact (List.cons_eq_cons.mp letters).1
    exact noBlank (isBlank ▸ isStop)
  induction keywords generalizing keywords' with
  | nil =>
    cases keywords' with
    | nil =>
      rw [keywordsText, String.empty_append, String.empty_append] at same
      exact ⟨rfl, cut_unique avoids avoids' halts halts' same⟩
    | cons keyword' keywords' =>
      rw [keywordsText, keywordsText, String.empty_append, String.append_assoc,
        String.append_assoc] at same
      have cut := cut_unique avoids (words' keyword' (by simp)) halts (blank _) same
      exact absurd cut.2 (noWord opens)
  | cons keyword keywords ih =>
    cases keywords' with
    | nil =>
      rw [keywordsText, keywordsText, String.empty_append, String.append_assoc,
        String.append_assoc] at same
      have cut := cut_unique avoids' (words keyword (by simp)) halts' (blank _) same.symm
      exact absurd cut.2 (noWord opens')
    | cons keyword' keywords' =>
      simp only [keywordsText, String.append_assoc] at same
      obtain ⟨sameWord, others⟩ := cut_unique (words keyword (by simp))
        (words' keyword' (by simp)) (blank _) (blank _) same
      obtain ⟨sameWords, behind⟩ := ih (fun other member => words other (by simp [member]))
        (fun other member => words' other (by simp [member]))
        ((String.append_right_inj _).mp others)
      exact ⟨by rw [sameWord, sameWords], behind⟩

/-! ## Members -/

namespace Member

/-- `stop` stands behind the marked name, and the mark is one of `marks` or absent. -/
structure IsPlain (stop : Char) (marks : List Char) (member : Member) : Prop where
  keywords : ∀ keyword ∈ member.keywords, Avoids (' ' :: stop :: marks) keyword
  name : Avoids (' ' :: stop :: marks) member.name
  markHalts : Halts marks member.mark
  markAvoids : Avoids [stop] member.mark
  typeName : Avoids [' ', '[', ';'] member.typeName

/-- What can follow a type: neither brackets nor a union. -/
structure EndsType (rest : String) : Prop where
  halts : Halts [' ', ';'] rest
  noUnion : rest.toList[1]? ≠ some '|'

variable {member member' : Member} {rest rest' : String}

theorem front_unique {stop : Char} {marks : List Char} (noBlank : ' ' ∉ stop :: marks)
    (plain : member.IsPlain stop marks) (plain' : member'.IsPlain stop marks)
    (opens : Opens [stop] rest) (opens' : Opens [stop] rest')
    (same : member.front ++ rest = member'.front ++ rest') :
    member.keywords = member'.keywords ∧ member.name = member'.name ∧
      member.mark = member'.mark ∧ rest = rest' := by
  have markOpens {other : Member} {text : String} (isPlain : other.IsPlain stop marks)
      (opensText : Opens [stop] text) : Opens (stop :: marks) (other.mark ++ text) := by
    rcases isPlain.markHalts with noMark | isMark
    · rw [noMark, String.empty_append]
      exact opensText.mono (by simp)
    · exact (isMark.mono (List.subset_cons_self _ _)).append _
  simp only [front, String.append_assoc] at same
  obtain ⟨keywords, name, marked⟩ := keywords_unique noBlank plain.keywords plain'.keywords
    plain.name plain'.name (markOpens plain opens) (markOpens plain' opens') same
  obtain ⟨mark, behind⟩ := cut_unique plain.markAvoids plain'.markAvoids (.inr opens)
    (.inr opens') marked
  exact ⟨keywords, name, mark, behind⟩

theorem union_unique {withNull withNull' : Bool} (ends : EndsType rest) (ends' : EndsType rest')
    (same : (if withNull then " | null" else "") ++ rest =
      (if withNull' then " | null" else "") ++ rest') :
    withNull = withNull' ∧ rest = rest' := by
  have noUnion {first second : String} (endsType : EndsType second) :
      " | null" ++ first ≠ "" ++ second := by
    rw [String.empty_append]
    rintro rfl
    exact endsType.noUnion (by simp)
  cases withNull with
  | true =>
    cases withNull' with
    | true => exact ⟨rfl, (String.append_right_inj _).mp same⟩
    | false => exact absurd same (noUnion ends')
  | false =>
    cases withNull' with
    | true => exact absurd same.symm (noUnion ends)
    | false => exact ⟨rfl, (String.append_right_inj _).mp same⟩

theorem back_unique (plain : Avoids [' ', '[', ';'] member.typeName)
    (plain' : Avoids [' ', '[', ';'] member'.typeName) (ends : EndsType rest)
    (ends' : EndsType rest') (same : member.back ++ rest = member'.back ++ rest') :
    member.typeName = member'.typeName ∧ member.isMultivalued = member'.isMultivalued ∧
      member.withNull = member'.withNull ∧ rest = rest' := by
  have behindBrackets {text : String} (withNull : Bool) (endsType : EndsType text) :
      Halts [' ', ';'] ((if withNull then " | null" else "") ++ text) := by
    cases withNull with
    | true => exact .inr ⟨' ', "| null".toList ++ text.toList, by simp, by simp⟩
    | false => simpa using endsType.halts
  have behindType {text : String} (isMultivalued withNull : Bool) (endsType : EndsType text) :
      Halts [' ', '[', ';'] ((if isMultivalued then "[]" else "")
        ++ ((if withNull then " | null" else "") ++ text)) := by
    cases isMultivalued with
    | true =>
      exact .inr ⟨'[', ']' :: ((if withNull then " | null" else "") ++ text).toList, by simp,
        by simp⟩
    | false =>
      rcases behindBrackets withNull endsType with isEmpty | opensText
      · exact .inl (by simpa using isEmpty)
      · exact .inr (by simpa using opensText.mono (by simp))
  have brackets (isMultivalued : Bool) :
      Avoids [' ', ';'] (if isMultivalued then "[]" else "") := .ite (by decide) (by decide)
  simp only [back, typeText, String.append_assoc, String.append_right_inj] at same
  obtain ⟨typeName, suffix⟩ := cut_unique plain plain' (behindType _ _ ends)
    (behindType _ _ ends') same
  obtain ⟨sameBrackets, union⟩ := cut_unique (brackets _) (brackets _) (behindBrackets _ ends)
    (behindBrackets _ ends') suffix
  obtain ⟨withNull, behind⟩ := union_unique ends ends' union
  refine ⟨typeName, ?_, withNull, behind⟩
  cases first : member.isMultivalued <;> cases second : member'.isMultivalued <;>
    simp [first, second] at sameBrackets ⊢

theorem text_unique {marks : List Char} (noBlank : ' ' ∉ ':' :: marks)
    (plain : member.IsPlain ':' marks) (plain' : member'.IsPlain ':' marks)
    (ends : EndsType rest) (ends' : EndsType rest')
    (same : member.text ++ rest = member'.text ++ rest') : member = member' ∧ rest = rest' := by
  have opensBack (other : Member) (text : String) : Opens [':'] (other.back ++ text) :=
    ⟨':', (" " ++ typeText other.typeName other.isMultivalued other.withNull ++ text).toList,
      by simp [back, String.append_assoc], by simp⟩
  rw [text, text, String.append_assoc, String.append_assoc] at same
  obtain ⟨keywords, name, mark, backs⟩ := front_unique noBlank plain plain' (opensBack _ _)
    (opensBack _ _) same
  obtain ⟨typeName, isMultivalued, withNull, behind⟩ := back_unique plain.typeName
    plain'.typeName ends ends' backs
  cases member
  cases member'
  simp only at keywords name mark typeName isMultivalued withNull
  subst keywords name mark typeName isMultivalued withNull
  exact ⟨rfl, behind⟩

end Member

/-! ## What keywords say -/

theorem accessKeywords_unique {access access' : Option AccessModifier}
    {others others' : List String}
    (foreign : ∀ modifier : AccessModifier, modifier.keyword ∉ others)
    (foreign' : ∀ modifier : AccessModifier, modifier.keyword ∉ others')
    (same : accessKeywords access ++ others = accessKeywords access' ++ others') :
    access = access' ∧ others = others' := by
  cases access with
  | none =>
    cases access' with
    | none => exact ⟨rfl, same⟩
    | some modifier' =>
      have isOther : others = modifier'.keyword :: others' := same
      exact absurd (by simp [isOther]) (foreign modifier')
  | some modifier =>
    cases access' with
    | none =>
      have isOther : modifier.keyword :: others = others' := same
      exact absurd (by simp [← isOther]) (foreign' modifier)
    | some modifier' =>
      obtain ⟨keyword, behind⟩ := List.cons_eq_cons.mp same
      have sameModifier : modifier = modifier' := by
        cases modifier <;> cases modifier' <;> first | rfl | exact absurd keyword (by decide)
      exact ⟨by rw [sameModifier], behind⟩

theorem keywordIf_unique {keyword other : String} (differ : keyword ≠ other)
    {first second first' second' : Bool}
    (same : keywordIf first keyword ++ keywordIf second other =
      keywordIf first' keyword ++ keywordIf second' other) :
    first = first' ∧ second = second' := by
  have kept (word : String) : word ∈ keywordIf first keyword ++ keywordIf second other ↔
      word ∈ keywordIf first' keyword ++ keywordIf second' other := by rw [same]
  have firstKept := kept keyword
  have secondKept := kept other
  simp only [List.mem_append, mem_keywordIf, and_true, differ, differ.symm, and_false, or_false,
    false_or] at firstKept secondKept
  exact ⟨Bool.eq_iff_iff.mpr firstKept, Bool.eq_iff_iff.mpr secondKept⟩

theorem avoids_of_mem_accessKeywords {access : Option AccessModifier} {keyword : String}
    (member : keyword ∈ accessKeywords access) :
    Avoids [' ', ':', '(', ')', ',', '?', '!'] keyword := by
  obtain ⟨modifier, -, rfl⟩ := mem_accessKeywords.mp member
  cases modifier <;> decide

/-! ## Lists of parameters -/

def IsItem (text : String) : Prop := text ≠ "" ∧ Avoids [','] text

theorem intercalate_unique {texts texts' : List String} (items : ∀ text ∈ texts, IsItem text)
    (items' : ∀ text ∈ texts', IsItem text)
    (same : ", ".intercalate texts = ", ".intercalate texts') : texts = texts' := by
  have comma (text : String) : Halts [','] (", " ++ text) :=
    .inr ⟨',', ' ' :: text.toList, by simp, by simp⟩
  have notEmpty {piece : String} {pieces : List String} (isItem : IsItem piece) :
      ", ".intercalate (piece :: pieces) ≠ "" := by
    intro isEmpty
    cases pieces with
    | nil => exact isItem.1 (by simpa using isEmpty)
    | cons next pieces =>
      rw [String.intercalate_cons_cons, String.append_assoc, String.append_eq_empty_iff] at isEmpty
      exact isItem.1 isEmpty.1
  -- The last item is not continued by a comma.
  have notLast {piece piece' : String} {text : String} (isItem : IsItem piece)
      (isItem' : IsItem piece') : piece ≠ piece' ++ ", " ++ text := by
    intro longer
    rw [← String.append_empty (s := piece), String.append_assoc] at longer
    have cut := cut_unique isItem.2 isItem'.2 (.inl rfl) (comma text) longer
    simpa using congrArg String.toList cut.2
  induction texts generalizing texts' with
  | nil =>
    cases texts' with
    | nil => rfl
    | cons piece' pieces' => exact absurd same.symm (notEmpty (items' piece' (by simp)))
  | cons piece pieces ih =>
    cases texts' with
    | nil => exact absurd same (notEmpty (items piece (by simp)))
    | cons piece' pieces' =>
      have isItem := items piece (by simp)
      have isItem' := items' piece' (by simp)
      cases pieces with
      | nil =>
        cases pieces' with
        | nil => rw [show piece = piece' by simpa using same]
        | cons next' others' =>
          rw [String.intercalate_singleton, String.intercalate_cons_cons] at same
          exact absurd same (notLast isItem isItem')
      | cons next others =>
        cases pieces' with
        | nil =>
          rw [String.intercalate_singleton, String.intercalate_cons_cons] at same
          exact absurd same.symm (notLast isItem' isItem)
        | cons next' others' =>
          simp only [String.intercalate_cons_cons, String.append_assoc] at same
          obtain ⟨samePiece, behind⟩ := cut_unique isItem.2 isItem'.2 (comma _) (comma _) same
          have sameOthers := ih (fun other member => items other (List.mem_cons_of_mem _ member))
            (fun other member => items' other (List.mem_cons_of_mem _ member))
            ((String.append_right_inj _).mp behind)
          rw [samePiece, sameOthers]

theorem rows_unique {margin inner : String} (isMargin : IsMargin margin)
    (isInner : IsMargin inner) {texts texts' : List String}
    (items : ∀ text ∈ texts, Avoids [','] text) (items' : ∀ text ∈ texts', Avoids [','] text)
    (same : linesText inner (texts.map fun text => text ++ ",") ++ margin =
      linesText inner (texts'.map fun text => text ++ ",") ++ margin) : texts = texts' := by
  have noComma {blanks : String} (areBlanks : IsMargin blanks) : Avoids [','] blanks :=
    .margin areBlanks (by decide) (by decide)
  have comma (text : String) : Halts [','] ("," ++ text) :=
    .inr ⟨',', text.toList, by simp, by simp⟩
  have row (text : String) (pieces : List String) :
      linesText inner ((text :: pieces).map fun text => text ++ ",") ++ margin =
        (inner ++ text) ++ ("," ++ ("\n"
          ++ (linesText inner (pieces.map fun text => text ++ ",") ++ margin))) := by
    simp only [List.map_cons, linesText, lineText, String.append_assoc]
  have noRow {text : String} {pieces : List String} (isItem : Avoids [','] text) :
      linesText inner ([].map fun text => text ++ ",") ++ margin ≠
        linesText inner ((text :: pieces).map fun text => text ++ ",") ++ margin := by
    intro longer
    rw [row, List.map_nil, linesText, String.empty_append,
      ← String.append_empty (s := margin)] at longer
    have cut := cut_unique (noComma isMargin) ((noComma isInner).append isItem) (.inl rfl)
      (comma _) longer
    simpa using congrArg String.toList cut.2
  induction texts generalizing texts' with
  | nil =>
    cases texts' with
    | nil => rfl
    | cons text' others' => exact absurd same (noRow (items' text' (by simp)))
  | cons text others ih =>
    cases texts' with
    | nil => exact absurd same.symm (noRow (items text (by simp)))
    | cons text' others' =>
      rw [row, row] at same
      obtain ⟨sameText, behind⟩ := cut_unique ((noComma isInner).append (items text (by simp)))
        ((noComma isInner).append (items' text' (by simp))) (comma _) (comma _) same
      simp only [String.append_right_inj] at behind
      have sameOthers := ih (fun other member => items other (List.mem_cons_of_mem _ member))
        (fun other member => items' other (List.mem_cons_of_mem _ member)) behind
      rw [(String.append_right_inj _).mp sameText, sameOthers]

/-- In either layout, what stands between the parentheses determines the parameters. -/
theorem parametersText_unique {multiLine : Bool} {margin inner : String}
    (isMargin : IsMargin margin) (isInner : IsMargin inner) {texts texts' : List String}
    (items : ∀ text ∈ texts, IsItem text) (items' : ∀ text ∈ texts', IsItem text)
    (same : parametersText multiLine margin inner texts =
      parametersText multiLine margin inner texts') : texts = texts' := by
  cases multiLine with
  | false =>
    simp only [parametersText, Bool.false_and, Bool.false_eq_true, if_false] at same
    exact intercalate_unique items items' same
  | true =>
    cases texts with
    | nil =>
      cases texts' with
      | nil => rfl
      | cons text' others' =>
        simpa [parametersText] using congrArg String.toList same
    | cons text others =>
      cases texts' with
      | nil => simpa [parametersText] using congrArg String.toList same
      | cons text' others' =>
        simp only [parametersText, Bool.true_and, List.isEmpty_cons, Bool.not_false, if_true,
          String.append_assoc, String.append_right_inj] at same
        exact rows_unique isMargin isInner (fun other member => (items other member).2)
          (fun other member => (items' other member).2) same

end Typescribe
