import Typescribe.Proofs.Brackets
/-!
# Texts without certain characters

A text avoids some characters if none of them is in it. What a writer makes of such texts avoids
the characters too: joined texts and lines, and the lines of doc comments. Brackets and line feeds
are the characters that stand in the output in more places than the texts that are given.
-/
set_option autoImplicit false

namespace Typescribe

def Avoids (stops : List Char) (text : String) : Prop := ∀ letter ∈ text.toList, letter ∉ stops

instance (stops : List Char) (text : String) : Decidable (Avoids stops text) :=
  List.decidableBAll (fun letter => letter ∉ stops) text.toList

/-- The characters that give the output its structure. -/
def marks : List Char := '\n' :: brackets

namespace Avoids

variable {stops : List Char} {first second : String}

theorem append (leading : Avoids stops first) (trailing : Avoids stops second) :
    Avoids stops (first ++ second) := by
  intro letter member
  rw [String.toList_append, List.mem_append] at member
  exact member.elim (leading letter) (trailing letter)

theorem mono {others : List Char} (fewer : others ⊆ stops) (avoids : Avoids stops first) :
    Avoids others first := by
  intro letter member isOther
  exact avoids letter member (fewer isOther)

theorem of_subset (within : first.toList ⊆ second.toList) (avoids : Avoids stops second) :
    Avoids stops first :=
  fun letter member => avoids letter (within member)

theorem ite {condition : Prop} [Decidable condition] (whenTrue : Avoids stops first)
    (whenFalse : Avoids stops second) : Avoids stops (if condition then first else second) := by
  split
  · exact whenTrue
  · exact whenFalse

theorem margin {margin : String} (isMargin : IsMargin margin) (noBlank : ' ' ∉ stops)
    (noTab : '\t' ∉ stops) : Avoids stops margin := by
  intro letter member
  rcases isMargin letter member with rfl | rfl
  · exact noBlank
  · exact noTab

theorem intercalate {separator : String} (between : Avoids stops separator) {pieces : List String}
    (avoids : ∀ piece ∈ pieces, Avoids stops piece) :
    Avoids stops (separator.intercalate pieces) := by
  induction pieces with
  | nil => intro letter member; simp at member
  | cons piece pieces ih =>
    cases pieces with
    | nil =>
      rw [String.intercalate_singleton]
      exact avoids piece (by simp)
    | cons next pieces =>
      rw [String.intercalate_cons_cons]
      exact ((avoids piece (by simp)).append between).append
        (ih fun other member => avoids other (List.mem_cons_of_mem _ member))

theorem linesText {margin : String} (avoidsMargin : Avoids stops margin)
    (noLineFeed : '\n' ∉ stops) {contents : List String}
    (avoids : ∀ content ∈ contents, Avoids stops content) :
    Avoids stops (linesText margin contents) := by
  induction contents with
  | nil => intro letter member; simp [Typescribe.linesText] at member
  | cons content contents ih =>
    have lineFeed : Avoids stops "\n" := by
      intro letter member
      have isLineFeed : letter = '\n' := by simpa using member
      rwa [isLineFeed]
    exact ((avoidsMargin.append (avoids content (by simp))).append lineFeed).append
      (ih fun other member => avoids other (by simp [member]))

end Avoids

/-! ## Doc comments -/

theorem Text.mem_of_mem_spaced {row : List (List Char)} {letter : Char}
    (member : letter ∈ Text.spaced row) : (∃ word ∈ row, letter ∈ word) ∨ letter = ' ' := by
  induction row with
  | nil => simp at member
  | cons word rest ih =>
    cases rest with
    | nil =>
      have inWord : letter ∈ word := by simpa using member
      exact .inl ⟨word, by simp, inWord⟩
    | cons next rest =>
      rw [Text.spaced_cons_cons, List.mem_append, List.mem_cons] at member
      rcases member with inWord | isBlank | inRest
      · exact .inl ⟨word, by simp, inWord⟩
      · exact .inr isBlank
      · obtain ⟨other, isOther, inOther⟩ | isBlank := ih inRest
        · exact .inl ⟨other, List.mem_cons_of_mem _ isOther, inOther⟩
        · exact .inr isBlank

namespace Docs

theorem mem_of_mem_guarded {text : List Char} {letter : Char} (member : letter ∈ guarded text) :
    letter ∈ text ∨ letter = '\\' := by
  fun_induction guarded text with
  | case1 rest ih =>
    simp only [List.mem_cons] at member ⊢
    rcases member with isStar | isBackslash | isSlash | inRest
    · exact .inl (.inl isStar)
    · exact .inr isBackslash
    · exact .inl (.inr (.inl isSlash))
    · exact (ih inRest).imp_left fun inText => .inr (.inr inText)
  | case2 first rest notHere ih =>
    rcases List.mem_cons.mp member with rfl | inRest
    · exact .inl (List.mem_cons_self)
    · exact (ih inRest).imp_left (List.mem_cons_of_mem _)
  | case3 => cases member

theorem mem_of_mem_laidOut {width : Nat} {text part : List Char}
    (isPart : part ∈ laidOut width text) {letter : Char} (member : letter ∈ part) : letter ∈ text ∨ letter = ' ' := by
  rw [laidOut] at isPart
  split at isPart
  · rcases Text.line_of_wrapped isPart with rfl | ⟨row, inText, rfl⟩
    · exact .inl member
    · obtain ⟨word, isWord, inWord⟩ | isBlank := Text.mem_of_mem_spaced member
      · exact .inl ((Text.infix_of_mem_words (inText word isWord)).mem inWord)
      · exact .inr isBlank
  · rw [List.mem_singleton.mp isPart] at member
    exact .inl member

theorem avoids_of_shown {stops : List Char} (ownMarks : Avoids stops "*/ \\") {width : Nat}
    {line content : String} (avoids : Avoids stops line) (member : content ∈ shown width line) :
    Avoids stops content := by
  rw [shown] at member
  split at member
  · rw [List.mem_singleton.mp member]
    exact ownMarks.of_subset (by decide)
  · obtain ⟨part, isPart, rfl⟩ := List.mem_map.mp member
    refine (ownMarks.of_subset (by decide)).append fun letter inside => ?_
    rw [String.toList_ofList] at inside
    rcases mem_of_mem_laidOut isPart inside with inText | rfl
    · rcases mem_of_mem_guarded inText with inLine | rfl
      · exact avoids letter inLine
      · exact ownMarks _ (by decide)
    · exact ownMarks _ (by decide)

theorem avoids_of_block {stops : List Char} (ownMarks : Avoids stops "*/ \\") {width : Nat}
    {lines : List String} (avoids : ∀ line ∈ lines, Avoids stops line) :
    ∀ content ∈ block width lines, Avoids stops content := by
  intro content member
  rw [block] at member
  split at member
  · cases member
  · simp only [List.mem_cons, List.mem_append, List.mem_flatMap, List.not_mem_nil,
      or_false] at member
    rcases member with rfl | ⟨line, isLine, isShown⟩ | rfl
    · exact ownMarks.of_subset (by decide)
    · exact avoids_of_shown ownMarks (avoids line isLine) isShown
    · exact ownMarks.of_subset (by decide)

end Docs

end Typescribe
