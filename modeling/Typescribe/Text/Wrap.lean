import Typescribe.Text.Blank
/-!
# Greedy line filling

`wrapped` fills lines with the words of a text from left to right: a word goes on the current
line when the line, one space and the word fit into the width, and starts a new line
otherwise. Words are never cut, so a word longer than the width has a line of its own.
-/
set_option autoImplicit false

namespace Typescribe.Text

/-- `used` characters of the current line are taken, and the first row goes on that line. -/
def rows (width used : Nat) : List (List Char) → List (List (List Char))
  | [] => [[]]
  | word :: rest =>
    if used + 1 + word.length ≤ width then
      (rows width (used + 1 + word.length) rest).modifyHead (word :: ·)
    else [] :: (rows width word.length rest).modifyHead (word :: ·)

def spaced (row : List (List Char)) : List Char := [' '].intercalate row

@[simp] theorem spaced_nil : spaced [] = [] := rfl

@[simp] theorem spaced_singleton (word : List Char) : spaced [word] = word := by
  simp [spaced, List.intercalate]

theorem spaced_cons_cons (word next : List Char) (rest : List (List Char)) :
    spaced (word :: next :: rest) = word ++ ' ' :: spaced (next :: rest) := by
  simp [spaced, List.intercalate]

/-- Width zero leaves the text as it is, and a text without words is one empty line. -/
def wrapped (width : Nat) (text : List Char) : List (List Char) :=
  if width = 0 then [text]
  else match words text with
    | [] => [[]]
    | word :: rest => ((rows width word.length rest).modifyHead (word :: ·)).map spaced

end Typescribe.Text
