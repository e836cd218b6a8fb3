import Typescribe.Text.CaseTable
import Typescribe.Text.Split
/-!
# Casing of names

`pascal` joins the words of a name, cut at hyphens, underscores and dots, each with its first
character in upper case; `camel` lowers the first character of the result; the rest of each
word keeps its case. `moduleAlias` makes the name under which a module can be imported.
-/
set_option autoImplicit false

namespace Typescribe.Text

def mapCase (several : List (Nat × List Nat)) (runs : List CaseRun) (letter : Char) : List Char :=
  match several.lookup letter.toNat with
  | some codes => codes.map Char.ofNat
  | none =>
    match runs.findSome? fun run => run.map? letter.toNat with
    | some code => [Char.ofNat code]
    | none => [letter]

def upper (letter : Char) : List Char := mapCase upperSeveral upperRuns letter

def lower (letter : Char) : List Char := mapCase lowerSeveral lowerRuns letter

def upperFirst : List Char → List Char
  | [] => []
  | letter :: rest => upper letter ++ rest

def lowerFirst : List Char → List Char
  | [] => []
  | letter :: rest => lower letter ++ rest

def isSeparator (letter : Char) : Bool :=
  letter = '-' || letter = '_' || letter = '.'

/-- The words of a name run together, each with an upper-case first character. -/
def pascal (name : List Char) : List Char :=
  (name.splitOnP isSeparator).flatMap upperFirst

def camel (name : List Char) : List Char :=
  lowerFirst (pascal name)

def withoutScopeMark : List Char → List Char
  | '@' :: rest => rest
  | name => name

/-- One segment is kept; of several, the first is in camel case and the others in Pascal case. -/
def moduleAlias (name : List Char) : List Char :=
  match (withoutScopeMark name).splitOn '/' with
  | first :: second :: others => camel first ++ (second :: others).flatMap pascal
  | _ => withoutScopeMark name

end Typescribe.Text
