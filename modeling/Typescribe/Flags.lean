import Typescribe.Json.Form
import Typescribe.Text.Blank
import Typescribe.Text.Digits
import Typescribe.Text.Split
/-!
# Sets of named flags

A flag set has room for eight flags, of which the first ones have names; bits without a name
are kept. Its text is the names joined by ` | ` in bit order, and then the other bits as one
hexadecimal number; reading accepts the parts in any order.
-/
set_option autoImplicit false

namespace Typescribe

/-- Flags in bit order; the first ones have names. -/
structure FlagSet (names : List String) where
  bits : BitVec 8
  deriving DecidableEq, Repr

namespace FlagSet

variable {names : List String}

def empty : FlagSet names := ⟨0⟩

def all : FlagSet names := ⟨BitVec.ofNat 8 (Nat.pow 2 names.length - 1)⟩

def has (set : FlagSet names) (position : Nat) : Bool := set.bits.getLsbD position

def union (left right : FlagSet names) : FlagSet names := ⟨left.bits ||| right.bits⟩

def single (position : Nat) : FlagSet names := ⟨BitVec.ofNat 8 (Nat.pow 2 position)⟩

/-- One plus sign in front is allowed. -/
def hexNumber? : List Char → Option Nat
  | '+' :: digits => Text.numberOfDigits? 16 digits
  | digits => Text.numberOfDigits? 16 digits

/-- A name, or `0x` and digits of a number below 256. -/
def ofPart? (names : List String) (part : List Char) : Option (FlagSet names) :=
  match part with
  | '0' :: 'x' :: digits =>
    (hexNumber? digits).bind fun bits =>
      if bits < 256 then some ⟨BitVec.ofNat 8 bits⟩ else none
  | _ => (names.findIdx? (· == String.ofList part)).map single

/-- A text of blanks is the empty set. -/
def ofText? (names : List String) (text : String) : Option (FlagSet names) :=
  if Text.trimmed text.toList = [] then some empty
  else
    ((text.toList.splitOn '|').mapM fun part =>
      ofPart? names (Text.trimmed part)).map fun sets => sets.foldl union empty

def heldNames (set : FlagSet names) : List String :=
  (names.zipIdx.filter fun named => set.has named.2).map (·.1)

def unnamed (set : FlagSet names) : BitVec 8 := set.bits &&& ~~~(all : FlagSet names).bits

def text (set : FlagSet names) : String :=
  let rest :=
    if set.unnamed = 0 then []
    else ["0x" ++ String.ofList (Nat.toDigits 16 set.unnamed.toNat)]
  " | ".intercalate (set.heldNames ++ rest)

instance : JsonForm (FlagSet names) where
  toJson set := .text set.text
  ofJson?
    | .text text => ofText? names text
    | _ => none

end FlagSet

end Typescribe
