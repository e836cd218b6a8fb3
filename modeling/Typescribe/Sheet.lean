import Typescribe.Indent
/-!
# Sheets of indented text

A sheet holds the text written so far and the level of indentation for the next line. Text is
only ever added at the end. A line is written whole with `line`, or from pieces: `startLine`,
any number of `write`, and `endLine`.
-/
set_option autoImplicit false

namespace Typescribe

structure Sheet where
  indent : Indent := .standard
  level : Nat := 0
  text : String := ""
  deriving DecidableEq, Repr

def copies : Nat → String → String
  | 0, _ => ""
  | count + 1, text => text ++ copies count text

namespace Sheet

def margin (sheet : Sheet) : String := copies sheet.level sheet.indent.unit

def write (piece : String) (sheet : Sheet) : Sheet :=
  { sheet with text := sheet.text ++ piece }

def startLine (sheet : Sheet) : Sheet := sheet.write sheet.margin

def endLine (piece : String) (sheet : Sheet) : Sheet := sheet.write (piece ++ "\n")

def line (content : String) (sheet : Sheet) : Sheet := sheet.startLine.endLine content

def blankLine (sheet : Sheet) : Sheet := sheet.write "\n"

def setLevel (level : Nat) (sheet : Sheet) : Sheet := { sheet with level }

def deeper (sheet : Sheet) : Sheet := sheet.setLevel (sheet.level + 1)

/-- Level zero stays. -/
def shallower (sheet : Sheet) : Sheet := sheet.setLevel (sheet.level - 1)

end Sheet

end Typescribe
