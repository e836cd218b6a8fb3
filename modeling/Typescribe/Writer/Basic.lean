import Typescribe.Builder
import Typescribe.Rendering.Declaration
import Typescribe.Rendering.Docs
import Typescribe.Rendering.Member
import Typescribe.Sheet
/-!
# Writers

A writer is a sheet with a builder and the width of doc comments. This module holds its state,
the output of single lines and pieces, and the scope of indented contents: contents run one
level deeper than the line that opens them, and the level after them is that of the line,
whatever they did to it.
-/
set_option autoImplicit false

namespace Typescribe

structure Writer where
  sheet : Sheet := {}
  builder : Builder := {}
  commentWidth : UInt64 := 100

namespace Writer

def ofOptions (options : WriterOptions) : Writer where
  sheet := { indent := options.indent }
  builder := { resolver := { fallbackTypeName := options.fallbackTypeName } }
  commentWidth := options.commentWidth

/-- The fresh builder keeps the fallback name only. -/
def withNaming (naming : Naming) (writer : Writer) : Writer :=
  { writer with
    builder := { resolver := { writer.builder.resolver with naming }, pending := [] } }

def text (writer : Writer) : String := writer.sheet.text

def level (writer : Writer) : Nat := writer.sheet.level

/-! ## Lines and pieces -/

def onSheet (change : Sheet → Sheet) (writer : Writer) : Writer :=
  { writer with sheet := change writer.sheet }

def write (piece : String) : Writer → Writer := onSheet (Sheet.write piece)

def line (content : String) : Writer → Writer := onSheet (Sheet.line content)

def blankLine : Writer → Writer := onSheet Sheet.blankLine

def startLine : Writer → Writer := onSheet Sheet.startLine

def endLine (piece : String) : Writer → Writer := onSheet (Sheet.endLine piece)

def deeper : Writer → Writer := onSheet Sheet.deeper

def shallower : Writer → Writer := onSheet Sheet.shallower

def setLevel (level : Nat) : Writer → Writer := onSheet (Sheet.setLevel level)

def lines (contents : List String) (writer : Writer) : Writer :=
  contents.foldl (fun before content => before.line content) writer

/-! ## Scopes -/

/-- The level is restored behind the contents. -/
def inScope {β : Type} (contents : Writer → β × Writer) (writer : Writer) : β × Writer :=
  let (result, after) := contents (writer.setLevel (writer.level + 1))
  (result, after.setLevel writer.level)

def nested (contents : Writer → Writer) (writer : Writer) : Writer :=
  (contents (writer.setLevel (writer.level + 1))).setLevel writer.level

def enclosed {β : Type} (closing : String) (contents : Writer → β × Writer) (writer : Writer) :
    β × Writer :=
  let (result, after) := writer.inScope contents
  (result, after.line closing)

/-! ## Doc comments -/

def docLines (contents : List String) (writer : Writer) : Writer :=
  writer.lines (Docs.block writer.commentWidth.toNat contents)

def docParagraphs (paragraphs : List String) : Writer → Writer :=
  docLines (Docs.paragraphLines paragraphs)

end Writer

end Typescribe
