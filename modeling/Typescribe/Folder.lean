import Typescribe.Configuration
import Typescribe.Text.Split
/-!
# Configuration files

A folder holds files under relative paths; the directories are those on the way to a file. A
path may go through directories only, and what it leads to is a configuration if it is a file
with UTF-8 text that is one.
-/
set_option autoImplicit false

namespace Typescribe

/-- The names on the way to each file, and its bytes. -/
structure Folder where
  files : List (List String × ByteArray) := []

namespace Folder

def pathNames (path : String) : List String :=
  (path.toList.splitOn '/').map String.ofList

def ofFiles (files : List (String × ByteArray)) : Folder where
  files := files.map fun file =>
    ((pathNames file.1).filter fun name => name ≠ "" && name ≠ ".", file.2)

/-- The folder itself, or a directory on the way to a file. -/
def isDirectory (folder : Folder) (place : List String) : Bool :=
  place.isEmpty || folder.files.any fun file =>
    place.length < file.1.length && place.isPrefixOf file.1

/-- No path leads out of the folder. -/
def follow? (folder : Folder) : List String → List String → Option (List String)
  | place, [] => some place
  | place, name :: names =>
    if !folder.isDirectory place then none
    else if name = "" || name = "." then folder.follow? place names
    else if name = ".." then
      if place.isEmpty then none else folder.follow? place.dropLast names
    else folder.follow? (place ++ [name]) names

def read? (folder : Folder) (path : String) : Option String :=
  if path.startsWith "/" then none
  else do
    let place ← folder.follow? [] (pathNames path)
    let bytes ← folder.files.lookup place
    String.fromUTF8? bytes

def config (folder : Folder) (path : String) : Except LoadFailure Configuration :=
  match folder.read? path with
  | none => .error (.unreadable path)
  | some content => Configuration.ofDocument path content

end Folder

end Typescribe
