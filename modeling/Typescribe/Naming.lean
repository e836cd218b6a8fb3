import Typescribe.Model.TypeRef
/-!
# Naming of types

A naming gives types of the model the names under which they are written; a type may have no
name.
-/
set_option autoImplicit false

namespace Typescribe

abbrev Naming := TypeRef → Option String

namespace Naming

def ofModel : Naming := fun type => if type.name.isEmpty then none else some type.name

def typescript : Naming
  | .primitive .boolean => some "boolean"
  | .primitive .integer | .primitive .real => some "number"
  | .primitive .string => some "string"
  | .primitive .object => some "any"
  | type => ofModel type

/-- Types are looked up by their name in the model. -/
def ofTable (table : List (String × String)) : Naming := fun type => table.lookup type.name

def nameOf? (naming : Naming) (type : Option TypeRef) : Option String := type.bind naming

end Naming

def primitiveZero? (typeName : String) : Option String :=
  if typeName = "boolean" then some "false"
  else if typeName = "string" then some "''"
  else if typeName = "number" then some "0"
  else none

def isPrimitiveName (typeName : String) : Bool :=
  typeName = "boolean" || typeName = "string" || typeName = "number"

end Typescribe
