import Typescribe.Writer.Block
/-!
# Writing model elements

Each function builds the definition of a model element with the builder of the writer and
writes it. If the build fails nothing is written and the contents do not run; warnings of the
build are kept in any case.
-/
set_option autoImplicit false

namespace Typescribe.Writer

def noting {α : Type} (outcome : Outcome α) (writer : Writer) : Writer :=
  { writer with builder := writer.builder.noting outcome }

def writeClass {β : Type} (element : Class) (decorators : List (Decorator Callback))
    (options : ClassOptions) (contents : Writer → β × Writer) (writer : Writer) :
    Except BuildFailure β × Writer :=
  let outcome := writer.builder.resolver.classDefinition element decorators options
  let noted := writer.noting outcome
  match outcome.result with
  | .error failure => (.error failure, noted)
  | .ok definition =>
    let (result, after) := noted.classBlock definition contents
    (.ok result, after)

def writeInterface {β : Type} (element : Interface) (options : InterfaceOptions)
    (contents : Writer → β × Writer) (writer : Writer) : Except BuildFailure β × Writer :=
  let outcome := writer.builder.resolver.interfaceDefinition element options
  let noted := writer.noting outcome
  match outcome.result with
  | .error failure => (.error failure, noted)
  | .ok definition =>
    let (result, after) := noted.interfaceBlock definition contents
    (.ok result, after)

def writeEnumeration (element : Enumeration) (options : EnumOptions) (writer : Writer) :
    Except BuildFailure Unit × Writer :=
  let outcome := Resolver.enumDefinition element options
  let noted := writer.noting outcome
  match outcome.result with
  | .error failure => (.error failure, noted)
  | .ok definition => (.ok (), noted.enum definition)

def writeProperty (element : Property) (decorators : List (Decorator Callback))
    (options : PropertyOptions) (writer : Writer) : Except BuildFailure Unit × Writer :=
  match writer.builder.resolver.propertyDefinition element decorators options with
  | .error failure => (.error failure, writer)
  | .ok definition => (.ok (), writer.property definition)

def writeFunction {β : Type} (element : Operation) (options : FunctionOptions)
    (contents : Writer → β × Writer) (writer : Writer) :
    Except BuildFailure (Option β) × Writer :=
  match writer.builder.resolver.functionDefinition element options with
  | .error failure => (.error failure, writer)
  | .ok definition =>
    let (result, after) := writer.functionBlock definition contents
    (.ok result, after)

end Typescribe.Writer
