import Typescribe.Resolver
/-!
# Builders

A builder is a resolver together with the warnings that nobody has taken yet. Its steps are
the builds and queries that a caller can ask for; every step has an answer.
-/
set_option autoImplicit false

namespace Typescribe

variable {κ : Type}

inductive Definition (κ : Type) where
  | ofClass (definition : ClassDefinition κ)
  | ofInterface (definition : InterfaceDefinition)
  | ofEnum (definition : EnumDefinition)
  | ofStringLiteralType (definition : StringLiteralType)
  | ofProperty (definition : PropertyDefinition κ)
  | ofFunction (definition : FunctionDefinition)

/-- There is no form if a decorator holds a callback. -/
def Definition.toJson? : Definition κ → Option Json
  | .ofClass definition => definition.toJson?
  | .ofInterface definition => some (toJson definition)
  | .ofEnum definition => some (toJson definition)
  | .ofStringLiteralType definition => some (toJson definition)
  | .ofProperty definition => definition.toJson?
  | .ofFunction definition => some (toJson definition)

structure Builder where
  resolver : Resolver := {}
  pending : List Diagnostic := []

namespace Builder

def noting {α : Type} (outcome : Outcome α) (builder : Builder) : Builder :=
  { builder with pending := builder.pending ++ outcome.warnings }

def drained (builder : Builder) : Builder := { builder with pending := [] }

end Builder

inductive BuildStep (κ : Type) where
  | ofClass (element : Class) (decorators : List (Decorator κ)) (options : ClassOptions)
  | ofInterface (element : Interface) (options : InterfaceOptions)
  | ofEnum (element : Enumeration) (options : EnumOptions)
  | ofStringLiteralType (element : Enumeration) (options : StringLiteralOptions)
  | ofProperty (element : Property) (decorators : List (Decorator κ))
      (options : PropertyOptions)
  | ofFunction (element : Operation) (options : FunctionOptions)
  | typeName (type : TypeRef)
  | fallbackTypeName
  | diagnostics
  | takeDiagnostics

inductive BuildAnswer (κ : Type) where
  | built (definition : Definition κ)
  | failed (failure : BuildFailure)
  | name (name : Option String)
  | diagnostics (list : List Diagnostic)

namespace BuildAnswer

def ofResult {α : Type} (kind : α → Definition κ) : Except BuildFailure α → BuildAnswer κ
  | .ok definition => .built (kind definition)
  | .error failure => .failed failure

end BuildAnswer

namespace BuildStep

def run (step : BuildStep κ) (builder : Builder) : BuildAnswer κ × Builder :=
  match step with
  | .ofClass element decorators options =>
    let outcome := builder.resolver.classDefinition element decorators options
    (.ofResult .ofClass outcome.result, builder.noting outcome)
  | .ofInterface element options =>
    let outcome := builder.resolver.interfaceDefinition element options
    (.ofResult .ofInterface outcome.result, builder.noting outcome)
  | .ofEnum element options =>
    let outcome := Resolver.enumDefinition element options
    (.ofResult .ofEnum outcome.result, builder.noting outcome)
  | .ofStringLiteralType element options =>
    (.ofResult .ofStringLiteralType (Resolver.stringLiteralType element options), builder)
  | .ofProperty element decorators options =>
    (.ofResult .ofProperty (builder.resolver.propertyDefinition element decorators options),
      builder)
  | .ofFunction element options =>
    (.ofResult .ofFunction (builder.resolver.functionDefinition element options), builder)
  | .typeName type => (.name (builder.resolver.naming type), builder)
  | .fallbackTypeName => (.name (some builder.resolver.fallbackTypeName), builder)
  | .diagnostics => (.diagnostics builder.pending, builder)
  | .takeDiagnostics => (.diagnostics builder.pending, builder.drained)

/-- Each answer comes with the number of warnings that are then pending. -/
def runAll : List (BuildStep κ) → Builder → List (BuildAnswer κ × Nat)
  | [], _ => []
  | step :: steps, builder =>
    let (answer, after) := step.run builder
    (answer, after.pending.length) :: runAll steps after

end BuildStep

end Typescribe
