import Typescribe.Proofs.Bookings
/-!
# The deprecated prefix

A prefix stands for two options: a build with a prefix is the build without it in which the option
that the prefix names is switched on. All that is left of it is a warning. Over a run of any kind,
the warnings handed out and those pending are together one for each build with a prefix that is
not empty, in the order of the calls and each at its element.
-/
set_option autoImplicit false

namespace Typescribe

/-! ## Migration -/

/-- Blanks around a prefix do not count. -/
def saysKeyword (legacyPrefix : Option String) (keyword : String) : Bool :=
  legacyPrefix.any fun text => Text.trimmed text.toList = keyword.toList

def switchedOn (keyword : String) (legacyPrefix : Option String) (option : Option Bool) :
    Option Bool :=
  if saysKeyword legacyPrefix keyword then some true else option

def ClassOptions.migrated (options : ClassOptions) : ClassOptions :=
  { options with
    exported := switchedOn "export" options.legacyPrefix options.exported
    declared := switchedOn "declare" options.legacyPrefix options.declared
    legacyPrefix := none }

def InterfaceOptions.migrated (options : InterfaceOptions) : InterfaceOptions :=
  { options with
    exported := switchedOn "export" options.legacyPrefix options.exported
    declared := switchedOn "declare" options.legacyPrefix options.declared
    legacyPrefix := none }

def EnumOptions.migrated (options : EnumOptions) : EnumOptions :=
  { options with
    exported := switchedOn "export" options.legacyPrefix options.exported
    declared := switchedOn "declare" options.legacyPrefix options.declared
    legacyPrefix := none }

/-- The keywords exclude each other, so each switches its own option. -/
theorem Qualifiers.withPrefix_eq (exported declared : Option Bool)
    (legacyPrefix : Option String) :
    (Qualifiers.mk exported declared).withPrefix legacyPrefix =
      Qualifiers.mk (switchedOn "export" legacyPrefix exported)
        (switchedOn "declare" legacyPrefix declared) := by
  cases legacyPrefix with
  | none => rfl
  | some text =>
    have reads (keyword : String) :
        String.ofList (Text.trimmed text.toList) = keyword ↔
          Text.trimmed text.toList = keyword.toList := by
      rw [← String.toList_inj, String.toList_ofList]
    simp only [withPrefix, switchedOn, saysKeyword, Option.any_some, reads, decide_eq_true_eq]
    by_cases exports : Text.trimmed text.toList = "export".toList
    · have others : Text.trimmed text.toList ≠ "declare".toList := by
        rw [exports]
        decide
      rw [if_pos exports, if_pos exports, if_neg others]
    · by_cases declares : Text.trimmed text.toList = "declare".toList
      · rw [if_neg exports, if_pos declares, if_neg exports, if_pos declares]
      · rw [if_neg exports, if_neg declares, if_neg exports, if_neg declares]

/-- A prefix builds what the options build that it stands for. -/
structure PrefixIsShim (resolver : Resolver) : Prop where
  ofClass : ∀ {κ : Type} (element : Class) (decorators : List (Decorator κ))
    (options : ClassOptions),
    (resolver.classDefinition element decorators options).result =
      (resolver.classDefinition element decorators options.migrated).result
  ofInterface : ∀ (element : Interface) (options : InterfaceOptions),
    (resolver.interfaceDefinition element options).result =
      (resolver.interfaceDefinition element options.migrated).result
  ofEnum : ∀ (element : Enumeration) (options : EnumOptions),
    (Resolver.enumDefinition element options).result =
      (Resolver.enumDefinition element options.migrated).result

theorem prefixIsShim (resolver : Resolver) : PrefixIsShim resolver where
  ofClass element decorators options := by
    rw [Resolver.classDefinition, Resolver.classDefinition]
    cases requiredName .ofClass element.name with
    | error failure => rfl
    | ok name => simp only [Qualifiers.withPrefix_eq]; rfl
  ofInterface element options := by
    rw [Resolver.interfaceDefinition, Resolver.interfaceDefinition]
    cases requiredName .ofInterface element.name with
    | error failure => rfl
    | ok name => simp only [Qualifiers.withPrefix_eq]; rfl
  ofEnum element options := by
    rw [Resolver.enumDefinition, Resolver.enumDefinition]
    cases requiredName .ofEnum element.name with
    | error failure => rfl
    | ok name => simp only [Qualifiers.withPrefix_eq]; rfl

/-! ## Warnings -/

def prefixedName (name : String) (legacyPrefix : Option String) : List String :=
  if legacyPrefix.any fun text => !text.isEmpty then [name] else []

def BuildStep.prefixed {κ : Type} : BuildStep κ → List String
  | .ofClass element _ options => prefixedName element.name options.legacyPrefix
  | .ofInterface element options => prefixedName element.name options.legacyPrefix
  | .ofEnum element options => prefixedName element.name options.legacyPrefix
  | _ => []

def Step.prefixed : Step → List String
  | .writeClass element _ options _ => prefixedName element.name options.legacyPrefix
  | .writeInterface element options _ => prefixedName element.name options.legacyPrefix
  | .writeEnumeration element options => prefixedName element.name options.legacyPrefix
  | .build request => request.prefixed
  | _ => []

theorem Resolver.namedWarnings_of_succeeds {kind : Named} {name : String}
    (succeeds : missing? kind name = none) (legacyPrefix : Option String) :
    namedWarnings name legacyPrefix =
      (prefixedName name legacyPrefix).map Diagnostic.deprecatedPrefix := by
  have named : name.isEmpty = false := by
    cases unnamed : name.isEmpty with
    | false => rfl
    | true => simp [missing?, unnamed] at succeeds
  rw [namedWarnings, named]
  cases legacyPrefix with
  | none => rfl
  | some text => cases blank : text.isEmpty <;> simp [prefixWarnings, prefixedName, blank]

theorem Enumeration.named_of_succeeds {element : Enumeration}
    (succeeds : element.failure? = none) : missing? .ofEnum element.name = none :=
  (Option.or_eq_none_iff.mp succeeds).1

theorem BuildStep.warnings_of_succeeds {κ : Type} {request : BuildStep κ}
    (succeeds : request.failure? = none) :
    request.warnings = request.prefixed.map Diagnostic.deprecatedPrefix := by
  cases request with
  | ofClass element decorators options => exact Resolver.namedWarnings_of_succeeds succeeds _
  | ofInterface element options => exact Resolver.namedWarnings_of_succeeds succeeds _
  | ofEnum element options =>
    exact Resolver.namedWarnings_of_succeeds (Enumeration.named_of_succeeds succeeds) _
  | _ => rfl

theorem Step.warnings_of_succeeds {step : Step} (succeeds : step.failure? = none) :
    step.warnings = step.prefixed.map Diagnostic.deprecatedPrefix := by
  cases step with
  | writeClass element decorators options contents =>
    exact Resolver.namedWarnings_of_succeeds succeeds _
  | writeInterface element options contents =>
    exact Resolver.namedWarnings_of_succeeds succeeds _
  | writeEnumeration element options =>
    exact Resolver.namedWarnings_of_succeeds (Enumeration.named_of_succeeds succeeds) _
  | build request => exact BuildStep.warnings_of_succeeds succeeds
  | _ => rfl

/-! ## Runs of a builder -/

namespace BuildStep

variable {κ : Type}

def after (requests : List (BuildStep κ)) (builder : Builder) : Builder :=
  requests.foldl (fun before request => (request.run before).2) builder

def takenAll (requests : List (BuildStep κ)) (answers : List (BuildAnswer κ × Nat)) :
    List Diagnostic :=
  (requests.zip answers).flatMap fun pair => pair.1.taken pair.2.1

theorem taken_run (request : BuildStep κ) (builder : Builder) :
    request.taken (request.run builder).1 ++ (request.run builder).2.pending =
      builder.pending ++ request.warnings := by
  cases request with
  | takeDiagnostics => rfl
  | _ => exact pending_run (fun same => by cases same) builder

theorem takenAll_runAll (requests : List (BuildStep κ)) (builder : Builder) :
    takenAll requests (runAll requests builder) ++ (after requests builder).pending =
      builder.pending ++ requests.flatMap warnings := by
  induction requests generalizing builder with
  | nil => exact (List.append_nil _).symm
  | cons request requests ih =>
    have parts : takenAll (request :: requests) (runAll (request :: requests) builder) =
        request.taken (request.run builder).1
          ++ takenAll requests (runAll requests (request.run builder).2) := rfl
    have later : after (request :: requests) builder = after requests (request.run builder).2 :=
      rfl
    rw [parts, later, List.append_assoc, ih, ← List.append_assoc, taken_run, List.flatMap_cons,
      List.append_assoc]

end BuildStep

/-! ## The ledger -/

theorem flatMap_eq_map_of_forall {α β γ : Type} {items : List α} {whole : α → List γ}
    {parts : α → List β} {change : β → γ}
    (each : ∀ item ∈ items, whole item = (parts item).map change) :
    items.flatMap whole = (items.flatMap parts).map change := by
  rw [List.map_flatMap, List.flatMap_def, List.flatMap_def, List.map_congr_left each]

/-- What a builder hands out and what is pending on it, in the order of requests. -/
structure BuilderLedger {κ : Type} (requests : List (BuildStep κ)) (builder : Builder) :
    Prop where
  exact : BuildStep.takenAll requests (BuildStep.runAll requests builder)
      ++ (BuildStep.after requests builder).pending =
    builder.pending
      ++ (requests.flatMap BuildStep.prefixed).map Diagnostic.deprecatedPrefix

structure WriterLedger (program : Program) (writer : Writer) (books : Ledger) : Prop where
  pending : books.pending = (Step.run program writer).builder.pending
  exact : books.handedOut ++ (Step.run program writer).builder.pending = writer.builder.pending
    ++ (program.calls.flatMap Step.prefixed).map Diagnostic.deprecatedPrefix
  /-- All that is handed out shows in the answers. -/
  answered : program.TakesOpenly →
    program.taken (Step.runAll program writer).1 = books.handedOut

/-- A prefix changes nothing but the option it names, and every warning, handed out or pending, is
about one build with a prefix, in the order of the calls. -/
theorem prefixes_switch_options_and_warn_once (resolver : Resolver) {κ : Type}
    {requests : List (BuildStep κ)} (built : ∀ request ∈ requests, request.failure? = none)
    (builder : Builder) {program : Program}
    (performed : ∀ call ∈ program.calls, call.failure? = none) (writer : Writer) :
    PrefixIsShim resolver ∧ BuilderLedger requests builder ∧
      WriterLedger program writer (.ofRun program writer) := by
  have warnedBuilds : requests.flatMap BuildStep.warnings =
      (requests.flatMap BuildStep.prefixed).map Diagnostic.deprecatedPrefix :=
    flatMap_eq_map_of_forall fun request member =>
      BuildStep.warnings_of_succeeds (built request member)
  have warnedCalls : program.calls.flatMap Step.warnings =
      (program.calls.flatMap Step.prefixed).map Diagnostic.deprecatedPrefix :=
    flatMap_eq_map_of_forall fun call member => Step.warnings_of_succeeds (performed call member)
  refine ⟨prefixIsShim resolver, ⟨?_⟩, Ledger.pending_ofRun program writer, ?_, fun openly => ?_⟩
  · rw [BuildStep.takenAll_runAll, warnedBuilds]
  · rw [Ledger.all_ofRun, warnedCalls]
  · exact Ledger.taken_eq_handedOut openly writer

theorem padded_prefix_is_booked :
    let contents : Program :=
      [.writeInterface { name := "B" } { legacyPrefix := some " " } [], .build .takeDiagnostics]
    let program : Program := [
      .writeClass { name := "A" } [] { legacyPrefix := some " export " } contents,
      .writeEnumeration { name := "E" } { legacyPrefix := some "" },
      .build (.ofClass { name := "C" } [] { legacyPrefix := some "x" })]
    let requests : List (BuildStep Program) :=
      [.ofClass { name := "A" } [] { legacyPrefix := some "declare" }, .takeDiagnostics]
    PrefixIsShim {} ∧ BuilderLedger requests {} ∧
      WriterLedger program {} {
        handedOut := [.deprecatedPrefix "A", .deprecatedPrefix "B"]
        pending := [.deprecatedPrefix "C"] } := by
  intro contents program requests
  have calls : program.calls =
      .writeClass { name := "A" } [] { legacyPrefix := some " export " } contents
        :: contents ++ program.tail := by
    simp [program, contents, Program.calls_cons, Step.inOrder, Step.runningCallbacks,
      Step.runningContents?, Step.isIdle, Step.failure?, Step.isBodiless, Step.contents?,
      Step.decorators, callbackPrograms, missing?]
  have built : ∀ request ∈ requests, request.failure? = none := by
    simp [requests, BuildStep.failure?, missing?]
  have performed : ∀ call ∈ program.calls, call.failure? = none := by
    rw [calls]
    simp [program, contents, Step.failure?, BuildStep.failure?, Enumeration.failure?, missing?]
  have all := prefixes_switch_options_and_warn_once {} built {} performed {}
  rw [Ledger.ofRun, calls] at all
  exact all

end Typescribe
