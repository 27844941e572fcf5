import RoutineGate.Proofs.Route.Acceptance
import RoutineGate.Proofs.Service.Plan

/-!
# What routes serve

The steps of a compiled route before the call are those that its directives ask for: between the
hooks of the first two phases stand the lookup of the sender and a guard for each guard directive,
and each phase has the functions that its hook directive lists.
-/

namespace RoutineGate

open Documentation (Directive ParamDirective)

namespace Service

open Lifecycle (hookSteps stepsBeforeCall)

variable {World : Type}

/-- A route is guarded and hooked by what some directives ask for. -/
structure Serves (context : CompileContext (Hook World)) (directives : List Directive)
    (route : Route (Hook World)) : Prop where
  /-- After the sender is looked up the guards decide, one for each guard directive, in order. -/
  guarded : ∃ guards, List.Forall₂ AsksFor (directives.filterMap Directive.guard?) guards ∧
    stepsBeforeCall route = hookSteps route .onRequest ++
      (.sender :: guards.map fun guard => .guard (.standard guard)) ++
        hookSteps route .preValidation ++ (.validation :: hookSteps route .preHandler)
  /-- A phase has the functions that its directive lists, in order. -/
  hooked : ∀ directive ∈ directives.filterMap Directive.hooks?, ∀ phase, IsFor directive phase →
    List.Forall₂ (fun name hook => context.hooks.get? name = some hook)
      directive.functions (route.hooksFor phase)
  /-- A phase without a directive has none. -/
  unhooked : ∀ phase, (∀ directive ∈ directives.filterMap Directive.hooks?,
    ¬IsFor directive phase) → route.hooksFor phase = []

variable {context : CompileContext (Hook World)} {procedure : Procedure}

/-- A compiled route is guarded and hooked by what its directives ask for. -/
theorem serves_of_compilesTo
    (standard : IsStandard context)
    {directives : List Directive}
    {route : Route (Hook World)}
    (compiled : Route.CompilesTo context procedure directives route) :
    Serves context directives route := by
  obtain ⟨hooked, -⟩ := Route.exists_compileHooks_iff.mp ⟨_, compiled.hooks_eq⟩
  constructor
  · obtain ⟨guards, asked, made⟩ :=
      Route.exists_guards_of_forall₂ standard compiled.forall₂_guards
    refine ⟨guards, asked, ?_⟩
    rw [stepsBeforeCall, made, List.map_map]
    rfl
  · intro directive member phase isFor
    rw [← Route.declaredHooks_eq_functions hooked.distinct member isFor]
    exact compiled.forall₂_hooksFor phase
  · intro phase undeclared
    have hooks := compiled.forall₂_hooksFor phase
    rw [Route.declaredHooks_eq_nil undeclared] at hooks
    exact List.forall₂_nil_left_iff.mp hooks

/--
A procedure is compiled exactly if it can be served, and to a route that is guarded and hooked by
what its directives ask for; otherwise it is rejected with an error that names it.
-/
theorem exists_compile_iff_isServable
    (standard : IsStandard context)
    (faultless : IsFaultless context procedure) :
    ((∃ route, Route.compile context procedure = .ok route) ↔
        ∃ directives, IsServable context procedure directives) ∧
      ((¬∃ directives, IsServable context procedure directives) →
        ∃ error, Route.compile context procedure = .error (.error error) ∧
          error.procedure = procedure.name) ∧
      ∀ route, Route.compile context procedure = .ok route →
        ∃ directives, IsServable context procedure directives ∧
          Serves context directives route := by
  have served := Route.exists_compile_iff standard faultless
  refine ⟨served, fun unservable => ?_, fun route compiled => ?_⟩
  · cases compiled : Route.compile context procedure with
    | ok route => exact absurd (served.mp ⟨route, compiled⟩) unservable
    | error failure =>
        obtain ⟨error, rfl, blamed⟩ := Route.blames_compile standard faultless failure compiled
        exact ⟨error, rfl, blamed⟩
  · obtain ⟨directives, parts⟩ := Route.exists_compilesTo compiled
    exact ⟨directives, Route.isServable_of_compilesTo standard faultless parts,
      serves_of_compilesTo standard parts⟩

/-- A context with a hook that changes nothing. -/
def greetingContext : CompileContext (Hook Unit) where
  hooks := .ofList [("trace", fun exchange => return .ok exchange)]

/-- The directive for the parameter of a procedure that greets. -/
def greetingParameter : ParamDirective where
  name := "who"
  key := "name"
  source := "querystring"
  expression := "z.string()"

/-- A procedure that greets. -/
def greetingProcedure : Procedure where
  name := "api_get_greeting"
  definition := some ("/**\n * @param {querystring} who<name> z.string()\n" ++
    " * @guard role admin, editor\n * @hooks {preHandler} trace\n */")
  parameters := ["who"]

/-- The procedure that greets is served. -/
theorem serves_greetingProcedure :
    IsStandard greetingContext ∧ IsFaultless greetingContext greetingProcedure ∧
      ∃ route directives, Route.compile greetingContext greetingProcedure = .ok route ∧
        Serves greetingContext directives route := by
  have standard : IsStandard greetingContext := ⟨rfl, rfl, rfl⟩
  have read : ((Documentation.readTags (greetingProcedure.definition.getD "")).toOption.map
      fun tags => (Documentation.interpret tags).filterMap Directive.param?) =
        some [greetingParameter] := by decide +kernel
  have parameters : ∀ directives, Documents greetingProcedure directives →
      directives.filterMap Directive.param? = [greetingParameter] := by
    rintro _ ⟨tags, readTags, rfl⟩
    rw [readTags] at read
    exact Option.some.inj read
  have sectioned : (([greetingParameter].mapM (Request.compileParameter greetingProcedure.name
      greetingContext.toScope)).toOption.map fun parameters =>
        (Request.sectionsFault? (Request.groupSections parameters)).isNone) = some true := by
    decide +kernel
  obtain ⟨compiled, made, usable⟩ := exists_ok_of_toOption_map sectioned
  have faultless : IsFaultless greetingContext greetingProcedure := by
    constructor
    · intro directives documented directive member fault
      rw [parameters directives documented] at member
      obtain ⟨-, node, denoted⟩ := (Route.exists_compileParameter_iff _).mp
        (exists_mapM_eq_ok_iff.mp ⟨compiled, made⟩ directive member)
      simp [denoted]
    · intro directives documented others traversed
      rw [parameters directives documented, made] at traversed
      obtain rfl := Except.ok.inj traversed
      simpa using usable
  have served : ((Route.compile greetingContext greetingProcedure).toOption.map
      fun route => route.guards.length) = some 1 := by decide +kernel
  obtain ⟨route, compiledRoute, -⟩ := exists_ok_of_toOption_map served
  obtain ⟨directives, -, serves⟩ :=
    (exists_compile_iff_isServable standard faultless).2.2 route compiledRoute
  exact ⟨standard, faultless, route, directives, compiledRoute, serves⟩

end Service
end RoutineGate
