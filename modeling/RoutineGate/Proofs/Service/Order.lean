import RoutineGate.Proofs.Route.Compilation
import RoutineGate.Proofs.Service.Recording
import RoutineGate.Proofs.Service.Sections

/-!
# The order of the lifecycle

A request is handled in the order of the plan, up to the first step that interrupts it.  The
database is called at most once, for the procedure of the route, and only if all steps
before have finished: no request that a guard rejects or that has a section which is not
valid reaches it.
-/

namespace RoutineGate
namespace Service
namespace Lifecycle

variable {World : Type}

section Order

variable (database : Database.ProcedureDatabase World) (verifier : Auth.Verifier) (now : Int)
variable (route : Route (Hook World)) (exchange : Exchange) (world : World)

/-- A request is handled in the order of the plan and reaches the database only at its place. -/
structure HandledInOrder : Prop where
  /-- The executed steps are the first ones of the plan. -/
  steps_isPrefix :
    (handle database verifier now route exchange world).2.steps <+: plan route
  /-- A planned step is executed exactly if all steps before it finish. -/
  isPrefix_steps_iff : ∀ {earlier : List (Step World)} {step : Step World},
    earlier ++ [step] <+: plan route →
      (earlier ++ [step] <+: (handle database verifier now route exchange world).2.steps ↔
        ∃ stage, earlier.foldlM (advance database verifier now route) { exchange, world } =
          .ok stage)
  /-- The record of the calls changes neither the response nor the world. -/
  unaffected :
    (handleRecording database verifier now route exchange world).1 =
        (handle database verifier now route exchange world).1 ∧
      (handleRecording database verifier now route exchange world).2.world.world =
        (handle database verifier now route exchange world).2.world
  /-- The database is called at most once. -/
  atMostOnce : (callsDuring database verifier now route exchange world).length ≤ 1
  /-- Only the procedure of the route is called, after all steps before the call. -/
  ownProcedure : ∀ call ∈ callsDuring database verifier now route exchange world,
    call.1 = route.procedure.name ∧
      ∃ stage, (stepsBeforeCall route).foldlM (advance database verifier now route)
          { exchange, world } = .ok stage ∧
        argumentsFor route (fieldsOf stage.exchange stage.sections) = .ok call.2
  /-- Nothing is called if a guard interrupts the request. -/
  notBehindGuard : ∀ {earlier : List (Step World)} {guard : RouteGuard (Hook World)}
      {stage : Stage World} {interruption : Interruption} {after : World},
    earlier ++ [.guard guard] <+: stepsBeforeCall route →
      earlier.foldlM (advance database verifier now route) { exchange, world } = .ok stage →
      applyGuard guard stage.exchange stage.world = (.error interruption, after) →
      callsDuring database verifier now route exchange world = []
  /-- Nothing is called if a section is not valid. -/
  notBehindSection : ∀ {earlier : List (Step World)} {stage : Stage World}
      {raw : SectionValues} {place : Request.Section} {refusal : Schema.Refusal},
    earlier ++ [.validation] <+: stepsBeforeCall route →
      earlier.foldlM (advance database verifier now route) { exchange, world } = .ok stage →
      readSections route.schema stage.exchange = .ok raw →
      route.schema.validate place (raw place) = .error refusal →
      callsDuring database verifier now route exchange world = []

variable {database verifier now route exchange world}

/-- Nothing is called if a step before the call interrupts the request. -/
theorem callsDuring_of_interrupted
    {earlier : List (Step World)}
    {step : Step World}
    {stage : Stage World}
    {halted : Halt World}
    (planned : earlier ++ [step] <+: stepsBeforeCall route)
    (reached : earlier.foldlM (advance database verifier now route) { exchange, world } =
      .ok stage)
    (interrupted : advance database verifier now route stage step = .error halted) :
    callsDuring database verifier now route exchange world = [] := by
  obtain ⟨later, split⟩ := planned
  rw [callsDuring_eq, ← split, List.foldlM_append, List.foldlM_append, reached]
  simp only [bind, Except.bind, List.foldlM_cons, interrupted]

/-- A guard that interrupts a request interrupts it at its step. -/
theorem advance_guard_of_error
    {guard : RouteGuard (Hook World)}
    {stage : Stage World}
    {interruption : Interruption}
    {after : World}
    (rejected : applyGuard guard stage.exchange stage.world = (.error interruption, after)) :
    advance database verifier now route stage (.guard guard) =
      .error (interruption, { stage with world := after }) := by
  simp only [advance, advanceHook, rejected]

/-- A section that is not valid interrupts a request at the validation. -/
theorem advance_validation_of_refused
    {stage : Stage World}
    {raw : SectionValues}
    {place : Request.Section}
    {refusal : Schema.Refusal}
    (read : readSections route.schema stage.exchange = .ok raw)
    (refused : route.schema.validate place (raw place) = .error refusal) :
    ∃ halted, advance database verifier now route stage .validation = .error halted := by
  simp only [advance, advanceValidation, read, Except.bind]
  cases validated : validateSections route.schema raw with
  | error interruption => exact ⟨_, rfl⟩
  | ok sections => exact absurd validated (validateSections_ne_ok refused sections)

variable (database verifier now route exchange world)

/-- Every request is handled in the order of the plan. -/
theorem handledInOrder : HandledInOrder database verifier now route exchange world := by
  have unaffected := handleRecording_eq database verifier now route exchange world
  have calls := callsDuring_eq database verifier now route exchange world
  have steps : (handle database verifier now route exchange world).2.steps =
      begun (advance database verifier now route) (plan route) { exchange, world } := by
    rw [handle_eq]
  constructor
  case steps_isPrefix =>
    rw [steps]
    exact begun_isPrefix _ _ _
  case isPrefix_steps_iff =>
    intro earlier step planned
    rw [steps]
    exact isPrefix_begun_iff _ planned _
  case unaffected =>
    obtain ⟨response, -, after⟩ := unaffected
    exact ⟨response, by rw [after]⟩
  case atMostOnce =>
    rw [calls]
    split
    · unfold callsAt
      split <;> simp
    · exact Nat.zero_le 1
  case ownProcedure =>
    intro call made
    rw [calls] at made
    cases finished : (stepsBeforeCall route).foldlM (advance database verifier now route)
        { exchange, world } with
    | error halted => simp [finished] at made
    | ok stage =>
        simp only [finished, callsAt] at made
        cases bound : argumentsFor route (fieldsOf stage.exchange stage.sections) with
        | error problem => simp [bound] at made
        | ok arguments =>
            obtain rfl : call = (route.procedure.name, arguments) := by simpa [bound] using made
            exact ⟨rfl, stage, rfl, bound⟩
  case notBehindGuard =>
    intro earlier guard stage interruption after planned reached rejected
    exact callsDuring_of_interrupted planned reached (advance_guard_of_error rejected)
  case notBehindSection =>
    intro earlier stage raw place refusal planned reached read refused
    obtain ⟨halted, interrupted⟩ : ∃ halted, advance database verifier now route stage
      .validation = .error halted := advance_validation_of_refused read refused
    exact callsDuring_of_interrupted planned reached interrupted

/--
A compiled route has its guards and the hooks of each phase in the order in which the
documentation declares them, and handles every request in the order of its plan.
-/
theorem handledInOrder_of_compile
    {context : CompileContext (Hook World)}
    {procedure : Procedure}
    (compiled : Route.compile context procedure = .ok route) :
    (∃ directives, Route.directivesOf procedure context.isStrict = .ok directives ∧
      List.Forall₂ (fun directive guard =>
          Route.compileGuard procedure.name context directive = .ok guard)
        (directives.filterMap Documentation.Directive.guard?) route.guards ∧
      ∀ phase, List.Forall₂ (fun name hook => context.hooks.get? name = some hook)
        (Route.declaredHooks (directives.filterMap Documentation.Directive.hooks?) phase)
        (route.hooksFor phase)) ∧
    route.procedure = procedure ∧
    HandledInOrder database verifier now route exchange world := by
  obtain ⟨directives, parts⟩ := Route.exists_compilesTo compiled
  refine ⟨⟨directives, parts.directives_eq, parts.forall₂_guards, parts.forall₂_hooksFor⟩,
    parts.procedure_eq, ?_⟩
  exact handledInOrder database verifier now route exchange world

end Order

/-- A database that does nothing. -/
def idleDatabase : Database.ProcedureDatabase Unit where
  catalog := return .ok []
  call _ _ := return .ok []

/-- A context with one hook, which does nothing. -/
def notingContext : CompileContext (Hook Unit) where
  hooks := .ofList [("note", .ofChange id)]

/-- A procedure with a guard, a hook and a section. -/
def guardedProcedure : Procedure where
  name := "api_post_items"
  definition := some
    "/**\n * @guard auth\n * @hooks {preHandler} note\n * @param {body} title z.string()\n */"
  parameters := ["title"]

/-- The procedure is compiled, with its guard and its hook, and served in order. -/
theorem handledInOrder_guardedProcedure :
    ∃ route, Route.compile notingContext guardedProcedure = .ok route ∧
      route.guards.length = 1 ∧ (route.hooksFor .preHandler).length = 1 ∧
      ∀ exchange, HandledInOrder idleDatabase {} 0 route exchange () := by
  have lengths : (Route.compile notingContext guardedProcedure).toOption.map (fun route =>
      (route.guards.length, (route.hooksFor .preHandler).length)) = some (1, 1) := by
    decide +kernel
  obtain ⟨route, compiled, lengths⟩ := exists_ok_of_toOption_map lengths
  obtain ⟨guards, hooks⟩ := Prod.mk.inj lengths
  refine ⟨route, compiled, guards, hooks, fun exchange => ?_⟩
  exact (handledInOrder_of_compile idleDatabase {} 0 route exchange () compiled).2.2

end Lifecycle
end Service
end RoutineGate
