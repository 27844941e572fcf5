import Mathlib
import RoutineGate.Service.Lifecycle

/-!
# The plan of a route

A route fixes a plan: the steps that a request passes through, in order.  What one step
makes of a request is a function of its own, and to handle a request is to follow the plan
until a step interrupts it.
-/

namespace RoutineGate
namespace Service

/-- What a request has come to between two steps. -/
structure Stage (World : Type) where
  /-- The exchange. -/
  exchange : Exchange
  /-- The world. -/
  world : World
  /-- The values of the sections, once they are validated. -/
  sections : SectionValues := fun _ => .null
  /-- The response, once it is made. -/
  response : Option Http.Response := none

/-- An interruption and the stage at which it happens. -/
abbrev Halt (World : Type) := Interruption × Stage World

namespace Lifecycle

variable {World Result : Type}

/-- The stage at which a request ends. -/
def lastStage : Except (Halt World) (Stage World) → Stage World
  | .ok stage => stage
  | .error (_, stage) => stage

/-- The response to a request. -/
def replyOf : Except (Halt World) (Stage World) → Http.Response
  | .ok stage => stage.response.getD .internalError
  | .error (interruption, stage) => stage.response.getD interruption.response

/-- The steps of the hooks of a phase. -/
def hookSteps (route : Route (Hook World)) (phase : Phase) : List (Step World) :=
  (route.hooksFor phase).map (.hook phase)

/-- The steps before the call, in order. -/
def stepsBeforeCall (route : Route (Hook World)) : List (Step World) :=
  hookSteps route .onRequest ++ (.sender :: route.guards.map .guard) ++
    hookSteps route .preValidation ++ (.validation :: hookSteps route .preHandler)

/-- The steps after the call and before the response, in order. -/
def stepsAfterCall (route : Route (Hook World)) : List (Step World) :=
  hookSteps route .preSerialization ++ hookSteps route .onSend

/-- The steps up to the response, in order. -/
def servingSteps (route : Route (Hook World)) : List (Step World) :=
  stepsBeforeCall route ++ (.call :: stepsAfterCall route) ++ [.response]

/-- All steps, in order. -/
def plan (route : Route (Hook World)) : List (Step World) :=
  servingSteps route ++ hookSteps route .onResponse

/-- What a hook makes of a stage. -/
def advanceHook (hook : Hook World) (stage : Stage World) : Except (Halt World) (Stage World) :=
  match hook stage.exchange stage.world with
  | (.ok exchange, world) => .ok { stage with exchange, world }
  | (.error interruption, world) => .error (interruption, { stage with world })

/-- What looking up the sender makes of a stage. -/
def advanceSender (verifier : Auth.Verifier) (now : Int) (stage : Stage World) :
    Except (Halt World) (Stage World) :=
  match stage.exchange.identify verifier now with
  | .ok exchange => .ok { stage with exchange }
  | .error found => .error (.fault found, stage)

/-- What reading and validating the sections makes of a stage. -/
def advanceValidation (schema : Request.RequestSchema) (stage : Stage World) :
    Except (Halt World) (Stage World) :=
  match (readSections schema stage.exchange).bind (validateSections schema) with
  | .ok sections => .ok { stage with sections }
  | .error interruption => .error (interruption, stage)

/-- What calling the procedure makes of a stage. -/
def advanceCall (database : Database.ProcedureDatabase World) (route : Route (Hook World))
    (stage : Stage World) : Except (Halt World) (Stage World) :=
  match invokeRoute database route (fieldsOf stage.exchange stage.sections) stage.world with
  | (.ok answer, world) =>
      .ok { stage with exchange := (takeAnswer stage.exchange answer).2, world }
  | (.error error, world) => .error (.invocation error, { stage with world })

/-- What making the response makes of a stage. -/
def advanceResponse (stage : Stage World) : Except (Halt World) (Stage World) :=
  match stage.exchange.reply.response with
  | .ok response => .ok { stage with response }
  | .error found => .error (.fault found, stage)

/-- What a step makes of a stage. -/
def advance (database : Database.ProcedureDatabase World) (verifier : Auth.Verifier)
    (now : Int) (route : Route (Hook World)) (stage : Stage World) :
    Step World → Except (Halt World) (Stage World)
  | .hook _ hook => advanceHook hook stage
  | .sender => advanceSender verifier now stage
  | .guard guard => advanceHook (applyGuard guard) stage
  | .validation => advanceValidation route.schema stage
  | .call => advanceCall database route stage
  | .response => advanceResponse stage

section Following

variable (move : Stage World → Step World → Except (Halt World) (Stage World))

/--
What is observed when steps are followed: something before each step, up to the first one
that interrupts the request.
-/
def observed {Output : Type} (observe : Stage World → Step World → List Output) :
    List (Step World) → Stage World → List Output
  | [], _ => []
  | step :: steps, stage =>
      observe stage step ++
        match move stage step with
        | .ok next => observed observe steps next
        | .error _ => []

/-- The steps that are begun when steps are followed. -/
def begun : List (Step World) → Stage World → List (Step World) :=
  observed move fun _ step => [step]

/-- Further steps are followed only if the earlier ones do not interrupt the request. -/
theorem observed_append
    {Output : Type}
    (observe : Stage World → Step World → List Output)
    (earlier later : List (Step World))
    (stage : Stage World) :
    observed move observe (earlier ++ later) stage =
      observed move observe earlier stage ++
        match earlier.foldlM move stage with
        | .ok next => observed move observe later next
        | .error _ => [] := by
  induction earlier generalizing stage with
  | nil => rfl
  | cons step earlier inductionHypothesis =>
      rw [List.cons_append, List.foldlM_cons]
      cases first : move stage step with
      | error interrupted => simp [observed, first, bind, Except.bind]
      | ok next =>
          simp only [observed, first, List.append_assoc, List.append_cancel_left_eq]
          exact inductionHypothesis next

/-- Steps before which nothing is observed leave no trace. -/
theorem observed_of_silent
    {Output : Type}
    {observe : Stage World → Step World → List Output}
    {steps : List (Step World)}
    (silent : ∀ stage, ∀ step ∈ steps, observe stage step = [])
    (stage : Stage World) :
    observed move observe steps stage = [] := by
  induction steps generalizing stage with
  | nil => rfl
  | cons step steps inductionHypothesis =>
      have first := silent stage step List.mem_cons_self
      have rest := inductionHypothesis fun stage step member =>
        silent stage step (List.mem_cons_of_mem _ member)
      simp only [observed, first, List.nil_append]
      cases move stage step with
      | error interrupted => rfl
      | ok next => exact rest next

/-- Only steps of the plan are begun, in its order. -/
theorem begun_isPrefix
    (steps : List (Step World))
    (stage : Stage World) :
    begun move steps stage <+: steps := by
  induction steps generalizing stage with
  | nil => exact List.nil_prefix
  | cons step steps inductionHypothesis =>
      simp only [begun, observed, List.singleton_append, List.cons_prefix_cons, true_and]
      cases move stage step with
      | error interrupted => exact List.nil_prefix
      | ok next => exact inductionHypothesis next

/-- All steps are begun if none of them interrupts the request. -/
theorem begun_of_foldlM_eq_ok
    {steps : List (Step World)}
    {stage last : Stage World}
    (finished : steps.foldlM move stage = .ok last) :
    begun move steps stage = steps := by
  induction steps generalizing stage with
  | nil => rfl
  | cons step steps inductionHypothesis =>
      rw [List.foldlM_cons] at finished
      cases first : move stage step with
      | error interrupted =>
          rw [first] at finished
          exact absurd finished (by simp [bind, Except.bind])
      | ok next =>
          rw [first] at finished
          have rest := inductionHypothesis finished
          simp only [begun, observed, first, List.singleton_append, List.cons.injEq, true_and]
          exact rest

/-- Further steps are begun only if the earlier ones do not interrupt the request. -/
theorem begun_append
    (earlier later : List (Step World))
    (stage : Stage World) :
    begun move (earlier ++ later) stage =
      begun move earlier stage ++
        match earlier.foldlM move stage with
        | .ok next => begun move later next
        | .error _ => [] :=
  observed_append move _ earlier later stage

@[simp] theorem begun_singleton
    (step : Step World)
    (stage : Stage World) :
    begun move [step] stage = [step] := by
  simp only [begun, observed, List.singleton_append, List.cons.injEq, true_and]
  cases move stage step <;> rfl

/-- A step of the plan is begun exactly if all steps before it have finished. -/
theorem isPrefix_begun_iff
    {steps earlier : List (Step World)}
    {step : Step World}
    (planned : earlier ++ [step] <+: steps)
    (stage : Stage World) :
    earlier ++ [step] <+: begun move steps stage ↔
      ∃ next, earlier.foldlM move stage = .ok next := by
  obtain ⟨later, rfl⟩ := planned
  rw [List.append_assoc, begun_append]
  constructor
  · intro reached
    cases finished : earlier.foldlM move stage with
    | ok next => exact ⟨next, rfl⟩
    | error interrupted =>
        -- then fewer steps are begun than the claimed ones
        have atMost := (begun_isPrefix move earlier stage).length_le
        have atLeast := reached.length_le
        simp only [finished, List.append_nil, List.length_append,
          List.length_singleton] at atLeast
        omega
  · rintro ⟨next, finished⟩
    rw [begun_of_foldlM_eq_ok move finished]
    simp only [finished, List.singleton_append, begun, observed]
    exact ⟨_, by rw [List.append_assoc, List.singleton_append]⟩

/-- What no step of a plan changes is the same in the end. -/
theorem last_foldlM_of_kept
    {Observed : Type}
    (observe : Stage World → Observed)
    {steps : List (Step World)}
    (kept : ∀ stage, ∀ step ∈ steps,
      observe (lastStage (move stage step)) = observe stage)
    (stage : Stage World) :
    observe (lastStage (steps.foldlM move stage)) = observe stage := by
  induction steps generalizing stage with
  | nil => rfl
  | cons step steps inductionHypothesis =>
      have first := kept stage step List.mem_cons_self
      rw [List.foldlM_cons]
      cases moved : move stage step with
      | error interrupted =>
          rw [moved] at first
          exact first
      | ok next =>
          rw [moved] at first
          have rest := inductionHypothesis
            (fun stage step member => kept stage step (List.mem_cons_of_mem _ member)) next
          exact rest.trans first

/--
A computation realizes steps from a stage on: it ends where following the steps ends, records
the steps that are begun, and gives what the last stage holds.
-/
def Realizes (steps : List (Step World)) (stage : Stage World)
    (action : Lifecycle World Result) (result : Stage World → Result) : Prop :=
  ∀ earlier, action.run ⟨stage.exchange, stage.world, earlier⟩ =
    match steps.foldlM move stage with
    | .ok last =>
        (.ok (result last), ⟨last.exchange, last.world, earlier ++ begun move steps stage⟩)
    | .error (interruption, last) =>
        (.error interruption, ⟨last.exchange, last.world, earlier ++ begun move steps stage⟩)

/-- Running one computation after another. -/
theorem run_bind
    {Next : Type}
    (action : Lifecycle World Result)
    (next : Result → Lifecycle World Next)
    (progress : Progress World) :
    (action >>= next).run progress =
      match action.run progress with
      | (.ok result, after) => (next result).run after
      | (.error interruption, after) => (.error interruption, after) := by
  change (ExceptT.bind action next) progress = _
  simp only [ExceptT.bind, ExceptT.mk, bind, StateT.bind, ExceptT.run]
  rcases action progress with ⟨_ | _, after⟩ <;> rfl

/-- Computations that realize steps may be put together. -/
theorem Realizes.bind
    {Next : Type}
    {steps later : List (Step World)}
    {stage : Stage World}
    {action : Lifecycle World Result}
    {result : Stage World → Result}
    {next : Result → Lifecycle World Next}
    {nextResult : Stage World → Next}
    (first : Realizes move steps stage action result)
    (second : ∀ last, steps.foldlM move stage = .ok last →
      Realizes move later last (next (result last)) nextResult) :
    Realizes move (steps ++ later) stage (action >>= next) nextResult := by
  intro earlier
  rw [run_bind, first earlier, begun_append, List.foldlM_append]
  cases finished : steps.foldlM move stage with
  | error interrupted =>
      simp only [List.append_nil]
      rfl
  | ok last =>
      simp only
      rw [second last finished, List.append_assoc]
      rfl

/-- A computation that does nothing realizes no steps. -/
theorem realizes_pure
    (stage : Stage World)
    (result : Result) :
    Realizes move [] stage (pure result) fun _ => result := by
  intro earlier
  simp only [begun, observed, List.append_nil]
  rfl

/-- A computation that does and records what a step does realizes this step. -/
theorem realizes_singleton
    {step : Step World}
    {stage : Stage World}
    {action : Lifecycle World Result}
    {result : Stage World → Result}
    (performed : ∀ earlier, action.run ⟨stage.exchange, stage.world, earlier⟩ =
      match move stage step with
      | .ok last => (.ok (result last), ⟨last.exchange, last.world, earlier ++ [step]⟩)
      | .error (interruption, last) =>
          (.error interruption, ⟨last.exchange, last.world, earlier ++ [step]⟩)) :
    Realizes move [step] stage action result := by
  intro earlier
  rw [performed earlier, List.foldlM_cons, begun_singleton]
  cases move stage step <;> rfl

end Following

/-! ## Each part of the lifecycle realizes its steps -/

section Parts

variable (database : Database.ProcedureDatabase World) (verifier : Auth.Verifier) (now : Int)
variable (route : Route (Hook World))

theorem realizes_runHook
    (step : Step World)
    (hook : Hook World)
    (isHook : ∀ stage, advance database verifier now route stage step = advanceHook hook stage)
    (stage : Stage World) :
    Realizes (advance database verifier now route) [step] stage (runHook step hook)
      fun _ => () := by
  refine realizes_singleton _ fun earlier => ?_
  rw [isHook stage, advanceHook]
  unfold runHook perform
  rcases ran : hook stage.exchange stage.world with ⟨_ | _, world⟩ <;>
    simp [ran, ExceptT.run, ExceptT.mk, bind, StateT.bind, pure, StateT.pure, Except.map]

/-- Running the hooks of a phase realizes the steps of these hooks. -/
theorem realizes_runHooks
    (phase : Phase)
    (hooks : List (Hook World))
    (stage : Stage World) :
    Realizes (advance database verifier now route) (hooks.map (.hook phase)) stage
      (runHooks phase hooks) fun _ => () := by
  induction hooks generalizing stage with
  | nil => exact realizes_pure _ stage ()
  | cons hook hooks inductionHypothesis =>
      have first := realizes_runHook database verifier now route (.hook phase hook) hook
        (fun _ => rfl) stage
      exact first.bind _ fun last _ => inductionHypothesis last

/-- Running guards realizes the steps of these guards. -/
theorem realizes_runGuards
    (guards : List (RouteGuard (Hook World)))
    (stage : Stage World) :
    Realizes (advance database verifier now route) (guards.map .guard) stage
      (runGuards guards) fun _ => () := by
  induction guards generalizing stage with
  | nil => exact realizes_pure _ stage ()
  | cons guard guards inductionHypothesis =>
      have first := realizes_runHook database verifier now route (.guard guard)
        (applyGuard guard) (fun _ => rfl) stage
      exact first.bind _ fun last _ => inductionHypothesis last

theorem realizes_lookUpSender (stage : Stage World) :
    Realizes (advance database verifier now route) [.sender] stage
      (lookUpSender verifier now) fun _ => () := by
  refine realizes_singleton _ fun earlier => ?_
  rw [advance, advanceSender]
  unfold lookUpSender change perform
  rcases identified : stage.exchange.identify verifier now with _ | _ <;>
    simp [identified, ExceptT.run, ExceptT.mk, pure, StateT.pure, Except.map, Except.mapError]

theorem realizes_validate (stage : Stage World) :
    Realizes (advance database verifier now route) [.validation] stage
      (validate route.schema) Stage.sections := by
  refine realizes_singleton _ fun earlier => ?_
  rw [advance, advanceValidation]
  unfold validate inspect perform
  rcases read : (readSections route.schema stage.exchange).bind
    (validateSections route.schema) with _ | _ <;>
    simp [read, ExceptT.run, ExceptT.mk, pure, StateT.pure, Except.map]

theorem realizes_callProcedure (stage : Stage World) :
    Realizes (advance database verifier now route) [.call] stage
      (callProcedure database route stage.sections) fun _ => () := by
  refine realizes_singleton _ fun earlier => ?_
  rw [advance, advanceCall]
  unfold callProcedure perform
  rcases invoked : invokeRoute database route (fieldsOf stage.exchange stage.sections)
    stage.world with ⟨_ | _, world⟩ <;>
    simp [invoked, ExceptT.run, ExceptT.mk, bind, StateT.bind, pure, StateT.pure,
      Except.map, Except.mapError, takeAnswer]

theorem realizes_respond (stage : Stage World) :
    Realizes (advance database verifier now route) [.response] stage respond
      fun last => last.response.getD .internalError := by
  refine realizes_singleton _ fun earlier => ?_
  rw [advance, advanceResponse]
  unfold respond inspect perform
  rcases made : stage.exchange.reply.response with _ | _ <;>
    simp [made, ExceptT.run, ExceptT.mk, pure, StateT.pure, Except.map, Except.mapError]

/-- Only validation changes the values of the sections. -/
theorem sections_advance
    {step : Step World}
    (different : step ≠ .validation)
    (stage : Stage World) :
    (lastStage (advance database verifier now route stage step)).sections =
      stage.sections := by
  cases step with
  | validation => exact absurd rfl different
  | sender =>
      simp only [advance, advanceSender]
      split <;> rfl
  | hook phase hook =>
      simp only [advance, advanceHook]
      split <;> rfl
  | guard guard =>
      simp only [advance, advanceHook]
      split <;> rfl
  | call =>
      simp only [advance, advanceCall]
      split <;> rfl
  | response =>
      simp only [advance, advanceResponse]
      split <;> rfl

/-- Only making the response changes the response. -/
theorem response_advance
    {step : Step World}
    (different : step ≠ .response)
    (stage : Stage World) :
    (lastStage (advance database verifier now route stage step)).response =
      stage.response := by
  cases step with
  | response => exact absurd rfl different
  | sender =>
      simp only [advance, advanceSender]
      split <;> rfl
  | hook phase hook =>
      simp only [advance, advanceHook]
      split <;> rfl
  | guard guard =>
      simp only [advance, advanceHook]
      split <;> rfl
  | validation =>
      simp only [advance, advanceValidation]
      split <;> rfl
  | call =>
      simp only [advance, advanceCall]
      split <;> rfl

/-- Hooks leave the values of the sections alone. -/
theorem sections_of_hookSteps
    {phase : Phase}
    {stage last : Stage World}
    (finished : (hookSteps route phase).foldlM (advance database verifier now route) stage =
      .ok last) :
    last.sections = stage.sections := by
  have kept := last_foldlM_of_kept (advance database verifier now route) Stage.sections
    (fun stage step (member : step ∈ hookSteps route phase) => by
      obtain ⟨hook, -, rfl⟩ := List.mem_map.mp member
      exact sections_advance database verifier now route (by simp) stage)
    stage
  rw [finished] at kept
  exact kept

/-- Serving a request realizes the steps up to the response. -/
theorem realizes_serve (stage : Stage World) :
    Realizes (advance database verifier now route) (servingSteps route)
      stage (serve database verifier now route)
      fun last => last.response.getD .internalError := by
  have onRequest := realizes_runHooks database verifier now route .onRequest
    (route.hooksFor .onRequest)
  have preValidation := realizes_runHooks database verifier now route .preValidation
    (route.hooksFor .preValidation)
  have preHandler := realizes_runHooks database verifier now route .preHandler
    (route.hooksFor .preHandler)
  have preSerialization := realizes_runHooks database verifier now route .preSerialization
    (route.hooksFor .preSerialization)
  have onSend := realizes_runHooks database verifier now route .onSend (route.hooksFor .onSend)
  have guards := realizes_runGuards database verifier now route route.guards
  have served : Realizes (advance database verifier now route)
      (hookSteps route .onRequest ++ ([.sender] ++ (route.guards.map .guard ++
        (hookSteps route .preValidation ++ ([.validation] ++ (hookSteps route .preHandler ++
          ([.call] ++ (hookSteps route .preSerialization ++
            (hookSteps route .onSend ++ [.response])))))))))
      stage (serve database verifier now route)
      fun last => last.response.getD .internalError := by
    refine (onRequest stage).bind _ fun stage _ => ?_
    refine (realizes_lookUpSender database verifier now route stage).bind _ fun stage _ => ?_
    refine (guards stage).bind _ fun stage _ => ?_
    refine (preValidation stage).bind _ fun stage _ => ?_
    refine (realizes_validate database verifier now route stage).bind _ fun validated _ => ?_
    refine (preHandler validated).bind _ fun stage finished => ?_
    rw [← sections_of_hookSteps database verifier now route finished]
    refine (realizes_callProcedure database verifier now route stage).bind _ fun stage _ => ?_
    refine (preSerialization stage).bind _ fun stage _ => ?_
    refine (onSend stage).bind _ fun stage _ => ?_
    exact realizes_respond database verifier now route stage
  simpa [servingSteps, stepsBeforeCall, stepsAfterCall, hookSteps, List.append_assoc] using served

/-- Hooks leave the response alone. -/
theorem response_of_hookSteps
    (phase : Phase)
    (stage : Stage World) :
    (lastStage ((hookSteps route phase).foldlM (advance database verifier now route)
      stage)).response = stage.response := by
  apply last_foldlM_of_kept
  intro stage step member
  obtain ⟨hook, -, rfl⟩ := List.mem_map.mp member
  exact response_advance database verifier now route (by simp) stage

/-- No step before the last one of serving makes the response. -/
theorem ne_response_of_mem
    {step : Step World}
    (member : step ∈ stepsBeforeCall route ++ (.call :: stepsAfterCall route)) :
    step ≠ .response := by
  rintro rfl
  simp [stepsBeforeCall, stepsAfterCall, hookSteps] at member

/-- A request has a response exactly if no step of serving it interrupts it. -/
theorem response_of_servingSteps
    (exchange : Exchange)
    (world : World) :
    match (servingSteps route).foldlM (advance database verifier now route)
      { exchange, world } with
    | .ok last => last.response.isSome
    | .error (_, last) => last.response = none := by
  have body := last_foldlM_of_kept (advance database verifier now route) Stage.response
    (fun stage step member =>
      response_advance database verifier now route (ne_response_of_mem route member) stage)
    { exchange, world }
  rw [servingSteps, List.foldlM_append]
  cases finished : (stepsBeforeCall route ++ (.call :: stepsAfterCall route)).foldlM
      (advance database verifier now route) { exchange, world } with
  | error halted =>
      rw [finished] at body
      exact body
  | ok stage =>
      rw [finished] at body
      have unmade : stage.response = none := body
      simp only [List.foldlM_cons, List.foldlM_nil, bind, Except.bind, advance,
        advanceResponse]
      cases stage.exchange.reply.response with
      | ok response => rfl
      | error found => exact unmade

/-- To handle a request is to follow the plan of the route. -/
theorem handle_eq
    (exchange : Exchange)
    (world : World) :
    handle database verifier now route exchange world =
      (replyOf ((plan route).foldlM (advance database verifier now route) { exchange, world }),
        { exchange := (lastStage ((plan route).foldlM (advance database verifier now route)
            { exchange, world })).exchange
          world := (lastStage ((plan route).foldlM (advance database verifier now route)
            { exchange, world })).world
          steps := begun (advance database verifier now route) (plan route)
            { exchange, world } }) := by
  have served := realizes_serve database verifier now route { exchange, world } []
  have response := response_of_servingSteps database verifier now route exchange world
  simp only [List.nil_append] at served
  rw [handle, served, plan, begun_append, List.foldlM_append]
  cases serving : (servingSteps route).foldlM (advance database verifier now route)
      { exchange, world } with
  | error halted =>
      obtain ⟨interruption, last⟩ := halted
      rw [serving] at response
      have unmade : last.response = none := response
      simp only [complete, List.append_nil, bind, Except.bind, replyOf, lastStage, unmade,
        Option.getD_none]
  | ok last =>
      rw [serving] at response
      obtain ⟨made, isMade⟩ := Option.isSome_iff_exists.mp response
      have followed := realizes_runHooks database verifier now route .onResponse
        (route.hooksFor .onResponse) last
        (begun (advance database verifier now route) (servingSteps route) { exchange, world })
      have kept := response_of_hookSteps database verifier now route .onResponse last
      simp only [complete, followUp, bind, Except.bind]
      rw [followed]
      cases after : (hookSteps route .onResponse).foldlM (advance database verifier now route)
          last with
      | ok final =>
          rw [after] at kept
          simp only [hookSteps] at after
          have response : final.response = some made := kept.trans isMade
          simp [after, hookSteps, replyOf, lastStage, isMade, response]
      | error halted =>
          rw [after] at kept
          simp only [hookSteps] at after
          have response : halted.2.response = some made := kept.trans isMade
          simp [after, hookSteps, replyOf, lastStage, isMade, response]

end Parts

end Lifecycle
end Service
end RoutineGate
