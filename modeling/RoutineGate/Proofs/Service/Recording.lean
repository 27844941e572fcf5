import RoutineGate.Proofs.Service.Plan

/-!
# Recording the calls of a database

A world can be made to record the calls of procedures that are made in it.  The record is
out of reach of hooks and guards and changes nothing that a request sees, so it tells which
calls are made while a request is handled.
-/

namespace RoutineGate

/-- The same guard with another hook for its own. -/
def RouteGuard.map {Hook Other : Type} (change : Hook → Other) :
    RouteGuard Hook → RouteGuard Other
  | .standard guard => .standard guard
  | .custom guard => .custom (change guard)

/-- The same route with other hooks. -/
def Route.map {Hook Other : Type} (change : Hook → Other) (route : Route Hook) : Route Other where
  procedure := route.procedure
  method := route.method
  path := route.path
  bindings := route.bindings
  schema := route.schema
  guardDirectives := route.guardDirectives
  hookDirectives := route.hookDirectives
  guards := route.guards.map (RouteGuard.map change)
  hooks := route.hooks.map fun entry => (entry.1, entry.2.map change)

theorem Route.hooksFor_map
    {Hook Other : Type}
    (change : Hook → Other)
    (route : Route Hook)
    (phase : Phase) :
    (route.map change).hooksFor phase = (route.hooksFor phase).map change := by
  simp only [Route.hooksFor, Route.map]
  induction route.hooks with
  | nil => rfl
  | cons entry hooks inductionHypothesis =>
      obtain ⟨other, functions⟩ := entry
      simp only [List.map_cons, List.lookup_cons]
      cases phase == other with
      | true => rfl
      | false => exact inductionHypothesis

namespace Service

/-- A call of a procedure: its name and the arguments. -/
abbrev ProcedureCall := String × List Value

/-- A world with the calls of procedures that have been made in it. -/
structure Recorded (World : Type) where
  /-- The world. -/
  world : World
  /-- The calls, in order. -/
  calls : List ProcedureCall := []

variable {World Result : Type}

/-- Does in a recorded world what is done in a world, without a call. -/
def recording (action : StateM World Result) : StateM (Recorded World) Result :=
  fun recorded =>
    let (result, world) := action recorded.world
    (result, { recorded with world })

/-- The same database in a recorded world: it records every call. -/
def recordingDatabase (database : Database.ProcedureDatabase World) :
    Database.ProcedureDatabase (Recorded World) where
  catalog := recording database.catalog
  call name arguments := fun recorded =>
    let (result, world) := database.call name arguments recorded.world
    (result, { world, calls := recorded.calls ++ [(name, arguments)] })

/-- The same hook in a recorded world. -/
def Hook.recording (hook : Hook World) : Hook (Recorded World) :=
  fun exchange => Service.recording (hook exchange)

/-- The same step in a recorded world. -/
def Step.recording : Step World → Step (Recorded World)
  | .hook phase function => .hook phase (Hook.recording function)
  | .sender => .sender
  | .guard check => .guard (check.map Hook.recording)
  | .validation => .validation
  | .call => .call
  | .response => .response

/-- The same stage in a recorded world. -/
def Stage.recording (stage : Stage World) (calls : List ProcedureCall) :
    Stage (Recorded World) where
  exchange := stage.exchange
  world := { world := stage.world, calls }
  sections := stage.sections
  response := stage.response

namespace Lifecycle

/-- The same route in a recorded world. -/
def recordingRoute (route : Route (Hook World)) : Route (Hook (Recorded World)) :=
  route.map Hook.recording

/-- The same end of a request in a recorded world. -/
def recordingEnd (calls : List ProcedureCall) :
    Except (Halt World) (Stage World) → Except (Halt (Recorded World)) (Stage (Recorded World))
  | .ok stage => .ok (stage.recording calls)
  | .error (interruption, stage) => .error (interruption, stage.recording calls)

/-- The call that invoking the procedure of a route makes: none without arguments. -/
def callsAt (route : Route (Hook World)) (stage : Stage World) : List ProcedureCall :=
  match argumentsFor route (fieldsOf stage.exchange stage.sections) with
  | .ok arguments => [(route.procedure.name, arguments)]
  | .error _ => []

/-- The calls that a step makes. -/
def callsOf (route : Route (Hook World)) (stage : Stage World) : Step World → List ProcedureCall
  | .call => callsAt route stage
  | _ => []

/-- A step other than the call makes no calls. -/
theorem callsOf_eq_nil
    {route : Route (Hook World)}
    {step : Step World}
    (different : step ≠ .call)
    (stage : Stage World) :
    callsOf route stage step = [] := by
  cases step <;> first | rfl | exact absurd rfl different

section Recording

variable (database : Database.ProcedureDatabase World) (verifier : Auth.Verifier) (now : Int)
variable (route : Route (Hook World))

/-- A recorded hook makes of a stage what the hook makes of it. -/
theorem advanceHook_recording
    (hook : Hook World)
    (stage : Stage World)
    (calls : List ProcedureCall) :
    advanceHook hook.recording (stage.recording calls) =
      recordingEnd calls (advanceHook hook stage) := by
  unfold advanceHook Hook.recording recording Stage.recording
  cases hook stage.exchange stage.world with
  | mk result world => cases result <;> rfl

theorem applyGuard_map
    (guard : RouteGuard (Hook World)) :
    applyGuard (guard.map Hook.recording) = (applyGuard guard).recording := by
  cases guard <;> rfl

/-- A recorded step makes of a stage what the step makes of it, and records its calls. -/
theorem advance_recording
    (step : Step World)
    (stage : Stage World)
    (calls : List ProcedureCall) :
    advance (recordingDatabase database) verifier now (recordingRoute route)
        (stage.recording calls) step.recording =
      recordingEnd (calls ++ callsOf route stage step)
        (advance database verifier now route stage step) := by
  cases step with
  | sender =>
      simp only [callsOf, List.append_nil, Step.recording, advance, advanceSender, Stage.recording]
      cases stage.exchange.identify verifier now <;> rfl
  | hook phase hook =>
      simp only [callsOf, List.append_nil]
      exact advanceHook_recording hook stage calls
  | guard guard =>
      simp only [callsOf, List.append_nil, Step.recording, advance, applyGuard_map]
      exact advanceHook_recording (applyGuard guard) stage calls
  | validation =>
      simp only [callsOf, List.append_nil, Step.recording, advance, advanceValidation,
        Stage.recording, recordingRoute, Route.map]
      cases (readSections route.schema stage.exchange).bind (validateSections route.schema) <;> rfl
  | response =>
      simp only [callsOf, List.append_nil, Step.recording, advance, advanceResponse,
        Stage.recording]
      cases stage.exchange.reply.response <;> rfl
  | call =>
      have sameArguments : argumentsFor (recordingRoute route) =
        argumentsFor route := rfl
      simp only [Step.recording, advance, advanceCall, callsOf, callsAt, invokeRoute,
        sameArguments, Stage.recording]
      cases argumentsFor route (fieldsOf stage.exchange stage.sections) with
      | error problem =>
          simp only [pure, StateT.pure, List.append_nil]
          rfl
      | ok arguments =>
          simp only [recordingDatabase, recordingRoute, Route.map, bind, StateT.bind, pure,
            StateT.pure]
          cases database.call route.procedure.name arguments stage.world with
          | mk result world =>
              cases answered : answerOf route.procedure.name result <;> simp [answered] <;> rfl

/-- Following recorded steps comes to what following the steps comes to. -/
theorem foldlM_recording
    (steps : List (Step World))
    (stage : Stage World)
    (calls : List ProcedureCall) :
    (steps.map Step.recording).foldlM
        (advance (recordingDatabase database) verifier now (recordingRoute route))
        (stage.recording calls) =
      recordingEnd
        (calls ++ observed (advance database verifier now route) (callsOf route) steps stage)
        (steps.foldlM (advance database verifier now route) stage) := by
  induction steps generalizing stage calls with
  | nil => simp only [observed, List.append_nil]; rfl
  | cons step steps inductionHypothesis =>
      rw [List.map_cons, List.foldlM_cons, List.foldlM_cons, advance_recording, observed]
      cases advance database verifier now route stage step with
      | error halted =>
          obtain ⟨interruption, last⟩ := halted
          simp only [List.append_nil]
          rfl
      | ok next =>
          rw [← List.append_assoc]
          exact inductionHypothesis next _

theorem hookSteps_recording
    (phase : Phase) :
    hookSteps (recordingRoute route) phase =
      (hookSteps route phase).map Step.recording := by
  simp only [hookSteps, recordingRoute, Route.hooksFor_map, List.map_map]
  rfl

/-- The recorded route has the recorded plan. -/
theorem plan_recording :
    plan (recordingRoute route) = (plan route).map Step.recording := by
  have guards : (recordingRoute route).guards.map Step.guard =
      (route.guards.map Step.guard).map Step.recording := by
    simp only [recordingRoute, Route.map, List.map_map]
    rfl
  simp only [plan, servingSteps, stepsBeforeCall, stepsAfterCall, hookSteps_recording, guards,
    List.map_append, List.map_cons, List.map_nil]
  rfl

theorem lastStage_recordingEnd
    (calls : List ProcedureCall)
    (outcome : Except (Halt World) (Stage World)) :
    lastStage (recordingEnd calls outcome) = (lastStage outcome).recording calls := by
  cases outcome <;> rfl

theorem replyOf_recordingEnd
    (calls : List ProcedureCall)
    (outcome : Except (Halt World) (Stage World)) :
    replyOf (recordingEnd calls outcome) = replyOf outcome := by
  cases outcome <;> rfl

/-- How a request is handled in a recorded world without earlier calls. -/
def handleRecording (exchange : Exchange) (world : World) :
    Http.Response × Progress (Recorded World) :=
  handle (recordingDatabase database) verifier now (recordingRoute route) exchange { world }

/-- The calls that are made while a request is handled. -/
def callsDuring (exchange : Exchange) (world : World) : List ProcedureCall :=
  (handleRecording database verifier now route exchange world).2.world.calls

/-- In a recorded world a request is handled as without the record. -/
theorem handleRecording_eq
    (exchange : Exchange)
    (world : World) :
    (handleRecording database verifier now route exchange world).1 =
        (handle database verifier now route exchange world).1 ∧
      (handleRecording database verifier now route exchange world).2.exchange =
        (handle database verifier now route exchange world).2.exchange ∧
      (handleRecording database verifier now route exchange world).2.world =
        { world := (handle database verifier now route exchange world).2.world
          calls := observed (advance database verifier now route) (callsOf route) (plan route)
            { exchange, world } } := by
  have followed := foldlM_recording database verifier now route (plan route)
    { exchange, world } []
  rw [List.nil_append] at followed
  have start : Stage.recording ({ exchange, world } : Stage World) [] =
    { exchange, world := { world } } := rfl
  rw [start] at followed
  simp [handleRecording, handle_eq, plan_recording, followed, lastStage_recordingEnd,
    replyOf_recordingEnd, Stage.recording]

/-- No step before the call is the call. -/
theorem ne_call_of_mem_stepsBeforeCall
    {step : Step World}
    (member : step ∈ stepsBeforeCall route) :
    step ≠ .call := by
  rintro rfl
  simp [stepsBeforeCall, hookSteps] at member

/-- No step after the call is the call. -/
theorem ne_call_of_mem_after
    {step : Step World}
    (member : step ∈ stepsAfterCall route ++ (.response :: hookSteps route .onResponse)) :
    step ≠ .call := by
  rintro rfl
  simp [stepsAfterCall, hookSteps] at member

/-- The call is planned once. -/
theorem plan_eq :
    plan route = stepsBeforeCall route ++
      (.call :: (stepsAfterCall route ++ (.response :: hookSteps route .onResponse))) := by
  simp [plan, servingSteps]

/--
The procedure of the route is called once if all steps before the call finish and its
arguments are bound, and nothing is called otherwise.
-/
theorem callsDuring_eq
    (exchange : Exchange)
    (world : World) :
    callsDuring database verifier now route exchange world =
      match (stepsBeforeCall route).foldlM (advance database verifier now route)
        { exchange, world } with
      | .ok stage => callsAt route stage
      | .error _ => [] := by
  have silentBefore : ∀ stage, ∀ step ∈ stepsBeforeCall route, callsOf route stage step = [] :=
    fun stage step member => callsOf_eq_nil (ne_call_of_mem_stepsBeforeCall route member) stage
  have silentAfter : ∀ stage, ∀ step ∈ stepsAfterCall route ++
      (.response :: hookSteps route .onResponse), callsOf route stage step = [] :=
    fun stage step member => callsOf_eq_nil (ne_call_of_mem_after route member) stage
  have before := observed_of_silent (advance database verifier now route) silentBefore
  have after := observed_of_silent (advance database verifier now route) silentAfter
  obtain ⟨-, -, recorded⟩ := handleRecording_eq database verifier now route exchange world
  rw [callsDuring, recorded, plan_eq, observed_append, before, List.nil_append]
  cases (stepsBeforeCall route).foldlM (advance database verifier now route)
      { exchange, world } with
  | error halted => rfl
  | ok stage =>
      simp only [observed, callsOf]
      cases advance database verifier now route stage .call with
      | error halted => rw [List.append_nil]
      | ok next => simp only [after next, List.append_nil]

end Recording

end Lifecycle
end Service
end RoutineGate
