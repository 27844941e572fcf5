import RoutineGate.Auth.Token
import RoutineGate.Service.Sections

/-!
# The lifecycle of a request

A request passes through fixed steps: hooks, the look-up of its sender, guards, hooks,
validation, hooks, the call, hooks, and the response, after which further hooks run.  The
first step that interrupts it ends it, so a request that a guard rejects or whose sections
are not valid never reaches the database.
-/

namespace RoutineGate
namespace Service

/-- The exchange with what the token of its request tells at some time about the sender. -/
def Exchange.identify (verifier : Auth.Verifier) (now : Numeral) (exchange : Exchange) :
    Except Fault Exchange :=
  let header := (exchange.request.header? "authorization").getD ""
  (verifier.identify now header).map fun context => { exchange with context := some context }

/-- A step of the lifecycle. -/
inductive Step (World : Type) where
  /-- A hook of a phase runs. -/
  | hook (phase : Phase) (hook : Hook World)
  /-- The sender is looked up. -/
  | sender
  /-- A guard decides. -/
  | guard (guard : RouteGuard (Hook World))
  /-- The sections are read and validated. -/
  | validation
  /-- The procedure is called. -/
  | call
  /-- The response is made. -/
  | response

/-- How far a request has come. -/
structure Progress (World : Type) where
  exchange : Exchange
  world : World
  /-- The steps that have been begun, in order. -/
  steps : List (Step World) := []

/-- Computes while a request passes through steps, unless one of them interrupts it. -/
abbrev Lifecycle (World : Type) := ExceptT Interruption (StateM (Progress World))

namespace Lifecycle

variable {World Result : Type}

/-- Performs a step. -/
def perform (step : Step World)
    (action : Exchange → StateM World (Except Interruption (Result × Exchange))) :
    Lifecycle World Result :=
  ExceptT.mk fun progress =>
    let steps := progress.steps ++ [step]
    match action progress.exchange progress.world with
    | (.ok (result, exchange), world) => (.ok result, { exchange, world, steps })
    | (.error interruption, world) => (.error interruption, { progress with world, steps })

/-- Performs a step that only changes the exchange. -/
def change (step : Step World) (action : Exchange → Except Interruption Exchange) :
    Lifecycle World Unit :=
  perform step fun exchange => return (action exchange).map (Prod.mk ())

/-- Performs a step that only looks at the exchange. -/
def inspect (step : Step World) (action : Exchange → Except Interruption Result) :
    Lifecycle World Result :=
  perform step fun exchange => return (action exchange).map fun result => (result, exchange)

/-- Performs a step that is a hook. -/
def runHook (step : Step World) (hook : Hook World) : Lifecycle World Unit :=
  perform step fun exchange => do
    return (← hook exchange).map (Prod.mk ())

/-- Runs hooks of a phase one after the other. -/
def runHooks (phase : Phase) : List (Hook World) → Lifecycle World Unit
  | [] => return
  | hook :: hooks => do
      runHook (.hook phase hook) hook
      runHooks phase hooks

def lookUpSender (verifier : Auth.Verifier) (now : Int) : Lifecycle World Unit :=
  change .sender fun exchange => (exchange.identify verifier now).mapError .fault

/-- What a guard's verdict on an exchange comes to. -/
def obey : Auth.Verdict → Except Interruption Unit
  | .pass => .ok ()
  | .unauthorized => .error (.rejection .unauthorized)
  | .forbidden => .error (.rejection .forbidden)
  | .fault found => .error (.fault found)

/-- What a guard makes of an exchange. -/
def applyGuard : RouteGuard (Hook World) → Hook World
  | .standard guard => fun exchange =>
      return (obey (guard.check exchange.sender)).map fun () => exchange
  | .custom guard => guard

/-- Lets guards decide one after the other. -/
def runGuards : List (RouteGuard (Hook World)) → Lifecycle World Unit
  | [] => return
  | guard :: guards => do
      runHook (.guard guard) (applyGuard guard)
      runGuards guards

/-- Reads and validates the sections of a request. -/
def validate (schema : Request.RequestSchema) : Lifecycle World SectionValues :=
  inspect .validation fun exchange =>
    (readSections schema exchange).bind (validateSections schema)

/-- The exchange with an answer as its reply. -/
def takeAnswer (exchange : Exchange) (answer : Call.Answer) : Unit × Exchange :=
  ((), exchange.mapReply fun reply =>
    { reply with status := answer.status, payload := answer.payload })

/-- Calls the procedure of a route; its answer becomes the reply. -/
def callProcedure (database : Database.ProcedureDatabase World) (route : Route (Hook World))
    (sections : SectionValues) : Lifecycle World Unit :=
  perform .call fun exchange => do
    let result ← invokeRoute database route (fieldsOf exchange sections)
    return (result.map (takeAnswer exchange)).mapError .invocation

/-- Makes the response. -/
def respond : Lifecycle World Http.Response :=
  inspect .response fun exchange => exchange.reply.response.mapError .fault

/-- Serves a request up to its response. -/
def serve (database : Database.ProcedureDatabase World) (verifier : Auth.Verifier) (now : Int)
    (route : Route (Hook World)) : Lifecycle World Http.Response := do
  runHooks .onRequest (route.hooksFor .onRequest)
  lookUpSender verifier now
  runGuards route.guards
  runHooks .preValidation (route.hooksFor .preValidation)
  let sections ← validate route.schema
  runHooks .preHandler (route.hooksFor .preHandler)
  callProcedure database route sections
  runHooks .preSerialization (route.hooksFor .preSerialization)
  runHooks .onSend (route.hooksFor .onSend)
  respond

/-- Runs the hooks that follow a response, whatever becomes of them. -/
def followUp (route : Route (Hook World)) (progress : Progress World) : Progress World :=
  ((runHooks .onResponse (route.hooksFor .onResponse)).run progress).2

/-- The response to a request and how far it has come in the end. -/
def complete (route : Route (Hook World)) :
    Except Interruption Http.Response × Progress World → Http.Response × Progress World
  | (.ok response, progress) => (response, followUp route progress)
  | (.error interruption, progress) => (interruption.response, progress)

/-- Serves a request by a route, in a world. -/
def handle (database : Database.ProcedureDatabase World) (verifier : Auth.Verifier) (now : Int)
    (route : Route (Hook World)) (exchange : Exchange) (world : World) :
    Http.Response × Progress World :=
  complete route ((serve database verifier now route).run { exchange, world })

/-- The step that is performed is recorded, whether it interrupts the request or not. -/
theorem steps_perform
    (step : Step World)
    (action : Exchange → StateM World (Except Interruption (Result × Exchange)))
    (progress : Progress World) :
    ((perform step action).run progress).2.steps = progress.steps ++ [step] := by
  simp only [perform, ExceptT.run, ExceptT.mk]
  split <;> rfl

end Lifecycle
end Service
end RoutineGate
