import RoutineGate.Proofs.Json.RoundTrip
import RoutineGate.Proofs.Service.Failing
import RoutineGate.Proofs.Service.Recording
import RoutineGate.Proofs.Service.Sections
import RoutineGate.Service.Application

/-!
# What a refused call discloses

What the driver reports when it refuses a call reaches a client only as a well-formed signal, and
then the response tells what the signal declares.  All other refusals get the same response.
-/

namespace RoutineGate

namespace Database.DatabaseError

/-- Whether values that the driver reports signal an application error. -/
def Signals (values : List Value) (error : Call.ApplicationError) : Prop :=
  codeOf values = some .signal ∧ Call.ApplicationError.Tells (textOf values).toList error

theorem tells_ofDriver_iff
    {values : List Value}
    {error : Call.ApplicationError} :
    (Call.FailureCause.database (ofDriver values)).Tells error ↔ Signals values error := by
  have application : Call.applicationClass.toList.isPrefixOf (ofDriver values).state.toList =
      decide (codeOf values = some .signal) := by
    rw [ofDriver]
    dsimp only
    split
    · next signal => rw [decide_eq_true signal]; rfl
    · next other => rw [decide_eq_false other]; rfl
  simp only [Call.FailureCause.Tells, Call.FailureCause.signal?, application, Signals,
    decide_eq_true_eq]
  split
  · next signal => simp [signal, ofDriver]
  · next other => simp [other]

end Database.DatabaseError

namespace Call.ApplicationError

theorem payload_eq (error : ApplicationError) :
    error.payload = .record (
      [("error", .bool true), ("success", .bool false), ("code", .text error.code),
        ("message", .text error.message)] ++
        (error.field.map fun field => ("field", .text field)).toList) := by
  rw [payload]
  cases error.field <;> rfl

theorem isPlain_payload (error : ApplicationError) : error.payload.isPlain = true := by
  rw [payload]
  cases error.field <;> rfl

/-- The payload of an error is written, and read back from what is written. -/
theorem exists_print_payload (error : ApplicationError) :
    ∃ body, Json.print false error.payload = .ok body ∧
      Json.parse body.toList = .ok error.payload := by
  have isWritten : ∃ chars, Json.write false error.payload = .ok chars := by
    rw [payload]
    cases error.field <;> exact ⟨_, rfl⟩
  obtain ⟨chars, written⟩ := isWritten
  refine ⟨String.ofList chars, by rw [Json.print, written]; rfl, ?_⟩
  rw [String.toList_ofList]
  exact Json.parse_of_represents
    (Json.represents_of_write error.payload error.isPlain_payload written)

end Call.ApplicationError

namespace Service

open Database (DatabaseError)

/-! ## The response to a failed call -/

/-- Whether a response tells an application error and nothing else. -/
structure Declares (response : Http.Response) (error : Call.ApplicationError) : Prop where
  status_eq : response.status = error.status
  headers_eq : response.headers = [(Http.contentType, "application/json")]
  parse_body : Json.parse response.body.toList = .ok (.record (
    [("error", .bool true), ("success", .bool false), ("code", .text error.code),
      ("message", .text error.message)] ++
      (error.field.map fun field => ("field", .text field)).toList))

theorem declares_of_payload (error : Call.ApplicationError) :
    Declares (.ofValueOrInternal error.status error.payload) error := by
  obtain ⟨body, written, read⟩ := error.exists_print_payload
  have made : Http.Response.ofValueOrInternal error.status error.payload =
      { status := error.status, headers := [(Http.contentType, "application/json")], body } := by
    rw [Http.Response.ofValueOrInternal, Http.Response.ofValue, written]
    rfl
  rw [made]
  exact ⟨rfl, rfl, error.payload_eq ▸ read⟩

/-- The response to a cause that tells an application error declares it. -/
theorem declares_of_tells
    {cause : Call.FailureCause}
    {error : Call.ApplicationError}
    (tells : cause.Tells error)
    (procedure : String) :
    Declares (Interruption.invocation (.ofCause procedure cause)).response error := by
  have told := Call.FailureCause.applicationError_eq_some_iff.mpr tells
  have found : Call.Failure.of procedure cause =
      .ok { procedure, cause, applicationError := error } := by
    rw [Call.Failure.of, told]
    rfl
  rw [InvocationError.ofCause, found]
  exact declares_of_payload error

/-- The response to a cause that tells no application error is always the same. -/
theorem response_of_not_tells
    {cause : Call.FailureCause}
    (silent : ∀ error, ¬cause.Tells error)
    (procedure : String) :
    (Interruption.invocation (.ofCause procedure cause)).response = .internalError := by
  rw [InvocationError.ofCause]
  cases found : Call.Failure.of procedure cause with
  | error fault => rfl
  | ok failure =>
      have none : failure.applicationError = none := by
        refine Option.eq_none_iff_forall_ne_some.mpr fun error told => ?_
        exact silent error (((Call.Failure.isOf_of_eq_ok found).applicationError_iff error).mp told)
      simp only [Interruption.response, none]

namespace Lifecycle

variable {World : Type}

/-- A request whose invocation gives no answer is answered with what this interrupts it with. -/
theorem handle_of_invocationError
    {database : Database.ProcedureDatabase World}
    {verifier : Auth.Verifier}
    {now : Int}
    {route : Route (Hook World)}
    {exchange : Exchange}
    {world after : World}
    {stage : Stage World}
    {error : InvocationError}
    (reached : (stepsBeforeCall route).foldlM (advance database verifier now route)
      { exchange, world } = .ok stage)
    (failed : invokeRoute database route (fieldsOf stage.exchange stage.sections) stage.world =
      (.error error, after)) :
    (handle database verifier now route exchange world).1 =
      (Interruption.invocation error).response := by
  have kept := last_foldlM_of_kept (advance database verifier now route) Stage.response
    (fun stage step member => response_advance database verifier now route
      (ne_response_of_mem route (List.mem_append_left _ member)) stage)
    { exchange, world }
  rw [reached] at kept
  have unmade : stage.response = none := kept
  have called : advance database verifier now route stage .call =
      .error (.invocation error, { stage with world := after }) := by
    rw [advance, advanceCall, failed]
  rw [handle_eq, plan_eq, List.foldlM_append, reached]
  simp only [bind, Except.bind, List.foldlM_cons, called, replyOf, unmade, Option.getD_none]

end Lifecycle

/-! ## Refused calls -/

open Lifecycle (stepsBeforeCall advance)

/-- A request that an application serves at some time in a world. -/
structure Attempt (World : Type) where
  application : Application World
  now : Int
  request : Http.Request
  world : World

namespace Attempt

variable {World : Type}

/-- What the client gets. -/
def response (attempt : Attempt World) : Http.Response :=
  (attempt.application.serve attempt.now attempt.request attempt.world).1

/-- The exchange that a request for a procedure starts with. -/
def exchange (attempt : Attempt World) (procedure : String)
    (pathParameters : List (String × Value)) : Exchange :=
  { request := attempt.request, procedure, pathParameters }

/--
The procedure of a route is called for the request, and the driver refuses the call and reports
some values.
-/
inductive IsRefused (attempt : Attempt World) (route : Route (Hook World))
    (values : List Value) : Prop
  | intro
      {connection : Database.Connection World}
      {database start : String}
      {pathParameters : List (String × Value)}
      {stage : Stage World}
      {arguments : List Value}
      {after : World}
      (connected : attempt.application.database =
        Database.ofConnection connection database start)
      (directed : Http.dispatch attempt.application.endpoints attempt.request.method
        attempt.request.path = .target (.route route) pathParameters)
      (reached : (stepsBeforeCall route).foldlM
        (advance attempt.application.database attempt.application.verifier attempt.now route)
        { exchange := attempt.exchange route.procedure.name pathParameters
          world := attempt.world } = .ok stage)
      (bound : argumentsFor route (fieldsOf stage.exchange stage.sections) = .ok arguments)
      (refused : connection
        ⟨Database.callStatement route.procedure.name arguments.length, arguments⟩ stage.world =
        (.refused values, after)) :
      IsRefused attempt route values

/-- The response to a refused call is that to the failure with what the driver reports. -/
theorem response_of_isRefused
    {attempt : Attempt World}
    {route : Route (Hook World)}
    {values : List Value}
    (refused : attempt.IsRefused route values) :
    attempt.response = (Interruption.invocation
      (.ofCause route.procedure.name (.database (.ofDriver values)))).response := by
  obtain @⟨connection, database, start, _, stage, arguments, after, connected, directed, reached,
    bound, refused⟩ := refused
  rw [response, Application.serve, directed]
  have called : (Database.ofConnection connection database start).call route.procedure.name
      arguments stage.world = (.error (.database (.ofDriver values)), after) := by
    simp only [Database.ofConnection, bind, StateT.bind, refused]
    rfl
  have failed : invokeRoute attempt.application.database route
      (fieldsOf stage.exchange stage.sections) stage.world =
      (.error (.ofCause route.procedure.name (.database (.ofDriver values))), after) := by
    rw [connected]
    simp only [invokeRoute, bound, bind, StateT.bind, called]
    rfl
  exact Lifecycle.handle_of_invocationError reached failed

end Attempt

/--
Any two calls of a procedure that the driver refuses without a well-formed signal get the same
response; a well-formed signal gets the response that declares what it tells.
-/
theorem response_of_refused_calls
    {World : Type}
    (route : Route (Hook World)) :
    (∀ (first second : Attempt World) (firstValues secondValues : List Value),
      first.IsRefused route firstValues → second.IsRefused route secondValues →
      (∀ error, ¬DatabaseError.Signals firstValues error) →
      (∀ error, ¬DatabaseError.Signals secondValues error) →
      first.response = second.response) ∧
    (∀ (attempt : Attempt World) (values : List Value) (error : Call.ApplicationError),
      attempt.IsRefused route values → DatabaseError.Signals values error →
      Declares attempt.response error) := by
  have silent : ∀ {values : List Value}, (∀ error, ¬DatabaseError.Signals values error) →
      ∀ error, ¬(Call.FailureCause.database (.ofDriver values)).Tells error :=
    fun unsignalled error tells => unsignalled error (DatabaseError.tells_ofDriver_iff.mp tells)
  constructor
  · intro first second firstValues secondValues firstRefused secondRefused firstSilent secondSilent
    rw [Attempt.response_of_isRefused firstRefused, Attempt.response_of_isRefused secondRefused,
      response_of_not_tells (silent firstSilent), response_of_not_tells (silent secondSilent)]
  · intro attempt values error refused signals
    rw [Attempt.response_of_isRefused refused]
    exact declares_of_tells (DatabaseError.tells_ofDriver_iff.mpr signals) _

/-! ## A procedure whose call is refused -/

/-- An application with one route whose database refuses every call. -/
def refusingApplication (route : Route (Hook Unit)) (values : List Value) : Application Unit where
  database := Database.ofConnection (fun _ => return .refused values) "app" "api_"
  verifier := {}
  table := ⟨[route]⟩
  endpoints := [Application.fixedEndpoint .get "/users" (.route route)]
  page := Application.missingPage

/-- A request to such an application. -/
def refusedAttempt (route : Route (Hook Unit)) (values : List Value) : Attempt Unit where
  application := refusingApplication route values
  now := 0
  request := { method := "GET", path := "/users" }
  world := ()

theorem isRefused_refusedAttempt
    {route : Route (Hook Unit)}
    (noParameters : route.procedure.parameters = [])
    (unchecked : route.schema.sections = [])
    (unguarded : route.guards = [])
    (unhooked : route.hooks = [])
    (values : List Value) :
    (refusedAttempt route values).IsRefused route values := by
  have steps : stepsBeforeCall route = [.sender, .validation] := by
    simp [stepsBeforeCall, Lifecycle.hookSteps, Route.hooksFor, unguarded, unhooked]
  have served : (Application.fixedEndpoint .get "/users" (.route route)).serve? "GET" "/users" =
      some (.route route, []) := by
    rfl
  have directed : Http.dispatch (refusingApplication route values).endpoints "GET" "/users" =
      .target (.route route) [] :=
    Http.dispatch_cons_of_serve? served []
  have bound : ∀ fields, argumentsFor route fields = .ok [] := fun fields => by
    rw [argumentsFor, noParameters]
    rfl
  have reached : ∃ stage, (stepsBeforeCall route).foldlM
      (advance (refusingApplication route values).database {} 0 route)
      { exchange := (refusedAttempt route values).exchange route.procedure.name []
        world := () } = .ok stage := by
    rw [steps]
    simp only [List.foldlM_cons, advance, Lifecycle.advanceValidation, bind, Except.bind,
      readSections, readBody, Lifecycle.advanceSender, Attempt.exchange, refusedAttempt,
      Except.map, validateSections_of_sections_eq_nil unchecked]
    exact ⟨_, rfl⟩
  obtain ⟨stage, reached⟩ := reached
  exact @Attempt.IsRefused.intro Unit _ _ _ (fun _ => return .refused values) "app" "api_" _ _ _ ()
    rfl directed reached (bound _) rfl

/-- Refusals without a well-formed signal are answered alike, and one with it as it declares. -/
theorem response_of_refused_calls_users :
    ∃ route, Route.compile ({} : CompileContext (Hook Unit)) usersProcedure = .ok route ∧
      (refusedAttempt route [.int 1644, .text "²|general|USER|secret"]).response =
        (refusedAttempt route [.text "1644", .text "404|general|USER|secret"]).response ∧
      Declares (refusedAttempt route [.int 1644, .text "404|field|USER|no|user| name "]).response
        { status := 404, type := .field, code := "USER", message := "no|user",
          field := "name" } := by
  have parts : (Route.compile ({} : CompileContext (Hook Unit)) usersProcedure).toOption.map
      (fun route => (route.procedure.parameters, route.schema.sections.length,
        route.guards.length, route.hooks.length)) = some ([], 0, 0, 0) := by
    decide +kernel
  obtain ⟨route, compiled, parts⟩ := exists_ok_of_toOption_map parts
  simp only [Prod.mk.injEq, List.length_eq_zero_iff] at parts
  obtain ⟨noParameters, unchecked, unguarded, unhooked⟩ := parts
  have refused := isRefused_refusedAttempt noParameters unchecked unguarded unhooked
  obtain ⟨alike, declared⟩ := response_of_refused_calls route
  refine ⟨route, compiled, alike _ _ _ _ (refused _) (refused _) ?_ ?_,
    declared _ _ _ (refused _) ⟨by decide, ?_⟩⟩
  · rintro error ⟨-, tells⟩
    have broken : Call.ApplicationError.read "²|general|USER|secret" =
        .error (.integer (.malformed "²")) := by
      decide +kernel
    have read : Call.ApplicationError.read "²|general|USER|secret" = .ok (some error) :=
      Call.ApplicationError.read_eq_some_iff.mpr tells
    rw [broken] at read
    contradiction
  · rintro error ⟨signal, -⟩
    exact absurd signal (by decide)
  · refine Call.ApplicationError.read_eq_some_iff.mp ?_
    decide +kernel

end Service
end RoutineGate
