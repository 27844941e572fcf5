import RoutineGate.Proofs.Call.Signal
import RoutineGate.Proofs.Service.Dispatch

/-!
# Failed calls

Invoking the procedure of a route whose call fails ends with this failure: it names the procedure
and the cause, and what the cause signals.  Only a signal with digits for its status that are no
numeral puts a fault in the place of the failure.
-/

namespace RoutineGate
namespace Call

namespace FailureCause

/-- The text that a cause signals, if it has the state of a signal. -/
def signal? : FailureCause → Option String
  | .database error =>
      if applicationClass.toList.isPrefixOf error.state.toList then some error.text else none
  | .other _ => none

/-- A cause tells an application error. -/
def Tells (cause : FailureCause) (error : ApplicationError) : Prop :=
  ∃ content, cause.signal? = some content ∧ ApplicationError.Tells content.toList error

/-- A cause breaks the reading of what it signals. -/
def Breaks (cause : FailureCause) (fault : Fault) : Prop :=
  ∃ content, cause.signal? = some content ∧ ApplicationError.Breaks content.toList fault

theorem applicationError_eq (cause : FailureCause) :
    cause.applicationError =
      match cause.signal? with
      | some content => ApplicationError.read content
      | none => .ok none := by
  cases cause with
  | other fault => rfl
  | database error =>
      rw [applicationError, signal?]
      split <;> rfl

/-- Exactly the application error that a cause tells is found. -/
theorem applicationError_eq_some_iff
    {cause : FailureCause}
    {error : ApplicationError} :
    cause.applicationError = .ok (some error) ↔ cause.Tells error := by
  rw [applicationError_eq, Tells]
  cases cause.signal? with
  | none => simp
  | some content => simp [ApplicationError.read_eq_some_iff]

/-- Looking for an application error fails exactly if the cause breaks it. -/
theorem applicationError_eq_error_iff
    {cause : FailureCause}
    {fault : Fault} :
    cause.applicationError = .error fault ↔ cause.Breaks fault := by
  rw [applicationError_eq, Breaks]
  cases cause.signal? with
  | none => simp
  | some content => simp [ApplicationError.read_eq_error_iff]

end FailureCause

/-- A failure is that of a call for a cause, with what the cause tells. -/
structure Failure.IsOf (failure : Failure) (procedure : String) (cause : FailureCause) :
    Prop where
  procedure_eq : failure.procedure = procedure
  cause_eq : failure.cause = cause
  /-- The application error is the one that the cause tells, if it tells one. -/
  applicationError_iff : ∀ error, failure.applicationError = some error ↔ cause.Tells error

/-- The failure of a call is that for its cause. -/
theorem Failure.isOf_of_eq_ok
    {procedure : String}
    {cause : FailureCause}
    {failure : Failure}
    (found : Failure.of procedure cause = .ok failure) :
    failure.IsOf procedure cause := by
  obtain ⟨told, known, rfl⟩ := map_eq_ok_iff.mp found
  refine ⟨rfl, rfl, fun error => ?_⟩
  rw [← FailureCause.applicationError_eq_some_iff, known, Except.ok.injEq]

theorem Failure.of_eq_error_iff
    {procedure : String}
    {cause : FailureCause}
    {fault : Fault} :
    Failure.of procedure cause = .error fault ↔ cause.Breaks fault := by
  rw [Failure.of, map_eq_error_iff, FailureCause.applicationError_eq_error_iff]

end Call

namespace Service

/-- An invocation ends with the failure of its call. -/
def EndsWithFailure (procedure : String) (cause : Call.FailureCause)
    (result : Except InvocationError Call.Answer) : Prop :=
  ∃ failure : Call.Failure, result = .error (.failure failure) ∧ failure.IsOf procedure cause

variable {World Hook : Type}

/-- What comes of a cause is the failure for it, or the fault that it breaks the reading with. -/
theorem endsWithFailure_or_breaks
    (procedure : String)
    (cause : Call.FailureCause) :
    EndsWithFailure procedure cause (.error (.ofCause procedure cause)) ∧
        (∀ fault, ¬cause.Breaks fault) ∨
      ∃ fault, InvocationError.ofCause procedure cause = .fault fault ∧ cause.Breaks fault := by
  cases found : Call.Failure.of procedure cause with
  | ok failure =>
      left
      refine ⟨⟨failure, ?_, Call.Failure.isOf_of_eq_ok found⟩, fun fault breaks => ?_⟩
      · rw [InvocationError.ofCause, found]
      · rw [Call.Failure.of_eq_error_iff.mpr breaks] at found
        contradiction
  | error fault =>
      right
      refine ⟨fault, ?_, Call.Failure.of_eq_error_iff.mp found⟩
      rw [InvocationError.ofCause, found]

section Invocation

variable {context : CompileContext Hook} {procedures : List Procedure} {table : RouteTable Hook}
variable (compiled : RouteTable.compile context procedures = .ok table)
variable {route : Route Hook} (member : route ∈ table.routes)
variable {database : Database.ProcedureDatabase World} {fields : Call.Fields}
variable {arguments : List Value} (bound : argumentsFor route fields = .ok arguments)
variable {world after : World} {cause : Call.FailureCause}
variable (failed : database.call route.procedure.name arguments world = (.error cause, after))

include compiled member bound failed

/-- What becomes of invoking the procedure of a compiled route whose call fails. -/
theorem invoke_of_failed :
    invoke database table route.procedure.name fields world =
      (.error (.ofCause route.procedure.name cause), after) := by
  rw [invoke_of_mem compiled member]
  simp only [invokeRoute, bound, bind, StateT.bind, failed]
  rfl

/--
If the call of a compiled route fails, invoking its procedure ends with this failure exactly if
the cause does not break the reading of what it signals; otherwise with the fault that it breaks
it with.
-/
theorem endsWithFailure_iff_of_compile :
    (EndsWithFailure route.procedure.name cause
        (invoke database table route.procedure.name fields world).1 ↔
      ∀ fault, ¬cause.Breaks fault) ∧
    (∀ fault, cause.Breaks fault →
      (invoke database table route.procedure.name fields world).1 = .error (.fault fault)) ∧
    (invoke database table route.procedure.name fields world).2 = after := by
  rw [invoke_of_failed compiled member bound failed]
  obtain ⟨ends, whole⟩ | ⟨fault, broken, breaks⟩ :=
    endsWithFailure_or_breaks route.procedure.name cause
  · exact ⟨iff_of_true ends whole, fun fault breaks => absurd breaks (whole fault), rfl⟩
  · refine ⟨iff_of_false ?_ fun whole => whole fault breaks, fun other otherBreaks => ?_, rfl⟩
    · rw [broken]
      rintro ⟨failure, same, -⟩
      simp at same
    · have unique : other = fault := by
        have first := Call.FailureCause.applicationError_eq_error_iff.mpr breaks
        rw [Call.FailureCause.applicationError_eq_error_iff.mpr otherBreaks] at first
        exact Except.error.inj first
      rw [broken, unique]

end Invocation

/-! ## A procedure whose call fails -/

/-- A procedure without parameters. -/
def usersProcedure : Procedure where
  name := "api_get_users"
  definition := none

/-- A database that fails every call for the same cause. -/
def failingDatabase (cause : Call.FailureCause) : Database.ProcedureDatabase Unit where
  catalog := return .ok []
  call _ _ := return .error cause

/-- A signal with a text. -/
def signalOf (content : String) : Call.FailureCause :=
  .database { state := Database.DatabaseError.signalState, text := content }

/-- The procedure is compiled, and its call takes no arguments. -/
theorem exists_usersRoute :
    ∃ table, RouteTable.compile ({} : CompileContext Unit) [usersProcedure] = .ok table ∧
      ∃ route ∈ table.routes, argumentsFor route {} = .ok [] := by
  have parameters : (RouteTable.compile ({} : CompileContext Unit) [usersProcedure]).toOption.map
      (fun table => table.routes.map fun route => route.procedure.parameters) = some [[]] := by
    decide +kernel
  obtain ⟨table, compiled, parameters⟩ := exists_ok_of_toOption_map parameters
  obtain ⟨route, routes, none⟩ := List.map_eq_singleton_iff.mp parameters
  refine ⟨table, compiled, route, by simp [routes], ?_⟩
  rw [argumentsFor, none]
  rfl

/-- The failure with a well-formed signal is told, though its status mixes scripts. -/
theorem endsWithFailure_missingUser :
    ∃ table, RouteTable.compile ({} : CompileContext Unit) [usersProcedure] = .ok table ∧
      ∃ route ∈ table.routes, argumentsFor route {} = .ok [] ∧
        EndsWithFailure route.procedure.name (signalOf "4٠4|general|USER|none|here")
          (invoke (failingDatabase (signalOf "4٠4|general|USER|none|here")) table
            route.procedure.name {} ()).1 := by
  obtain ⟨table, compiled, route, member, bound⟩ := exists_usersRoute
  refine ⟨table, compiled, route, member, bound, ?_⟩
  have failed : (failingDatabase (signalOf "4٠4|general|USER|none|here")).call
      route.procedure.name [] () = (.error (signalOf "4٠4|general|USER|none|here"), ()) := rfl
  refine (endsWithFailure_iff_of_compile compiled member bound failed).1.mpr ?_
  intro fault breaks
  have read : Call.FailureCause.applicationError (signalOf "4٠4|general|USER|none|here") =
      .ok (some { status := 404, type := .general, code := "USER", message := "none|here" }) := by
    decide +kernel
  rw [Call.FailureCause.applicationError_eq_error_iff.mpr breaks] at read
  contradiction

/-- A digit that is not decimal as the status of a signal hides the failure of the call. -/
theorem not_endsWithFailure_squaredStatus :
    ∃ table, RouteTable.compile ({} : CompileContext Unit) [usersProcedure] = .ok table ∧
      ∃ route ∈ table.routes, argumentsFor route {} = .ok [] ∧
        ¬EndsWithFailure route.procedure.name (signalOf "²|general|c|m")
          (invoke (failingDatabase (signalOf "²|general|c|m")) table
            route.procedure.name {} ()).1 := by
  obtain ⟨table, compiled, route, member, bound⟩ := exists_usersRoute
  refine ⟨table, compiled, route, member, bound, ?_⟩
  have broken : (signalOf "²|general|c|m").applicationError =
      .error (.integer (.malformed "²")) := by
    decide +kernel
  have failed : (failingDatabase (signalOf "²|general|c|m")).call route.procedure.name [] () =
      (.error (signalOf "²|general|c|m"), ()) := rfl
  rw [invoke_of_failed compiled member bound failed, InvocationError.ofCause, Call.Failure.of,
    broken]
  rintro ⟨failure, same, -⟩
  simp [Except.map] at same

end Service
end RoutineGate
