import RoutineGate.Call.Answer
import RoutineGate.Database.Connection
import RoutineGate.Route.Basic

/-!
# Invocations

The procedure of a route is called with the arguments that its bindings find, and what it
returns is the answer.
-/

namespace RoutineGate
namespace Service

/-- Why an invocation gives no answer. -/
inductive InvocationError where
  /-- The arguments cannot be bound. -/
  | binding (error : Call.BindingError)
  /-- The call fails. -/
  | failure (failure : Call.Failure)
  /-- The invocation fails unexpectedly. -/
  | fault (fault : Fault)
  deriving DecidableEq, Repr

namespace InvocationError

def message : InvocationError → String
  | .binding error => error.message
  | .failure found => found.message
  | .fault found => found.message

/-- The error for a failed call. -/
def ofCause (procedure : String) (cause : Call.FailureCause) : InvocationError :=
  match Call.Failure.of procedure cause with
  | .ok found => .failure found
  | .error found => .fault found

end InvocationError

variable {World Hook : Type}

/-- The answer of a procedure from what calling it gives. -/
def answerOf (procedure : String) :
    Except Call.FailureCause (List Value) → Except InvocationError Call.Answer
  | .ok results => (Call.demultiplex results).mapError .fault
  | .error cause => .error (.ofCause procedure cause)

/-- The bindings of a route under the names of their parameters. -/
def bindingsByName (route : Route Hook) : List (String × Call.Binding) :=
  route.bindings.map fun binding => (binding.name, binding)

/-- The arguments for the procedure of a route. -/
def argumentsFor (route : Route Hook) (fields : Call.Fields) :
    Except Call.BindingError (List Value) :=
  Call.bindArguments route.procedure.name route.procedure.parameters (bindingsByName route) fields

/-- Invokes the procedure of a route. -/
def invokeRoute (database : Database.ProcedureDatabase World) (route : Route Hook)
    (fields : Call.Fields) : StateM World (Except InvocationError Call.Answer) := do
  match argumentsFor route fields with
  | .error error => return .error (.binding error)
  | .ok arguments =>
      return answerOf route.procedure.name (← database.call route.procedure.name arguments)

/-- The routes under the names of their procedures; of equal names the last one counts. -/
def routesByName (table : RouteTable Hook) : List (String × Route Hook) :=
  Value.gather (table.routes.map fun route => (route.procedure.name, route))

/-- Invokes a procedure by its name. -/
def invoke (database : Database.ProcedureDatabase World) (table : RouteTable Hook)
    (name : String) (fields : Call.Fields) :
    StateM World (Except InvocationError Call.Answer) :=
  match (routesByName table).lookup name with
  | some route => invokeRoute database route fields
  | none => return .error (.fault (.unknownProcedure name))

end Service
end RoutineGate
