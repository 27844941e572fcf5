import RoutineGate.Http.Request
import RoutineGate.Http.Response
import RoutineGate.Json.Payload
import RoutineGate.Service.Invocation

/-!
# Exchanges

An exchange is a request with the reply in the making.  Hooks see and change it, and may
interrupt it; what interrupts an exchange decides the response.
-/

namespace RoutineGate
namespace Service

/-- A reply in the making. -/
structure Reply where
  status : Int := 200
  /-- What the body of the response is made of. -/
  payload : Value := .null
  headers : List (String × String) := []

namespace Reply

/-- Sets a header. -/
def setHeader (reply : Reply) (name value : String) : Reply :=
  { reply with headers := Value.put name value reply.headers }

def response (reply : Reply) : Except Fault Http.Response :=
  Http.Response.ofValue reply.status (Json.payload reply.payload) reply.headers

end Reply

/-- A request with the reply in the making. -/
structure Exchange where
  request : Http.Request
  /-- The name of the procedure that serves the request. -/
  procedure : String
  pathParameters : List (String × Value) := []
  /-- The data that hooks have put aside. -/
  data : List (String × Value) := []
  /-- What is known about the sender, once it is looked up. -/
  context : Option Auth.Context := none
  reply : Reply := {}

namespace Exchange

/-- What is known about the sender. -/
def sender (exchange : Exchange) : Auth.Context :=
  exchange.context.getD .anonymous

/-- Puts a value aside for the procedure. -/
def putData (exchange : Exchange) (name : String) (value : Value) : Exchange :=
  { exchange with data := Value.put name value exchange.data }

def mapReply (exchange : Exchange) (change : Reply → Reply) : Exchange :=
  { exchange with reply := change exchange.reply }

end Exchange

/-- What interrupts an exchange. -/
inductive Interruption where
  /-- The request is refused. -/
  | rejection (rejection : Http.Rejection)
  /-- Sections of the request have issues. -/
  | invalid (issues : List (Request.Section × Schema.Issue))
  /-- The procedure gives no answer. -/
  | invocation (error : InvocationError)
  /-- A step fails unexpectedly. -/
  | fault (fault : Fault)

namespace Interruption

/-- A place in a response. -/
def placeValue : Schema.Place → Value
  | .key name => .text name
  | .index position => .int position

/-- An issue of a section in a response. -/
def issueValue (issue : Request.Section × Schema.Issue) : Value :=
  .record [("type", .text issue.2.violation.code),
    ("loc", .list (.text issue.1.name :: issue.2.location.map placeValue)),
    ("msg", .text issue.2.message)]

/-- The body that tells issues. -/
def issuesBody (issues : List (Request.Section × Schema.Issue)) : Value :=
  .record [("message", .text "Validation error"), ("errors", .list (issues.map issueValue))]

/-- The status of a request with issues. -/
def invalidStatus : Int := 400

def response : Interruption → Http.Response
  | .rejection found => found.response
  | .invalid issues => .ofValueOrInternal invalidStatus (issuesBody issues)
  | .invocation (.failure found) =>
      match found.applicationError with
      | some error => .ofValueOrInternal error.status error.payload
      | none => .internalError
  | .invocation _ => .internalError
  | .fault _ => .internalError

end Interruption

/-- Changes an exchange or interrupts it, in a world that it may change. -/
abbrev Hook (World : Type) := Exchange → StateM World (Except Interruption Exchange)

namespace Hook

variable {World : Type}

/-- The hook that only changes the exchange. -/
def ofChange (change : Exchange → Exchange) : Hook World :=
  fun exchange => return .ok (change exchange)

/-- The hook that always interrupts the exchange. -/
def interrupting (interruption : Interruption) : Hook World :=
  fun _ => return .error interruption

end Hook
end Service
end RoutineGate
