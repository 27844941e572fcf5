import RoutineGate.Http.Query
import RoutineGate.Text.LetterCase

/-!
# Requests

A request has a method, a path, a query, headers and a body.  The names of headers are
compared without regard to case.
-/

namespace RoutineGate
namespace Http

/-- A request as it arrives. -/
structure Request where
  method : String
  /-- The path, with percent signs decoded. -/
  path : String
  /-- The query, as it was sent. -/
  query : List UInt8 := []
  headers : List (String × String) := []
  body : List UInt8 := []
  deriving DecidableEq, Repr

namespace Request

/-- The first header with a name in lower case. -/
def header? (request : Request) (name : String) : Option String :=
  (request.headers.find? fun header => Text.lower header.1 = name).map Prod.snd

/-- The headers as a record; of several ones with a name the last counts. -/
def headerRecord (request : Request) : Value :=
  .record <| Value.gather <| request.headers.map fun header =>
    (Text.lower header.1, .text header.2)

/-- The names and values in the query, in order. -/
def parameters (request : Request) : List (String × String) :=
  queryParameters request.query

end Request
end Http
end RoutineGate
