import RoutineGate.Json.Printer
import RoutineGate.Text.LetterCase

/-!
# Responses

A response has a status, headers and a body.  Most bodies are written as JSON, which has
no form for infinite and undefined numbers; headers are written in one byte per character.
-/

namespace RoutineGate
namespace Http

/-- A response. -/
structure Response where
  status : Int
  /-- The headers, with names in lower case. -/
  headers : List (String × String)
  body : String
  deriving DecidableEq, Repr

/-- Whether a text can be written in one byte per character. -/
def isSingleByte (content : String) : Bool :=
  content.toList.all fun char => char.toNat < 256

/-- A header as it is sent. -/
def sendHeader (header : String × String) : Except Fault (String × String) :=
  let name := Text.lower header.1
  if isSingleByte name && isSingleByte header.2 then .ok (name, header.2)
  else .error .unencodable

/-- The name of the header that tells the type of the body. -/
def contentType : String := "content-type"

/-- Adds the type of JSON unless there is a type already. -/
def withJsonType (headers : List (String × String)) : List (String × String) :=
  if (headers.lookup contentType).isSome then headers
  else headers ++ [(contentType, "application/json")]

namespace Response

/-- The response with a value as its body. -/
def ofValue (status : Int) (content : Value) (headers : List (String × String) := []) :
    Except Fault Response := do
  let body ← Json.print false content
  let headers ← headers.mapM sendHeader
  return { status, headers := withJsonType headers, body }

/-- The response to what fails unexpectedly; it tells nothing of the failure. -/
def internalError : Response where
  status := 500
  headers := [(contentType, "application/json")]
  body := "\x7b\"error\":\"Internal Server Error\"\x7d"

/-- The response with a value as its body, if it has a written form. -/
def ofValueOrInternal (status : Int) (content : Value)
    (headers : List (String × String) := []) : Response :=
  match ofValue status content headers with
  | .ok response => response
  | .error _ => internalError

/-- The response that sends a client to another address. -/
def redirect (address : String) : Response where
  status := 307
  headers := [("location", address)]
  body := ""

end Response

/-- A refusal to serve a request. -/
structure Rejection where
  status : Int
  detail : Value
  headers : List (String × String) := []

namespace Rejection

/-- The refusal of a request without a known user. -/
def unauthorized : Rejection := { status := 401, detail := .text "Unauthorized" }

/-- The refusal of a user who lacks what is asked for. -/
def forbidden : Rejection := { status := 403, detail := .text "Forbidden" }

/-- The refusal of a path that nothing is served under. -/
def notFound : Rejection := { status := 404, detail := .text "Not Found" }

/-- The refusal of a method under a path that allows another one. -/
def methodNotAllowed (allowed : String) : Rejection :=
  { status := 405, detail := .text "Method Not Allowed", headers := [("Allow", allowed)] }

/-- The refusal of a body that cannot be read. -/
def invalidBody : Rejection := { status := 400, detail := .text "Invalid JSON payload" }

/-- The response of a refusal. -/
def response (rejection : Rejection) : Response :=
  .ofValueOrInternal rejection.status (.record [("message", rejection.detail)]) rejection.headers

end Rejection
end Http
end RoutineGate
