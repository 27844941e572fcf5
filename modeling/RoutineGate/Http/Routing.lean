import RoutineGate.Http.PathPattern
import RoutineGate.Http.Request
import RoutineGate.Text.Blank

/-!
# Routing

Endpoints are tried in order: the first one with the method and the path of a request gets
it.  If only the path fits, the method is not allowed; if a path fits that differs by
slashes at its end, the client is sent there.
-/

namespace RoutineGate
namespace Http

/-- Something that is served. -/
structure Endpoint (Target : Type) where
  method : String
  pattern : PathPattern
  target : Target

namespace Endpoint

variable {Target : Type}

/-- The parameters of a path under which something is served. -/
def matchPath? (endpoint : Endpoint Target) (path : String) : Option (List (String × Value)) :=
  endpoint.pattern.match? path.toList

/-- What is served under a method and a path, with the parameters of the path. -/
def serve? (method path : String) (endpoint : Endpoint Target) :
    Option (Target × List (String × Value)) :=
  if endpoint.method = method then
    (endpoint.matchPath? path).map fun parameters => (endpoint.target, parameters)
  else none

end Endpoint

/-- Where a request goes. -/
inductive Destination (Target : Type) where
  /-- To what is served there, with the parameters of the path. -/
  | target (target : Target) (parameters : List (String × Value))
  /-- Nowhere, as another method is expected. -/
  | otherMethod (method : String)
  /-- To another path. -/
  | otherPath (path : String)
  /-- Nowhere, as nothing is served there. -/
  | nowhere

/-- The path that differs by slashes at its end; the shortest path has none. -/
def otherPath? (path : String) : Option String :=
  if path = "/" then none
  else if path.toList.getLast? = some '/' then
    some (String.ofList (Text.dropWhileEnd (· = '/') path.toList))
  else some (path ++ "/")

variable {Target : Type}

/-- Whether something is served under a path. -/
def isServed (endpoints : List (Endpoint Target)) (path : String) : Bool :=
  endpoints.any fun endpoint => (endpoint.matchPath? path).isSome

/-- Where a request goes that no endpoint serves. -/
def misdirected (endpoints : List (Endpoint Target)) (path : String) : Destination Target :=
  match endpoints.find? fun endpoint => (endpoint.matchPath? path).isSome with
  | some endpoint => .otherMethod endpoint.method
  | none =>
      match (otherPath? path).filter (isServed endpoints) with
      | some other => .otherPath other
      | none => .nowhere

/-- Where a request with a method and a path goes. -/
def dispatch (endpoints : List (Endpoint Target)) (method path : String) :
    Destination Target :=
  match endpoints.findSome? (Endpoint.serve? method path) with
  | some (target, parameters) => .target target parameters
  | none => misdirected endpoints path

/-- The host under which an application without another name is served. -/
def defaultHost : String := "testserver"

/-- Whether a character stands for itself in an address. -/
def isAddressChar (char : Char) : Bool :=
  char.isAlphanum || "_.-~:/%#?=@[]!$&'()*+,;".toList.contains char

/-- The address of a path under the host and with the query of a request. -/
def addressOf (request : Request) (path : String) : String :=
  let host := (request.header? "host").getD defaultHost
  let query :=
    if request.query.isEmpty then [] else '?' :: Text.decodeUtf8Leniently request.query
  String.ofList <|
    Text.percentEncode isAddressChar ("http://".toList ++ host.toList ++ path.toList ++ query)

/-- An earlier endpoint that serves a request gets it. -/
theorem dispatch_cons_of_serve?
    {endpoint : Endpoint Target}
    {method path : String}
    {target : Target}
    {parameters : List (String × Value)}
    (served : endpoint.serve? method path = some (target, parameters))
    (endpoints : List (Endpoint Target)) :
    dispatch (endpoint :: endpoints) method path = .target target parameters := by
  simp [dispatch, served]

end Http
end RoutineGate
