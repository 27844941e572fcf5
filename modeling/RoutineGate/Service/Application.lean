import RoutineGate.Http.Routing
import RoutineGate.Service.Lifecycle

/-!
# Applications

An application compiles the procedures of a database when it starts, and serves them after
the pages of its framework and an endpoint that tells that it is alive.  It starts completely
or not at all.
-/

namespace RoutineGate
namespace Service

/-- What is served under an endpoint. -/
inductive Target (World : Type) where
  /-- The framework describes the application on a page of its own. -/
  | page (path : String)
  /-- The application tells that it is alive. -/
  | health
  /-- A procedure is called. -/
  | route (route : Route (Hook World))

/-- Why an application does not start. -/
inductive StartError where
  /-- The catalog cannot be read. -/
  | catalog (cause : Call.FailureCause)
  /-- A procedure cannot be compiled. -/
  | compile (failure : CompileFailure)
  /-- The path of a route cannot be used. -/
  | pattern (problem : Http.PatternProblem)
  deriving DecidableEq, Repr

/-- An application that has started. -/
structure Application (World : Type) where
  database : Database.ProcedureDatabase World
  /-- What tokens are checked with. -/
  verifier : Auth.Verifier
  table : RouteTable (Hook World)
  /-- The endpoints, in the order in which they are tried. -/
  endpoints : List (Http.Endpoint (Target World))
  /-- What the framework answers on its pages. -/
  page : String → Http.Response

namespace Application

variable {World : Type}

/-- The path under which an application tells that it is alive. -/
def healthPath : String := "/health"

/-- The paths of the pages on which the framework describes an application. -/
def pagePaths : List String := ["/openapi.json", "/docs", "/docs/oauth2-redirect", "/redoc"]

/-- The endpoint of a method and a path without parameters. -/
def fixedEndpoint (method : Method) (path : String) (target : Target World) :
    Http.Endpoint (Target World) where
  method := method.name
  pattern := [.literal path.toList]
  target := target

/-- The endpoints of a page, which can be read with its contents or without. -/
def pageEndpoints (path : String) : List (Http.Endpoint (Target World)) :=
  [fixedEndpoint .get path (.page path), fixedEndpoint .head path (.page path)]

/-- The endpoints that every application has, in the order in which they are tried. -/
def ownEndpoints : List (Http.Endpoint (Target World)) :=
  pagePaths.flatMap pageEndpoints ++ [fixedEndpoint .get healthPath .health]

/-- The response that tells that an application is alive. -/
def healthResponse : Http.Response :=
  .ofValueOrInternal 200 (.record [("status", .text "ok")])

def endpointOf (route : Route (Hook World)) :
    Except Http.PatternProblem (Http.Endpoint (Target World)) :=
  (Http.PathPattern.ofText (pathPattern route.path)).map fun pattern =>
    { method := route.method.name, pattern, target := .route route }

/-- The endpoints of routes, after those that every application has. -/
def endpointsOf (routes : List (Route (Hook World))) :
    Except Http.PatternProblem (List (Http.Endpoint (Target World))) :=
  (routes.mapM endpointOf).map (ownEndpoints ++ ·)

/-- What procedures are compiled with. -/
def contextOf (settings : Settings) (hooks : Registry (Hook World))
    (scope : Expression.Scope) : CompileContext (Hook World) where
  toScope := scope
  start := settings.start
  isStrict := settings.isStrict
  hooks := hooks

/-- What tokens are checked with. -/
def verifierOf (settings : Settings) : Auth.Verifier where
  secret := settings.secret
  algorithms := settings.algorithms

/-- The procedures that are served: those whose names have the start. -/
def servedProcedures (start : String) (procedures : List Procedure) : List Procedure :=
  procedures.filter fun procedure => start.toList.isPrefixOf procedure.name.toList

/-- The application that serves procedures, with what the framework answers on its pages. -/
def build (page : String → Http.Response) (settings : Settings)
    (context : CompileContext (Hook World)) (database : Database.ProcedureDatabase World)
    (procedures : List Procedure) : Except StartError (Application World) := do
  let table ←
    (RouteTable.compile context (servedProcedures settings.start procedures)).mapError .compile
  let endpoints ← (endpointsOf table.routes).mapError .pattern
  return { database, verifier := verifierOf settings, table, endpoints, page }

/-- Starts an application, with what the framework answers on its pages. -/
def startWith (page : String → Http.Response) (settings : Settings)
    (hooks : Registry (Hook World)) (scope : Expression.Scope)
    (database : Database.ProcedureDatabase World) :
    StateM World (Except StartError (Application World)) := do
  match ← database.catalog with
  | .error cause => return .error (.catalog cause)
  | .ok procedures =>
      return build page settings (contextOf settings hooks scope) database procedures

/-- The answer on a page that is not there. -/
def missingPage (_ : String) : Http.Response :=
  Http.Rejection.notFound.response

/-- Starts an application with nothing on the pages of its framework. -/
def start (settings : Settings) (hooks : Registry (Hook World))
    (scope : Expression.Scope) (database : Database.ProcedureDatabase World) :
    StateM World (Except StartError (Application World)) :=
  startWith missingPage settings hooks scope database

/-- Serves what a request is directed to. -/
def serveTarget (application : Application World) (now : Int) (request : Http.Request)
    (parameters : List (String × Value)) (world : World) :
    Target World → Http.Response × World
  | .page path => (application.page path, world)
  | .health => (healthResponse, world)
  | .route route =>
      let exchange : Exchange :=
        { request, procedure := route.procedure.name, pathParameters := parameters }
      let (response, progress) :=
        Lifecycle.handle application.database application.verifier now route exchange world
      (response, progress.world)

/-- Serves a request. -/
def serve (application : Application World) (now : Int) (request : Http.Request)
    (world : World) : Http.Response × World :=
  match Http.dispatch application.endpoints request.method request.path with
  | .target target parameters => application.serveTarget now request parameters world target
  | .otherMethod method => ((Http.Rejection.methodNotAllowed method).response, world)
  | .otherPath path => (.redirect (Http.addressOf request path), world)
  | .nowhere => (Http.Rejection.notFound.response, world)

/-- A request that nothing is served for leaves the world as it is. -/
theorem serve_nowhere
    {application : Application World}
    {request : Http.Request}
    (lost :
      Http.dispatch application.endpoints request.method request.path = .nowhere)
    (now : Int)
    (world : World) :
    application.serve now request world = (Http.Rejection.notFound.response, world) := by
  simp [serve, lost]

end Application
end Service
end RoutineGate
