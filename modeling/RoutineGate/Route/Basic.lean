import RoutineGate.Call.Arguments
import RoutineGate.Procedure.Basic
import RoutineGate.Request.Schema

/-!
# Routes

A route says how a procedure is served: under which method and path, with which
parameters, guards and hooks.  A table holds one route per procedure, no two of them under
the same method and path; it is complete or not built at all.
-/

namespace RoutineGate

/-- Why a guard that an application brings along cannot be made. -/
inductive GuardRefusal where
  | refused (reason : String)
  /-- Making the guard fails unexpectedly. -/
  | fault (fault : Fault)
  deriving DecidableEq, Repr

/-- Makes a guard from the arguments of a directive. -/
abbrev GuardFactory (Hook : Type) := List String → Except GuardRefusal Hook

/-- A guard of a route; one that an application brings along is a step like a hook. -/
inductive RouteGuard (Hook : Type) where
  | standard (guard : Auth.Guard)
  /-- A guard that an application brings along. -/
  | custom (guard : Hook)

/-- What a procedure is compiled with. -/
structure CompileContext (Hook : Type) extends Expression.Scope where
  /-- What the names of served procedures start with. -/
  start : String := "api_"
  /-- Whether documentation that cannot be read is an error. -/
  isStrict : Bool := true
  /-- The standard kinds of guards that may be used. -/
  guards : List Auth.GuardKind := Auth.GuardKind.all
  /-- The further kinds of guards that an application brings along. -/
  customGuards : Registry (GuardFactory Hook) := .empty
  /-- The hooks that may be used. -/
  hooks : Registry Hook := .empty

/-- How a procedure is served. -/
structure Route (Hook : Type) where
  /-- The procedure. -/
  procedure : Procedure
  /-- The method of its requests. -/
  method : Method
  /-- The path of its requests. -/
  path : String
  /-- The bindings of its parameters, in the order of declaration. -/
  bindings : List Call.Binding
  /-- The schemas of the sections of its requests. -/
  schema : Request.RequestSchema
  /-- The guard directives, in order. -/
  guardDirectives : List Documentation.GuardDirective
  /-- The hook directives, in order. -/
  hookDirectives : List Documentation.HooksDirective
  /-- The guards, in order. -/
  guards : List (RouteGuard Hook)
  /-- The hooks of each phase, in order. -/
  hooks : List (Phase × List Hook)

namespace Route

variable {Hook : Type}

/-- The hooks of a phase, in order. -/
def hooksFor (route : Route Hook) (phase : Phase) : List Hook :=
  (route.hooks.lookup phase).getD []

/-- The names of the parameters in the path. -/
def pathParameters (route : Route Hook) : List String :=
  RoutineGate.pathParameters route.path

/-- What no other route may have. -/
def key (route : Route Hook) : Method × String :=
  (route.method, route.path)

/-- The binding of a parameter directive. -/
def bindingOf (directive : Documentation.ParamDirective) : Call.Binding :=
  { name := directive.name
    key := directive.key
    source := Request.Source.ofName? directive.source
    description := directive.expression }

/-- The first name that is among those seen or occurs a second time. -/
def repeatedName? (seen : List String) : List String → Option String
  | [] => none
  | name :: names =>
      if seen.contains name then some name else repeatedName? (name :: seen) names

/-- The bindings of the declared parameters of a procedure. -/
def compileBindings (procedure : Procedure) (directives : List Documentation.ParamDirective) :
    Except CompileFailure (List Call.Binding) :=
  match repeatedName? [] (directives.map fun directive => directive.name) with
  | some name => .error (.of procedure.name .duplicateParameter { parameter := name })
  | none =>
      procedure.parameters.mapM fun (parameter : String) =>
        match directives.find? fun directive => directive.name = parameter with
        | some directive => .ok (bindingOf directive)
        | none => .error (.of procedure.name .unboundParameter { parameter := some parameter })

/-- The failure of a procedure whose guard cannot be made. -/
def guardFailure (procedure guard : String) : GuardRefusal → CompileFailure
  | .refused reason => .of procedure (.refusedGuard reason) { guard }
  | .fault found => .fault found

/-- The guard of a standard kind with arguments. -/
def makeStandard (kind : Auth.GuardKind) : GuardFactory (RouteGuard Hook) :=
  fun arguments =>
    match kind.make arguments with
    | .ok guard => .ok (.standard guard)
    | .error problem => .error (.refused problem.message)

/-- What makes the guards with a name. -/
def guardFactory? (context : CompileContext Hook) (name : String) :
    Option (GuardFactory (RouteGuard Hook)) :=
  match context.guards.find? fun kind => kind.name = name with
  | some kind => some (makeStandard kind)
  | none =>
      (context.customGuards.get? name).map fun factory arguments =>
        (factory arguments).map .custom

/-- The guard of a directive. -/
def compileGuard (procedure : String) (context : CompileContext Hook)
    (directive : Documentation.GuardDirective) : Except CompileFailure (RouteGuard Hook) :=
  match guardFactory? context directive.name with
  | none => .error (.of procedure .unregisteredGuard { guard := directive.name })
  | some factory =>
      (factory directive.arguments).mapError (guardFailure procedure directive.name)

/-- A registered hook by its name. -/
def compileHook (procedure : String) (registry : Registry Hook) (name : String) :
    Except CompileFailure Hook :=
  match registry.get? name with
  | some hook => .ok hook
  | none => .error (.of procedure .unregisteredHook { hook := name })

/-- The phase of a directive, if it has hooks and is not among those that do already. -/
def compilePhase (procedure : String) (taken : List Phase)
    (directive : Documentation.HooksDirective) : Except CompileFailure Phase :=
  match Phase.ofName? directive.phase with
  | none => .error (.of procedure (.unknownPhase directive.phase))
  | some phase =>
      if taken.contains phase then .error (.of procedure (.repeatedPhase phase))
      else if directive.functions.isEmpty then .error (.of procedure (.emptyPhase phase))
      else .ok phase

/-- The hooks of directives, after phases that have hooks already. -/
def compileHooks (procedure : String) (registry : Registry Hook) (taken : List Phase) :
    List Documentation.HooksDirective → Except CompileFailure (List (Phase × List Hook))
  | [] => .ok []
  | directive :: directives => do
      let phase ← compilePhase procedure taken directive
      let hooks ← directive.functions.mapM (compileHook procedure registry)
      return (phase, hooks) :: (← compileHooks procedure registry (phase :: taken) directives)

/-- The directives in the documentation of a procedure. -/
def directivesOf (procedure : Procedure) (isStrict : Bool) :
    Except CompileFailure (List Documentation.Directive) :=
  match Documentation.tagsOf isStrict procedure.definition with
  | .ok tags => .ok (Documentation.interpret tags)
  | .error problem => .error (.of procedure.name (.documentation problem))

/-- Compiles a procedure. -/
def compile (context : CompileContext Hook) (procedure : Procedure) :
    Except CompileFailure (Route Hook) := do
  let (method, segments) ←
    (parseName context.start procedure.name).mapError fun problem =>
      .of procedure.name (.name problem)
  let directives ← directivesOf procedure context.isStrict
  let parameters := directives.filterMap Documentation.Directive.param?
  let guardDirectives := directives.filterMap Documentation.Directive.guard?
  let hookDirectives := directives.filterMap Documentation.Directive.hooks?
  let bindings ← compileBindings procedure parameters
  let schema ← Request.compileSchema procedure.name context.toScope parameters
  let guards ← guardDirectives.mapM (compileGuard procedure.name context)
  let hooks ← compileHooks procedure.name context.hooks [] hookDirectives
  return {
    procedure, method, path := pathText segments, bindings, schema
    guardDirectives, hookDirectives, guards, hooks
  }

end Route

/-- Routes in the order of their procedures. -/
structure RouteTable (Hook : Type) where
  routes : List (Route Hook) := []

namespace RouteTable

variable {Hook : Type}

/-- The route of a procedure. -/
def get? (table : RouteTable Hook) (name : String) : Option (Route Hook) :=
  table.routes.find? fun route => route.procedure.name = name

/-- The number of routes. -/
def size (table : RouteTable Hook) : Nat :=
  table.routes.length

/-- Compiles procedures after some that have routes already. -/
def compileAfter (context : CompileContext Hook) (earlier : List (Route Hook)) :
    List Procedure → Except CompileFailure (List (Route Hook))
  | [] => .ok []
  | procedure :: procedures => do
      let route ← Route.compile context procedure
      match earlier.find? fun other => other.key = route.key with
      | some other =>
          throw (.of procedure.name (.occupied route.method route.path other.procedure.name))
      | none => return route :: (← compileAfter context (earlier ++ [route]) procedures)

/-- Compiles procedures. -/
def compile (context : CompileContext Hook) (procedures : List Procedure) :
    Except CompileFailure (RouteTable Hook) :=
  (compileAfter context [] procedures).map fun routes => ⟨routes⟩

@[simp] theorem get?_empty (name : String) :
    ({} : RouteTable Hook).get? name = none := rfl

@[simp] theorem size_empty : ({} : RouteTable Hook).size = 0 := rfl

end RouteTable
end RoutineGate
