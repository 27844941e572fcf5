import RoutineGate.Auth.Guard
import RoutineGate.Documentation.Directive
import RoutineGate.Expression.Error
import RoutineGate.Procedure.Name
import RoutineGate.Request.Section

/-!
# Errors of compilation

What keeps a procedure from being served is named with the procedure and, where there is
one, with the parameter, the guard or the hook that is at fault.
-/

namespace RoutineGate

/-- The phases in which hooks run. -/
inductive Phase where
  /-- Before anything else. -/
  | onRequest
  /-- After the guards and before validation. -/
  | preValidation
  /-- After validation and before the call. -/
  | preHandler
  /-- After the call. -/
  | preSerialization
  /-- Before the answer is made. -/
  | onSend
  /-- After the answer is sent. -/
  | onResponse
  deriving DecidableEq, Repr

namespace Phase

def name : Phase → String
  | .onRequest => "on_request"
  | .preValidation => "pre_validation"
  | .preHandler => "pre_handler"
  | .preSerialization => "pre_serialization"
  | .onSend => "on_send"
  | .onResponse => "on_response"

def otherName : Phase → String
  | .onRequest => "onRequest"
  | .preValidation => "preValidation"
  | .preHandler => "preHandler"
  | .preSerialization => "preSerialization"
  | .onSend => "onSend"
  | .onResponse => "onResponse"

/-- All phases, in the order in which they run. -/
def all : List Phase :=
  [.onRequest, .preValidation, .preHandler, .preSerialization, .onSend, .onResponse]

def ofName? (content : String) : Option Phase :=
  all.find? fun phase => phase.name = content || phase.otherName = content

@[simp] theorem ofName?_name (phase : Phase) : ofName? phase.name = some phase := by
  cases phase <;> decide

@[simp] theorem ofName?_otherName (phase : Phase) : ofName? phase.otherName = some phase := by
  cases phase <;> decide

end Phase

/-- What of a procedure is at fault. -/
structure Subject where
  parameter : Option String := none
  guard : Option String := none
  hook : Option String := none
  deriving DecidableEq, Repr

namespace Subject

/-- The text of a subject, after a space; only the first name is told. -/
def text (subject : Subject) : String :=
  match subject.parameter, subject.guard, subject.hook with
  | some name, _, _ => " parameter '" ++ name ++ "'"
  | none, some name, _ => " guard '" ++ name ++ "'"
  | none, none, some name => " hook '" ++ name ++ "'"
  | none, none, none => ""

end Subject

/-- Why a procedure is not served. -/
inductive CompileCause where
  /-- The name says no method and path. -/
  | name (problem : NameProblem)
  /-- The documentation cannot be read. -/
  | documentation (problem : Documentation.Problem)
  /-- A parameter comes from nowhere. -/
  | unknownSource (source : String)
  /-- The schema expression of a parameter is wrong. -/
  | expression (problem : Expression.Problem)
  /-- A parameter is bound twice. -/
  | duplicateParameter
  /-- A declared parameter is not bound. -/
  | unboundParameter
  /-- A guard is not registered. -/
  | unregisteredGuard
  /-- A guard refuses its arguments. -/
  | refusedGuard (reason : String)
  /-- A phase of hooks does not exist. -/
  | unknownPhase (phase : String)
  /-- A phase has hooks twice. -/
  | repeatedPhase (phase : Phase)
  /-- A phase has no hooks. -/
  | emptyPhase (phase : Phase)
  /-- A hook is not registered. -/
  | unregisteredHook
  /-- Another procedure is served under the same method and path. -/
  | occupied (method : Method) (path owner : String)
  deriving DecidableEq, Repr

namespace CompileCause

def message : CompileCause → String
  | .name problem => problem.message
  | .documentation problem => "cannot parse documentation comment: " ++ problem.message
  | .unknownSource source =>
      "unknown parameter source '" ++ source ++ "' (expected one of: " ++
        ", ".intercalate (Request.Source.all.map Request.Source.name) ++ ")"
  | .expression problem => "invalid schema expression: " ++ problem.message
  | .duplicateParameter => "duplicate @param"
  | .unboundParameter => "no @param binding for declared parameter"
  | .unregisteredGuard => "guard is not registered"
  | .refusedGuard reason => reason
  | .unknownPhase phase =>
      "unknown hook phase '" ++ phase ++ "' (expected one of: " ++
        ", ".intercalate (Phase.all.map Phase.name) ++ ")"
  | .repeatedPhase phase => "hook phase '" ++ phase.name ++ "' declared twice"
  | .emptyPhase phase => "hook phase '" ++ phase.name ++ "' lists no functions"
  | .unregisteredHook => "hook function is not registered"
  | .occupied method path owner =>
      "route " ++ method.name ++ " " ++ path ++ " is already served by '" ++ owner ++ "'"

end CompileCause

/-- The text of an error from its parts. -/
def compileErrorText (procedure : String) (subject : Subject) (reason : String) : String :=
  "Procedure '" ++ procedure ++ "'" ++ subject.text ++ ": " ++ reason

/-- Why a procedure is not served, and what of it is at fault. -/
structure CompileError where
  procedure : String
  /-- What of the procedure is at fault. -/
  subject : Subject := {}
  cause : CompileCause
  deriving DecidableEq, Repr

namespace CompileError

def message (error : CompileError) : String :=
  compileErrorText error.procedure error.subject error.cause.message

end CompileError

/-- Why compilation ends without routes. -/
inductive CompileFailure where
  /-- A procedure cannot be served. -/
  | error (error : CompileError)
  /-- Compilation fails unexpectedly. -/
  | fault (fault : Fault)
  deriving DecidableEq, Repr

namespace CompileFailure

def of (procedure : String) (cause : CompileCause) (subject : Subject := {}) : CompileFailure :=
  .error { procedure, subject, cause }

def message : CompileFailure → String
  | .error found => found.message
  | .fault found => found.message

end CompileFailure
end RoutineGate
