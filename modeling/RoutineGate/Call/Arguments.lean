import RoutineGate.Json.Printer
import RoutineGate.Request.Section

/-!
# Arguments of a call

Each declared parameter is bound to a place in a request.  The arguments of a call are the
values at these places in the order of declaration; lists and records are passed as their
written form, and what a request does not carry is null.
-/

namespace RoutineGate
namespace Call

/-- Where the value of a parameter is found. -/
structure Binding where
  name : String
  key : String
  /-- What carries the value; an unknown source carries nothing. -/
  source : Option Request.Source
  /-- The schema expression of the value. -/
  description : String := ""
  deriving DecidableEq, Repr

/-- What a request carries for a procedure. -/
structure Fields where
  /-- The query of the address. -/
  querystring : Value := .record []
  /-- The parameters in the path of the address. -/
  params : Value := .record []
  body : Value := .null
  headers : Value := .record []
  user : Value := .null
  /-- The data that hooks have put aside. -/
  request : Value := .record []

/-- The entry of a record, or null if it has none. -/
def entry (value : Value) (key : String) : Except Fault Value :=
  match value with
  | .record entries => .ok ((entries.lookup key).getD .null)
  | _ => .error (.lacksOperation value.typeName "get")

/-- The entry of what may be no record, or null. -/
def entryOrNull (value : Value) (key : String) : Value :=
  match value with
  | .record entries => (entries.lookup key).getD .null
  | _ => .null

namespace Fields

/-- The value that a source carries under a key. -/
def lookup (fields : Fields) (source : Request.Source) (key : String) : Except Fault Value :=
  match source with
  | .within .querystring => entry fields.querystring key
  | .within .params => entry fields.params key
  | .within .body => .ok (entryOrNull fields.body key)
  | .within .headers => entry fields.headers (Text.lower key)
  | .user => if fields.user.isTruthy then entry fields.user key else .ok .null
  | .request => entry fields.request key

def find (fields : Fields) (binding : Binding) : Except Fault Value :=
  match binding.source with
  | some source => fields.lookup source binding.key
  | none => .ok .null

end Fields

def encodeArgument (value : Value) : Except Fault Value :=
  match value with
  | .list _ => (Json.print true value).map .text
  | .record _ => (Json.print true value).map .text
  | _ => .ok value

/-- Why arguments cannot be bound. -/
inductive BindingError where
  | unbound (procedure parameter : String)
  /-- Binding fails unexpectedly. -/
  | fault (fault : Fault)
  deriving DecidableEq, Repr

namespace BindingError

def message : BindingError → String
  | .unbound procedure parameter =>
      "No parameter binding for '" ++ parameter ++ "' of procedure '" ++ procedure ++ "'"
  | .fault found => found.message

end BindingError

/-- The argument for a parameter. -/
def bindArgument (procedure : String) (bindings : List (String × Binding)) (fields : Fields)
    (parameter : String) : Except BindingError Value :=
  match bindings.lookup parameter with
  | none => .error (.unbound procedure parameter)
  | some binding => ((fields.find binding).bind encodeArgument).mapError .fault

/-- The arguments for the parameters of a procedure, in order. -/
def bindArguments (procedure : String) (parameters : List String)
    (bindings : List (String × Binding)) (fields : Fields) : Except BindingError (List Value) :=
  parameters.mapM (bindArgument procedure bindings fields)

/-- Scalars are passed as they are. -/
theorem encodeArgument_text (content : String) :
    encodeArgument (.text content) = .ok (.text content) := rfl

end Call
end RoutineGate
