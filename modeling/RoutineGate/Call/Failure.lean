import RoutineGate.Database.Error
import RoutineGate.Fault
import RoutineGate.Text.Blank
import RoutineGate.Text.Digit
import RoutineGate.Text.Split

/-!
# Failures of a call

A procedure can refuse a call with a signal of the state class for user errors.  Its text
then tells a status, a type, a code, a message and, for the type that concerns one field,
the field, all between bars.  Every other failure stays internal.
-/

namespace RoutineGate
namespace Call

/-- What an application error is about. -/
inductive ErrorType where
  | general
  | field
  deriving DecidableEq, Repr

namespace ErrorType

def name : ErrorType → String
  | .general => "general"
  | .field => "field"

def ofName? (content : String) : Option ErrorType :=
  [ErrorType.general, .field].find? fun type => type.name = content

end ErrorType

/-- A refusal that a procedure tells its caller. -/
structure ApplicationError where
  status : Nat
  type : ErrorType
  code : String
  message : String
  field : Option String := none
  deriving DecidableEq, Repr

namespace ApplicationError

/-- The payload of the response. -/
def payload (error : ApplicationError) : Value :=
  .record ([("error", .bool true), ("success", .bool false), ("code", .text error.code),
    ("message", .text error.message)] ++
    match error.field with
    | some field => [("field", .text field)]
    | none => [])

/-- Whether a number is the status of a response. -/
def isStatus (number : Int) : Bool :=
  100 ≤ number && number ≤ 599

/-- Whether a text consists of digits. -/
def isDigits (chars : List Char) : Bool :=
  !chars.isEmpty && chars.all Text.isDigit

/-- Reads a status, if a text of digits writes one. -/
def readStatus (chars : List Char) : Except Fault (Option Nat) :=
  if isDigits chars then
    match Number.readInteger (String.ofList chars) with
    | .ok number => .ok (if isStatus number then some number.toNat else none)
    | .error error => .error (.integer error)
  else .ok none

/-- A text between bars without the blanks around it. -/
def joinParts (parts : List (List Char)) : String :=
  String.ofList (Text.trim (Text.joinWith ['|'] parts))

/-- Reads the parts of a text that follow a status. -/
def ofParts? (status : Nat) (type code : List Char) (rest : List (List Char)) :
    Option ApplicationError :=
  let code := String.ofList (Text.trim code)
  match ErrorType.ofName? (String.ofList (Text.trim type)), rest.reverse with
  | some .general, _ =>
      some { status, type := .general, code, message := joinParts rest }
  | some .field, field :: last :: before =>
      some {
        status
        type := .field
        code
        message := joinParts (last :: before).reverse
        field := some (String.ofList (Text.trim field))
      }
  | _, _ => none

/-- Reads the text of an application error; a text of another form is none. -/
def read (content : String) : Except Fault (Option ApplicationError) :=
  match Text.splitAt '|' content.toList with
  | status :: type :: code :: message :: rest =>
      match readStatus (Text.trim status) with
      | .ok (some known) => .ok (ofParts? known type code (message :: rest))
      | .ok none => .ok none
      | .error fault => .error fault
  | _ => .ok none

end ApplicationError

/-- The class of the states that signal application errors. -/
def applicationClass : String := "45"

/-- Why a call has failed. -/
inductive FailureCause where
  | database (error : Database.DatabaseError)
  /-- The call fails otherwise. -/
  | other (fault : Fault)
  deriving DecidableEq, Repr

namespace FailureCause

def text : FailureCause → String
  | .database error => error.message
  | .other fault => fault.message

/-- The application error that a cause signals, if it does. -/
def applicationError : FailureCause → Except Fault (Option ApplicationError)
  | .database error =>
      if applicationClass.toList.isPrefixOf error.state.toList then
        ApplicationError.read error.text
      else .ok none
  | .other _ => .ok none

end FailureCause

/-- A failed call. -/
structure Failure where
  /-- The name of the procedure. -/
  procedure : String
  /-- Why the call has failed. -/
  cause : FailureCause
  /-- What the procedure tells its caller. -/
  applicationError : Option ApplicationError
  deriving DecidableEq, Repr

namespace Failure

/-- The failure of a call for a cause. -/
def of (procedure : String) (cause : FailureCause) : Except Fault Failure :=
  cause.applicationError.map fun applicationError => { procedure, cause, applicationError }

def message (failure : Failure) : String :=
  "Call to procedure '" ++ failure.procedure ++ "' failed: " ++ failure.cause.text

end Failure

/-- A failure that the database does not report is no application error. -/
theorem applicationError_other (fault : Fault) :
    (FailureCause.other fault).applicationError = .ok none := rfl

end Call
end RoutineGate
