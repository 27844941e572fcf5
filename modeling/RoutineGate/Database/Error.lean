import RoutineGate.Value.Display

/-!
# Errors of the database

The driver of the database reports an error by a list of values, of which the first is
meant to be a code and the second a text.  Of all codes one says that a procedure has
signalled the error itself.
-/

namespace RoutineGate
namespace Database

/-- A code of the driver: a number, or a truth value that stands for one. -/
inductive ErrorCode where
  | number (code : Int)
  /-- A truth value. -/
  | flag (code : Bool)
  deriving DecidableEq, Repr

namespace ErrorCode

def ofValue? : Value → Option ErrorCode
  | .int code => some (.number code)
  | .bool code => some (.flag code)
  | _ => none

def toValue : ErrorCode → Value
  | .number code => .int code
  | .flag code => .bool code

/-- The code of the errors that procedures signal. -/
def signal : ErrorCode := .number 1644

end ErrorCode

/-- An error that the database reports. -/
structure DatabaseError where
  /-- The state, whose first characters tell its class. -/
  state : String
  text : String
  code : Option ErrorCode := none
  deriving DecidableEq, Repr

namespace DatabaseError

/-- The state of the errors that procedures signal. -/
def signalState : String := "45000"

/-- The state of all other errors. -/
def generalState : String := "HY000"

/-- The code among the values that the driver reports. -/
def codeOf (values : List Value) : Option ErrorCode :=
  values.head?.bind ErrorCode.ofValue?

/-- The text among the values that the driver reports. -/
def textOf : List Value → String
  | [] => ""
  | [value] => value.plain
  | _ :: text :: _ => text.plain

/-- The error of the values that the driver reports. -/
def ofDriver (values : List Value) : DatabaseError :=
  let code := codeOf values
  { state := if code = some .signal then signalState else generalState
    text := textOf values
    code }

def message (error : DatabaseError) : String :=
  "[" ++ error.state ++ "] " ++ error.text

/-- An error has the state of signals just if it has their code. -/
theorem state_ofDriver
    (values : List Value) :
    (ofDriver values).state = signalState ↔ codeOf values = some .signal := by
  simp only [ofDriver]
  split
  · simp_all
  · simp_all [generalState, signalState]

end DatabaseError
end Database
end RoutineGate
