import RoutineGate.Fault
import RoutineGate.Text.Quoted

/-!
# Errors in schema expressions
-/

namespace RoutineGate
namespace Expression

/-- What is wrong with an expression. -/
inductive Cause where
  /-- A character that starts no token. -/
  | unexpectedCharacter (char : Char)
  /-- An escape that texts do not have. -/
  | unsupportedEscape (char : Char)
  /-- Letters after a pattern that are no flags. -/
  | unsupportedFlags (letters : String)
  /-- A pattern literal that is no pattern. -/
  | invalidPattern (reason : String)
  /-- A token where none of its kind may stand. -/
  | unexpected (found : String)
  /-- A mark that is missing. -/
  | expected (mark : Char) (found : String)
  /-- Too many expressions inside of each other. -/
  | deepNesting
  /-- Something other than a name after a dot. -/
  | nameExpected
  /-- Something other than a number after a minus. -/
  | numberExpected
  /-- Something other than a key in braces. -/
  | keyExpected
  /-- A name that stands for nothing. -/
  | unknownName (name : String)
  /-- A validator that is not registered. -/
  | unknownValidator (name : String)
  /-- A name that a value does not offer. -/
  | unavailable (name description : String)
  /-- A call of something that is no method. -/
  | notCallable (description : String)
  /-- A call that its method refuses. -/
  | refused (method reason : String)
  /-- An expression for something other than a schema. -/
  | notSchema (description : String)
  /-- An expression with too many characters. -/
  | tooLong
  deriving DecidableEq, Repr

namespace Cause

def message : Cause → String
  | .unexpectedCharacter char => "unexpected character " ++ Text.quoted (String.singleton char)
  | .unsupportedEscape char => "unsupported escape \\" ++ String.singleton char
  | .unsupportedFlags letters => "unsupported regex flags " ++ letters
  | .invalidPattern reason => "invalid regex: " ++ reason
  | .unexpected found => "unexpected " ++ found
  | .expected mark found =>
      "expected " ++ Text.quoted (String.singleton mark) ++ ", found " ++ found
  | .deepNesting => "expression is nested too deeply"
  | .nameExpected => "expected a name after '.'"
  | .numberExpected => "expected a number after '-'"
  | .keyExpected => "expected an object key"
  | .unknownName name => "unknown name '" ++ name ++ "'"
  | .unknownValidator name => "unknown custom validator '" ++ name ++ "'"
  | .unavailable name description => "'" ++ name ++ "' is not available on " ++ description
  | .notCallable description => description ++ " is not callable"
  | .refused method reason => method ++ "(): " ++ reason
  | .notSchema description => "expression must produce a schema, got " ++ description
  | .tooLong => "expression is too long"

end Cause

/-- A cause with the place in the expression where it was found. -/
structure Problem where
  cause : Cause
  /-- The position, unless the whole expression is at fault. -/
  position : Option Nat := none
  deriving DecidableEq, Repr

namespace Problem

def message (problem : Problem) : String :=
  match problem.position with
  | some position => problem.cause.message ++ " at position " ++ toString position
  | none => problem.cause.message

end Problem

/-- Why an expression is not compiled. -/
inductive Error where
  | problem (problem : Problem)
  /-- The expression asks for a number that cannot be computed with. -/
  | fault (fault : Fault)
  deriving DecidableEq, Repr

namespace Error

def located (cause : Cause) (position : Nat) : Error :=
  .problem ⟨cause, some position⟩

def message : Error → String
  | .problem found => found.message
  | .fault found => found.message

end Error
end Expression
end RoutineGate
