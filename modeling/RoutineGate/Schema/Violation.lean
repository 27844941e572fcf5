import RoutineGate.Fault
import RoutineGate.Value.Display

/-!
# Violations of a schema

A violation says how a value differs from what a schema describes, and an issue where
it does.  Each kind of violation has a code for programs and a message for people.
-/

namespace RoutineGate
namespace Schema

/-- How a value violates a schema. -/
inductive Violation where
  /-- The value is no text. -/
  | notText
  /-- The value is no number. -/
  | notNumber
  /-- The text writes no number. -/
  | unreadableNumber
  /-- The number is infinite or undefined. -/
  | notFinite
  /-- The value is no integer. -/
  | notInteger
  /-- The text writes no integer. -/
  | unreadableInteger
  /-- The integer is too large. -/
  | oversizedInteger
  /-- The number has a fraction. -/
  | fractional
  /-- The value is no truth value. -/
  | notBoolean
  /-- The value stands for no truth value. -/
  | unreadableBoolean
  /-- The value is none of those allowed. -/
  | notMember (values : List Value)
  /-- The value is no list. -/
  | notList
  /-- The value is no record. -/
  | notRecord (model : String)
  /-- A field that must be present is not. -/
  | missing
  /-- The value fits none of several schemas. -/
  | noAlternative
  /-- A step fails. -/
  | failedStep (rule : Rule)

/-- Joins alternatives, with "or" before the last one. -/
def joinAlternatives : List String → String
  | [] => ""
  | [only] => only
  | items => ", ".intercalate items.dropLast ++ " or " ++ items.getLastD ""

namespace Format

def word : Format → String
  | .email => "email"
  | .url => "url"
  | .uuid => "uuid"
  | .datetime => "datetime"

end Format

namespace Comparison

/-- The code of a violated comparison. -/
def code : Comparison → String
  | .above => "greater_than"
  | .atLeast => "greater_than_equal"
  | .below => "less_than"
  | .atMost => "less_than_equal"

def words : Comparison → String
  | .above => "greater than"
  | .atLeast => "greater than or equal to"
  | .below => "less than"
  | .atMost => "less than or equal to"

end Comparison

namespace Rule

/-- The code of a failure of a rule. -/
def code : Rule → String
  | .minLength _ => "too_short"
  | .maxLength _ => "too_long"
  | .exactLength _ => "wrong_length"
  | .pattern _ => "string_pattern_mismatch"
  | .format expected => "invalid_" ++ expected.word
  | .compare comparison _ => comparison.code
  | .trim | .lower | .upper => ""

/-- The message of a failure of a rule. -/
def failure : Rule → String
  | .minLength bound => s!"Should have at least {bound} items or characters"
  | .maxLength bound => s!"Should have at most {bound} items or characters"
  | .exactLength bound => s!"Should have exactly {bound} items or characters"
  | .pattern expected => "String should match pattern '" ++ expected.source ++ "'"
  | .format expected => "Invalid " ++ expected.word
  | .compare comparison bound => "Input should be " ++ comparison.words ++ " " ++ bound.display
  | .trim | .lower | .upper => ""

end Rule

namespace Violation

def code : Violation → String
  | .notText => "string_type"
  | .notNumber => "float_type"
  | .unreadableNumber => "float_parsing"
  | .notFinite => "finite_number"
  | .notInteger => "int_type"
  | .unreadableInteger => "int_parsing"
  | .oversizedInteger => "int_parsing_size"
  | .fractional => "int_from_float"
  | .notBoolean => "bool_type"
  | .unreadableBoolean => "bool_parsing"
  | .notMember _ => "literal_error"
  | .notList => "list_type"
  | .notRecord _ => "model_type"
  | .missing => "missing"
  | .noAlternative => "invalid_union"
  | .failedStep rule => rule.code

def message : Violation → String
  | .notText => "Input should be a valid string"
  | .notNumber => "Input should be a valid number"
  | .unreadableNumber => "Input should be a valid number, unable to parse string as a number"
  | .notFinite => "Input should be a finite number"
  | .notInteger => "Input should be a valid integer"
  | .unreadableInteger => "Input should be a valid integer, unable to parse string as an integer"
  | .oversizedInteger => "Unable to parse input string as an integer, exceeded maximum size"
  | .fractional => "Input should be a valid integer, got a number with a fractional part"
  | .notBoolean => "Input should be a valid boolean"
  | .unreadableBoolean => "Input should be a valid boolean, unable to interpret input"
  | .notMember values => "Input should be " ++ joinAlternatives (values.map Value.display)
  | .notList => "Input should be a valid list"
  | .notRecord model => "Input should be a valid dictionary or instance of " ++ model
  | .missing => "Field required"
  | .noAlternative => "Input does not match any allowed schema"
  | .failedStep rule => rule.failure

end Violation

/-- One step on the way to a part of a value. -/
inductive Place where
  /-- The entry of a record under a key. -/
  | key (name : String)
  /-- The item of a list at an index. -/
  | index (position : Nat)
  deriving DecidableEq, Repr

/-- A violation with its place. -/
structure Issue where
  /-- The way to the value at fault. -/
  location : List Place
  /-- What is wrong with the value. -/
  violation : Violation
  /-- The message that replaces that of the violation. -/
  message? : Option String := none

namespace Issue

def message (issue : Issue) : String :=
  issue.message?.getD issue.violation.message

/-- The same issue, seen from where a place leads to the value. -/
def under (place : Place) (issue : Issue) : Issue :=
  { issue with location := place :: issue.location }

@[simp] theorem message_under
    (place : Place)
    (issue : Issue) :
    (issue.under place).message = issue.message := rfl

@[simp] theorem location_under
    (place : Place)
    (issue : Issue) :
    (issue.under place).location = place :: issue.location := rfl

end Issue

/-- Why a value is not accepted. -/
inductive Refusal where
  | issues (issues : List Issue)
  /-- Checking the value fails. -/
  | fault (fault : Fault)

namespace Refusal

/-- The refusal of a value itself. -/
def ofViolation (violation : Violation) : Refusal :=
  .issues [{ location := [], violation }]

end Refusal
end Schema
end RoutineGate
