import RoutineGate.Number.Reading
import RoutineGate.Text.Quoted

/-!
# Faults

A fault is an error that no part of the library foresees for its input: a number that
cannot be converted or a message that is no text.  It is not reported to a client but
as an internal error.
-/

namespace RoutineGate

/-- An error outside of those that a part of the library reports itself. -/
inductive Fault where
  /-- A text that is read as an integer and is none. -/
  | integer (error : Number.IntegerError)
  /-- An infinite number that is taken as an integer. -/
  | infiniteInteger
  /-- An undefined number that is taken as an integer. -/
  | undefinedInteger
  /-- A value of a type that has no integer. -/
  | notNumeric (typeName : String)
  /-- An integer beyond the floating point numbers. -/
  | largeInteger
  /-- A bound of a repetition that is too large to count. -/
  | largeRepetition
  /-- Flags of a pattern that exclude each other. -/
  | exclusiveFlags
  /-- A message of a check that is no text. -/
  | messageNotText (typeName : String)
  /-- A value that must be comparable and is not. -/
  | notComparable (typeName : String)
  /-- A value that is taken apart and has no parts. -/
  | notIterable (typeName : String)
  /-- A value that is asked for its first part and has no parts. -/
  | notIndexable (typeName : String)
  /-- A record that is asked for its first part. -/
  | missingIndex
  /-- A value without the operation that is asked of it. -/
  | lacksOperation (typeName operation : String)
  /-- A value that has no written form. -/
  | notWritable (typeName : String)
  /-- A floating point number that has no written form. -/
  | numberNotWritable (number : Binary64)
  /-- Bytes that are no text. -/
  | undecodable
  /-- A text that has no form in bytes. -/
  | unencodable
  /-- A row without a column. -/
  | missingColumn (name : String)
  /-- A negative number of arguments. -/
  | negativeCount
  /-- A procedure that no route serves. -/
  | unknownProcedure (name : String)
  /-- A failure with a text of its own. -/
  | failure (text : String)
  deriving DecidableEq, Repr

namespace Fault

def message : Fault → String
  | .integer error => error.message
  | .infiniteInteger => "cannot convert float infinity to integer"
  | .undefinedInteger => "cannot convert float NaN to integer"
  | .notNumeric typeName =>
      "int() argument must be a string, a bytes-like object or a real number, not '" ++
        typeName ++ "'"
  | .largeInteger => "int too large to convert to float"
  | .largeRepetition => "the repetition number is too large"
  | .exclusiveFlags => "ASCII and UNICODE flags are incompatible"
  | .messageNotText typeName => "'" ++ typeName ++ "' object is not an instance of 'str'"
  | .notComparable typeName => "unhashable type: '" ++ typeName ++ "'"
  | .notIterable typeName => "'" ++ typeName ++ "' object is not iterable"
  | .notIndexable typeName => "'" ++ typeName ++ "' object is not subscriptable"
  | .missingIndex => "0"
  | .lacksOperation typeName operation =>
      "'" ++ typeName ++ "' object has no attribute '" ++ operation ++ "'"
  | .notWritable typeName => "Object of type " ++ typeName ++ " is not JSON serializable"
  | .numberNotWritable _ => "Out of range float values are not JSON compliant"
  | .undecodable => "cannot decode bytes"
  | .unencodable => "cannot encode text"
  | .missingColumn name => Text.quoted name
  | .negativeCount => "arg_count must not be negative"
  | .unknownProcedure name => "Unknown procedure '" ++ name ++ "'"
  | .failure text => text

end Fault
end RoutineGate
