import RoutineGate.Text.Percent
import RoutineGate.Text.Split
import RoutineGate.Value.Basic

/-!
# Queries

A query is a list of names with values.  Pairs stand between ampersands, a plus sign is a
blank, and percent signs write the bytes of other characters.  A name that occurs once has
its value, and one that occurs several times the list of its values.
-/

namespace RoutineGate
namespace Http

/-- The characters of bytes that are read one by one. -/
def latinText (bytes : List UInt8) : List Char :=
  bytes.map fun byte => Char.ofNat byte.toNat

/-- Whether a character is basic Latin. -/
def isBasicLatin (char : Char) : Bool :=
  char.toNat < 128

/-- The text that a run of basic Latin characters writes. -/
def decodeRun (run : List Char) : List Char :=
  Text.decodeUtf8Leniently (Text.percentDecode run)

/--
The text that characters write: each run of basic Latin on its own, and other characters as
they are.  `run` holds what is read of a run, in reverse.
-/
def unquoteFrom (run : List Char) : List Char → List Char
  | [] => decodeRun run.reverse
  | char :: rest =>
      if isBasicLatin char then unquoteFrom (char :: run) rest
      else decodeRun run.reverse ++ char :: unquoteFrom [] rest

/-- The text that a part of a query writes. -/
def unquote (chars : List Char) : String :=
  String.ofList (unquoteFrom [] (Text.replaceChar '+' [' '] chars))

/-- The name and the value in a part of a query; without an equals sign the value is empty. -/
def parameterOf (part : List Char) : String × String :=
  let (name, value) := Text.partitionAt '=' part
  (unquote name, unquote value)

/-- The names and values in a query, in order. -/
def queryParameters (query : List UInt8) : List (String × String) :=
  ((Text.splitAt '&' (latinText query)).filter fun part => !part.isEmpty).map parameterOf

/-- The values of a name, in order. -/
def valuesOf (parameters : List (String × String)) (name : String) : List String :=
  (parameters.filter fun parameter => parameter.1 = name).map Prod.snd

/-- A single value stands for itself, several ones make up a list. -/
def joinValues : List String → Value
  | [value] => .text value
  | values => .list (values.map .text)

/-- The names of a query with what they stand for, in the order of their first occurrences. -/
def groupParameters (parameters : List (String × String)) : List (String × Value) :=
  (parameters.map Prod.fst).eraseDups.map fun name => (name, joinValues (valuesOf parameters name))

def queryRecord (query : List UInt8) : Value :=
  .record (groupParameters (queryParameters query))

@[simp] theorem joinValues_singleton (value : String) :
    joinValues [value] = .text value := rfl

/-- Only a single value stands for itself. -/
theorem joinValues_of_length_ne_one
    {values : List String}
    (several : values.length ≠ 1) :
    joinValues values = .list (values.map .text) := by
  match values with
  | [] => rfl
  | [_] => simp at several
  | _ :: _ :: _ => rfl

end Http
end RoutineGate
