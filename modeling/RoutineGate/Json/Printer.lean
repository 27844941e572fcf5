import RoutineGate.Fault
import RoutineGate.Number.Shortest
import RoutineGate.Value.Basic

/-!
# Writing values as JSON

The text is compact: nothing stands between its tokens.  Characters beyond ASCII stand
for themselves, and only quotes, backslashes and control characters are escaped.
Whether infinite and undefined numbers have a written form is up to the caller.
-/

namespace RoutineGate
namespace Json

/-- A hexadecimal digit. -/
def hexDigit (number : Nat) : Char :=
  Char.ofNat (if number < 10 then 48 + number else 87 + number)

/-- A character between the quotes of a text. -/
def writeChar (char : Char) : List Char :=
  match char with
  | '"' => ['\\', '"']
  | '\\' => ['\\', '\\']
  | '\n' => ['\\', 'n']
  | '\r' => ['\\', 'r']
  | '\t' => ['\\', 't']
  | _ =>
      let code := char.toNat
      if code = 8 then ['\\', 'b']
      else if code = 12 then ['\\', 'f']
      else if code < 32 then ['\\', 'u', '0', '0', hexDigit (code / 16), hexDigit (code % 16)]
      else [char]

/-- A text in quotes. -/
def writeText (content : String) : List Char :=
  '"' :: content.toList.flatMap writeChar ++ ['"']

/-- The written form of a floating point number. -/
def writeFloat (allowSpecial : Bool) (number : Binary64) : Except Fault (List Char) :=
  match number with
  | .finite .. => .ok number.text.toList
  | .infinite negative =>
      if allowSpecial then .ok (if negative then "-Infinity" else "Infinity").toList
      else .error (.numberNotWritable number)
  | .undefined =>
      if allowSpecial then .ok "NaN".toList else .error (.numberNotWritable number)

mutual

/-- The written form of a value. -/
def write (allowSpecial : Bool) : Value → Except Fault (List Char)
  | .null => .ok "null".toList
  | .bool flag => .ok (if flag then "true" else "false").toList
  | .int number => .ok (toString number).toList
  | .float number => writeFloat allowSpecial number
  | .text content => .ok (writeText content)
  | .list items => do
      return '[' :: (← writeItems allowSpecial items) ++ [']']
  | .record entries => do
      return '\x7b' :: (← writeEntries allowSpecial entries) ++ ['\x7d']
  | value => .error (.notWritable value.typeName)

/-- The written form of the items of a list. -/
def writeItems (allowSpecial : Bool) : List Value → Except Fault (List Char)
  | [] => .ok []
  | [item] => write allowSpecial item
  | item :: next :: items => do
      let head ← write allowSpecial item
      return head ++ ',' :: (← writeItems allowSpecial (next :: items))

/-- The written form of the entries of a record. -/
def writeEntries (allowSpecial : Bool) : List (String × Value) → Except Fault (List Char)
  | [] => .ok []
  | [(key, value)] => do
      return writeText key ++ ':' :: (← write allowSpecial value)
  | (key, value) :: next :: entries => do
      let head ← write allowSpecial value
      return writeText key ++ ':' :: head ++ ',' :: (← writeEntries allowSpecial (next :: entries))

end

/-- The written form of a value as a string. -/
def print (allowSpecial : Bool) (value : Value) : Except Fault String :=
  (write allowSpecial value).map String.ofList

end Json
end RoutineGate
