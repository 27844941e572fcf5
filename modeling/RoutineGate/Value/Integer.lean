import RoutineGate.Fault
import RoutineGate.Value.Basic

/-!
# Values as integers

A number is taken as an integer without its fraction, and a text as the integer that it
writes.
-/

namespace RoutineGate
namespace Value

def toInteger : Value → Except Fault Int
  | .int number => .ok number
  | .bool flag => .ok (if flag then 1 else 0)
  | .float number =>
      match number.truncate?, number with
      | some whole, _ => .ok whole
      | none, .infinite _ => .error .infiniteInteger
      | none, _ => .error .undefinedInteger
  | .text content => (Number.readInteger content).mapError .integer
  | value => .error (.notNumeric value.typeName)

end Value
end RoutineGate
