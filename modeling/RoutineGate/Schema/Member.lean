import RoutineGate.Schema.Scalar

/-!
# Literals and enumerations

A value is looked up among the allowed ones first with its type and then by magnitude,
so `1` finds `1` before it finds `true`.  What is found, and not what was looked up, is
the accepted value.
-/

namespace RoutineGate
namespace Schema

/-- Whether a value is a list or a record. -/
def isComposite : Value → Bool
  | .list _ => true
  | .record _ => true
  | _ => false

/-- Whether two values are of one type and equal. -/
def sameWithType (left right : Value) : Bool :=
  left.typeName = right.typeName && left.same right

/-- Removes values that repeat an earlier one of their type. -/
def distinctValues : List Value → List Value
  | [] => []
  | value :: values =>
      value :: (distinctValues values).filter fun other => !sameWithType value other

/--
The values that a literal or an enumeration allows; repeated ones count once, unless one is
a list or a record.
-/
def allowedValues (values : List Value) : List Value :=
  if values.any isComposite then values else distinctValues values

/-- Whether a value is an integer of 64 bits. -/
def isWordValue : Value → Bool
  | .int whole => isWord whole
  | _ => false

def isText : Value → Bool
  | .text _ => true
  | _ => false

/-- Whether a value is a truth value. -/
def isBool : Value → Bool
  | .bool _ => true
  | _ => false

/-- The last value that passes a test. -/
def findLast? (test : Value → Bool) (values : List Value) : Option Value :=
  values.reverse.find? test

/-- The value that is found by type alone. -/
def findWithType? (values : List Value) (value : Value) : Option Value :=
  match value with
  | .bool _ => findLast? (sameWithType value) values
  | .int whole => if isWord whole then findLast? (sameWithType value) values else none
  | .text _ => findLast? (sameWithType value) values
  | _ => none

/-- The value that is found by magnitude, in the order of the kinds that may match. -/
def findByMagnitude? (values : List Value) (value : Value) : Option Value :=
  let isOther (allowed : Value) : Bool :=
    !isWordValue allowed && !isText allowed && !isComposite allowed
  let isSimple (allowed : Value) : Bool :=
    isWordValue allowed || isText allowed || isBool allowed
  let scalar (kind : Value → Bool) : Option Value :=
    if isComposite value then none
    else findLast? (fun allowed => kind allowed && allowed.same value) values
  (scalar isOther).or <|
    (values.find? fun allowed => isComposite allowed && allowed.same value).or (scalar isSimple)

/-- Looks up a value among those allowed. -/
def findMember (values : List Value) (value : Value) : Except Violation Value :=
  let allowed := allowedValues values
  let isOversized :=
    match value with
    | .int whole => !isWord whole && allowed.any isWordValue
    | _ => false
  match findWithType? allowed value with
  | some found => .ok found
  | none =>
      if isOversized then .error .oversizedInteger
      else
        match findByMagnitude? allowed value with
        | some found => .ok found
        | none => .error (.notMember allowed)

/-- Whether an accepted value is one of those allowed. -/
def isMember (values : List Value) (value : Value) : Bool :=
  let isSpecial (allowed : Value) : Bool :=
    match allowed with
    | .int _ => false
    | .text _ => false
    | _ => true
  values.any (sameWithType value) ||
    values.any fun allowed => isSpecial allowed && allowed.same value

end Schema
end RoutineGate
