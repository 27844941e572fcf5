/-!
# Hexadecimal digits

Digits beyond nine are letters of either case.
-/

namespace RoutineGate
namespace Text

/-- The value of a hexadecimal digit of either case. -/
def hexValue? (char : Char) : Option Nat :=
  if '0' ≤ char ∧ char ≤ '9' then some (char.toNat - 48)
  else if 'a' ≤ char ∧ char ≤ 'f' then some (char.toNat - 87)
  else if 'A' ≤ char ∧ char ≤ 'F' then some (char.toNat - 55)
  else none

/-- Whether a character is a hexadecimal digit. -/
def isHexDigit (char : Char) : Bool :=
  (hexValue? char).isSome

/-- The number that digits write in a base of at most sixteen. -/
def ofDigitChars (base : Nat) (digits : List Char) : Nat :=
  digits.foldl (fun number digit => number * base + (hexValue? digit).getD 0) 0

/-- The bytes that pairs of digits write. -/
def bytesOfHex : List Char → List UInt8
  | high :: low :: rest => UInt8.ofNat (ofDigitChars 16 [high, low]) :: bytesOfHex rest
  | _ => []

end Text
end RoutineGate
