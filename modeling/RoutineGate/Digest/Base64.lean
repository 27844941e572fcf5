/-!
# Base 64

Four characters stand for three bytes.  The two last characters of the alphabet have two
forms each, and what is not in the alphabet is skipped.  The last group may be short, and
then signs of equality fill it.
-/

namespace RoutineGate
namespace Digest

/-- The value of a character of the alphabet. -/
def sextet? (char : Char) : Option Nat :=
  let code := char.toNat
  if 'A' ≤ char ∧ char ≤ 'Z' then some (code - 65)
  else if 'a' ≤ char ∧ char ≤ 'z' then some (code - 71)
  else if '0' ≤ char ∧ char ≤ '9' then some (code + 4)
  else if char = '+' ∨ char = '-' then some 62
  else if char = '/' ∨ char = '_' then some 63
  else none

/-- What is read of a group of four characters. -/
structure Group where
  /-- How many characters are read. -/
  count : Nat := 0
  /-- The bits that belong to the next byte. -/
  bits : Nat := 0
  /-- How many fillers follow the characters. -/
  fillers : Nat := 0
  deriving DecidableEq, Repr

namespace Group

/-- Adds a character: the byte that it completes, if it does, and the group then. -/
def add (group : Group) (sextet : Nat) : Option UInt8 × Group :=
  match group.count with
  | 0 => (none, { count := 1, bits := sextet })
  | 1 => (some (UInt8.ofNat (group.bits * 4 + sextet / 16)), { count := 2, bits := sextet % 16 })
  | 2 => (some (UInt8.ofNat (group.bits * 16 + sextet / 4)), { count := 3, bits := sextet % 4 })
  | _ => (some (UInt8.ofNat (group.bits * 64 + sextet)), {})

end Group

/-- Reads characters after what is read of a group; a full group of fillers ends the text. -/
def decodeGroups (group : Group) : List Char → Option (List UInt8)
  | [] => if group.count = 0 then some [] else none
  | char :: rest =>
      if char = '=' then
        let fillers := group.fillers + 1
        if 2 ≤ group.count ∧ 4 ≤ group.count + fillers then some []
        else decodeGroups { group with fillers } rest
      else
        match sextet? char with
        | none => decodeGroups group rest
        | some sextet =>
            let (byte, next) := group.add sextet
            (decodeGroups next rest).map fun bytes => byte.toList ++ bytes

/-- The bytes that a text stands for; missing fillers are added. -/
def decodeBase64? (chars : List Char) (size : Nat) : Option (List UInt8) :=
  decodeGroups {} (chars ++ List.replicate ((4 - size % 4) % 4) '=')

@[simp] theorem decodeGroups_nil : decodeGroups {} [] = some [] := rfl

end Digest
end RoutineGate
