import RoutineGate.Text.Hexadecimal
import RoutineGate.Text.Utf8

/-!
# Percent encoding

A percent sign with two hexadecimal digits stands for a byte.  A percent sign without
them stands for itself.  What may not be written plainly is written byte by byte.
-/

namespace RoutineGate
namespace Text

/-- The bytes that a text with percent signs stands for. -/
def percentDecode : List Char → List UInt8
  | '%' :: high :: low :: rest =>
      match hexValue? high, hexValue? low with
      | some upper, some lower => UInt8.ofNat (16 * upper + lower) :: percentDecode rest
      | _, _ => 0x25 :: percentDecode (high :: low :: rest)
  | char :: rest => encodeChar char ++ percentDecode rest
  | [] => []

/-- A digit of a byte that is written with a percent sign. -/
def percentDigit (number : Nat) : Char :=
  Char.ofNat (if number < 10 then 48 + number else 55 + number)

/-- A byte written with a percent sign. -/
def percentByte (byte : UInt8) : List Char :=
  ['%', percentDigit (byte.toNat / 16), percentDigit (byte.toNat % 16)]

/-- Writes the characters that fail a test with percent signs. -/
def percentEncode (isPlain : Char → Bool) (chars : List Char) : List Char :=
  chars.flatMap fun char =>
    if isPlain char then [char] else (encodeChar char).flatMap percentByte

@[simp] theorem percentDecode_nil : percentDecode [] = [] := by
  simp [percentDecode]

/-- A character other than the percent sign stands for its own bytes. -/
theorem percentDecode_cons_of_ne
    {char : Char}
    (plain : char ≠ '%')
    (rest : List Char) :
    percentDecode (char :: rest) = encodeChar char ++ percentDecode rest := by
  rw [percentDecode]
  intro high low tail isPercent
  exact absurd isPercent plain

end Text
end RoutineGate
