/-!
# UTF-8

Bytes are read one at a time.  A multi-byte character is pending until its last byte
is there; a byte that cannot continue it ends it as malformed and is read afresh.
-/

namespace RoutineGate
namespace Text

/-- A multi-byte character of which the first bytes are read. -/
structure PendingChar where
  /-- How many bytes are missing. -/
  missing : Nat
  /-- The least next byte. -/
  low : Nat
  /-- The greatest next byte. -/
  high : Nat
  /-- The bits that are read. -/
  bits : Nat
  deriving DecidableEq, Repr

/-- What a first byte is: a whole character, the start of one, or neither. -/
def beginChar (byte : Nat) : Option Char ⊕ PendingChar :=
  if byte < 0x80 then .inl (some (Char.ofNat byte))
  else if byte < 0xC2 then .inl none
  else if byte < 0xE0 then .inr ⟨1, 0x80, 0xBF, byte - 0xC0⟩
  else if byte < 0xF0 then
    .inr ⟨2, if byte = 0xE0 then 0xA0 else 0x80, if byte = 0xED then 0x9F else 0xBF, byte - 0xE0⟩
  else if byte < 0xF5 then
    .inr ⟨3, if byte = 0xF0 then 0x90 else 0x80, if byte = 0xF4 then 0x8F else 0xBF, byte - 0xF0⟩
  else .inl none

/-- Reads bytes; each malformed sequence stands as nothing. -/
def decodeMarked (pending : Option PendingChar) : List UInt8 → List (Option Char)
  | [] => if pending.isSome then [none] else []
  | byte :: bytes =>
      let afresh : List (Option Char) :=
        match beginChar byte.toNat with
        | .inl char => char :: decodeMarked none bytes
        | .inr next => decodeMarked (some next) bytes
      match pending with
      | none => afresh
      | some ⟨missing, low, high, bits⟩ =>
          if low ≤ byte.toNat ∧ byte.toNat ≤ high then
            let bits := bits * 64 + (byte.toNat - 0x80)
            if missing ≤ 1 then some (Char.ofNat bits) :: decodeMarked none bytes
            else decodeMarked (some ⟨missing - 1, 0x80, 0xBF, bits⟩) bytes
          else none :: afresh

/-- The elements of a list, if all of them are there. -/
def allSome {α : Type} : List (Option α) → Option (List α)
  | [] => some []
  | none :: _ => none
  | some head :: rest => (allSome rest).map (head :: ·)

/-- The text that bytes encode, if they are well formed. -/
def decodeUtf8? (bytes : List UInt8) : Option (List Char) :=
  allSome (decodeMarked none bytes)

/-- The text that bytes encode, with the replacement character for malformed sequences. -/
def decodeUtf8Leniently (bytes : List UInt8) : List Char :=
  (decodeMarked none bytes).map fun char => char.getD (Char.ofNat 0xFFFD)

/-- The bytes of a character. -/
def encodeChar (char : Char) : List UInt8 :=
  let code := char.toNat
  let continuation (unit : Nat) : Nat := 0x80 + code / unit % 64
  (if code < 0x80 then [code]
    else if code < 0x800 then [0xC0 + code / 64, continuation 1]
    else if code < 0x10000 then [0xE0 + code / 0x1000, continuation 64, continuation 1]
    else
      [0xF0 + code / 0x40000, continuation 0x1000, continuation 64, continuation 1]).map
        UInt8.ofNat

/-- The bytes of a text. -/
def encodeUtf8 (chars : List Char) : List UInt8 :=
  chars.flatMap encodeChar

@[simp] theorem decodeUtf8?_nil : decodeUtf8? [] = some [] := rfl

@[simp] theorem encodeUtf8_cons
    (char : Char)
    (chars : List Char) :
    encodeUtf8 (char :: chars) = encodeChar char ++ encodeUtf8 chars := rfl

/-- An ASCII character is its own byte. -/
theorem decodeMarked_ascii
    {byte : UInt8}
    (ascii : byte.toNat < 0x80)
    (bytes : List UInt8) :
    decodeMarked none (byte :: bytes) =
      some (Char.ofNat byte.toNat) :: decodeMarked none bytes := by
  simp [decodeMarked, beginChar, ascii]

end Text
end RoutineGate
