import RoutineGate.Json.Parser
import RoutineGate.Text.Utf8

/-!
# Encodings of JSON

A body names its encoding by its first bytes: by a mark, or by the zeros among them, as
the first two characters of JSON are basic Latin.
-/

namespace RoutineGate
namespace Json

/-- How bytes make up a text. -/
inductive Encoding where
  /-- One to four bytes per character. -/
  | utf8
  /-- Two or four bytes per character. -/
  | utf16 (isBigEndian : Bool)
  /-- Four bytes per character. -/
  | utf32 (isBigEndian : Bool)
  deriving DecidableEq, Repr

/-- The encoding that a mark at the start of bytes names, and the bytes after it. -/
def takeMark? : List UInt8 → Option (Encoding × List UInt8)
  | 0x00 :: 0x00 :: 0xFE :: 0xFF :: rest => some (.utf32 true, rest)
  | 0xFF :: 0xFE :: 0x00 :: 0x00 :: rest => some (.utf32 false, rest)
  | 0xFE :: 0xFF :: rest => some (.utf16 true, rest)
  | 0xFF :: 0xFE :: rest => some (.utf16 false, rest)
  | 0xEF :: 0xBB :: 0xBF :: rest => some (.utf8, rest)
  | _ => none

/-- The encoding that the zeros among the first bytes tell. -/
def encodingOfZeros : List UInt8 → Encoding
  | first :: second :: third :: fourth :: _ =>
      if first = 0 then if second = 0 then .utf32 true else .utf16 true
      else if second = 0 then if third = 0 ∧ fourth = 0 then .utf32 false else .utf16 false
      else .utf8
  | [first, second] =>
      if first = 0 then .utf16 true else if second = 0 then .utf16 false else .utf8
  | _ => .utf8

/-- The numbers that units of two bytes write. -/
def units16? (isBigEndian : Bool) : List UInt8 → Option (List Nat)
  | [] => some []
  | [_] => none
  | first :: second :: rest =>
      let unit :=
        if isBigEndian then first.toNat * 256 + second.toNat
        else second.toNat * 256 + first.toNat
      (units16? isBigEndian rest).map (unit :: ·)

/-- The text that units of two bytes make up; surrogates may stand without their partners. -/
def decodeUnits : List Nat → List Char
  | [] => []
  | high :: low :: rest =>
      if 0xD800 ≤ high ∧ high ≤ 0xDBFF ∧ 0xDC00 ≤ low ∧ low ≤ 0xDFFF then
        Char.ofNat (joinSurrogates high low) :: decodeUnits rest
      else charOf high :: decodeUnits (low :: rest)
  | [unit] => [charOf unit]

/-- The text that units of four bytes make up; surrogates may be among them. -/
def decodeUtf32? (isBigEndian : Bool) : List UInt8 → Option (List Char)
  | [] => some []
  | first :: second :: third :: fourth :: rest =>
      let bytes :=
        if isBigEndian then [first, second, third, fourth] else [fourth, third, second, first]
      let code := bytes.foldl (fun code byte => code * 256 + byte.toNat) 0
      if code < 0x110000 then (decodeUtf32? isBigEndian rest).map (charOf code :: ·)
      else none
  | _ => none

/-- The bytes of a text with the replacement character for the surrogates among them. -/
def replaceSurrogates : List UInt8 → List UInt8
  | 0xED :: second :: third :: rest =>
      if 0xA0 ≤ second ∧ second ≤ 0xBF ∧ 0x80 ≤ third ∧ third ≤ 0xBF then
        0xEF :: 0xBF :: 0xBD :: replaceSurrogates rest
      else 0xED :: replaceSurrogates (second :: third :: rest)
  | byte :: bytes => byte :: replaceSurrogates bytes
  | [] => []

/-- The text that bytes make up in an encoding. -/
def Encoding.decode? : Encoding → List UInt8 → Option (List Char)
  | .utf8, bytes => Text.decodeUtf8? (replaceSurrogates bytes)
  | .utf16 isBigEndian, bytes => (units16? isBigEndian bytes).map decodeUnits
  | .utf32 isBigEndian, bytes => decodeUtf32? isBigEndian bytes

/-- The text that bytes make up in the encoding that they name. -/
def decodeBytes? (bytes : List UInt8) : Option (List Char) :=
  let (encoding, rest) := (takeMark? bytes).getD (encodingOfZeros bytes, bytes)
  encoding.decode? rest

/-- Reads the value that bytes write. -/
def parseBytes (bytes : List UInt8) : Except ReadError Value :=
  match decodeBytes? bytes with
  | some chars => parse chars
  | none => .error (.fault .undecodable)

end Json
end RoutineGate
