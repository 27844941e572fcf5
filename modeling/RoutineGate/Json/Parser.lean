import RoutineGate.Fault
import RoutineGate.Text.Hexadecimal
import RoutineGate.Value.Basic

/-!
# Reading JSON

A number with a fraction or an exponent is a floating point number, any other one an
integer.  Besides what the format defines, the words for the infinities and for the
undefined number are read.  Of equal keys in a record the last value counts, at the
place of the first one.
-/

namespace RoutineGate
namespace Json

/-- Why a text is not read. -/
inductive ReadError where
  | malformed
  /-- The text holds a number that cannot be computed with. -/
  | fault (fault : Fault)
  deriving DecidableEq, Repr

/-- Whether a character may stand between tokens. -/
def isSpace (char : Char) : Bool :=
  char = ' ' || char = '\t' || char = '\n' || char = '\r'

/-- Removes what stands before the next token. -/
def skipSpace (chars : List Char) : List Char :=
  chars.dropWhile isSpace

/-- The rest of a text after a word, if it starts with it. -/
def dropWord? : List Char → List Char → Option (List Char)
  | [], chars => some chars
  | expected :: word, char :: chars =>
      if expected = char then dropWord? word chars else none
  | _ :: _, [] => none

/-- The number that four hexadecimal digits write, and what follows them. -/
def fourDigits? : List Char → Option (Nat × List Char)
  | first :: second :: third :: fourth :: rest =>
      match Text.hexValue? first, Text.hexValue? second, Text.hexValue? third,
        Text.hexValue? fourth with
      | some first, some second, some third, some fourth =>
          some (((first * 16 + second) * 16 + third) * 16 + fourth, rest)
      | _, _, _, _ => none
  | _ => none

/-- The code point that a high and a low surrogate write together. -/
def joinSurrogates (high low : Nat) : Nat :=
  0x10000 + (high - 0xD800) * 0x400 + (low - 0xDC00)

/-- The low surrogate that an escape at the start of a text writes, and what follows it. -/
def lowSurrogate? : List Char → Option (Nat × List Char)
  | '\\' :: 'u' :: rest =>
      match fourDigits? rest with
      | some (code, rest) =>
          if 0xDC00 ≤ code && code ≤ 0xDFFF then some (code, rest) else none
      | none => none
  | _ => none

/-- The character with a code point; a surrogate without its partner has none of its own. -/
def charOf (code : Nat) : Char :=
  if 0xD800 ≤ code && code ≤ 0xDFFF then Char.ofNat 0xFFFD else Char.ofNat code

/-- Reads a code point after its letter. -/
def readCode? (chars : List Char) : Option (Char × List Char) :=
  match fourDigits? chars with
  | none => none
  | some (code, rest) =>
      if 0xD800 ≤ code && code ≤ 0xDBFF then
        match lowSurrogate? rest with
        | some (low, rest) => some (Char.ofNat (joinSurrogates code low), rest)
        | none => some (charOf code, rest)
      else some (charOf code, rest)

/-- Reads an escape after its backslash. -/
def readEscape? : List Char → Option (Char × List Char)
  | '"' :: rest => some ('"', rest)
  | '\\' :: rest => some ('\\', rest)
  | '/' :: rest => some ('/', rest)
  | 'b' :: rest => some (Char.ofNat 8, rest)
  | 'f' :: rest => some (Char.ofNat 12, rest)
  | 'n' :: rest => some ('\n', rest)
  | 'r' :: rest => some ('\r', rest)
  | 't' :: rest => some ('\t', rest)
  | 'u' :: rest => readCode? rest
  | _ => none

/-- Reads a text after its opening quote, in at most so many steps. -/
def readText? : Nat → List Char → Option (List Char × List Char)
  | 0, _ => none
  | steps + 1, chars =>
      match chars with
      | [] => none
      | '"' :: rest => some ([], rest)
      | '\\' :: rest =>
          match readEscape? rest with
          | some (char, rest) =>
              (readText? steps rest).map fun (chars, rest) => (char :: chars, rest)
          | none => none
      | char :: rest =>
          if char.toNat < 32 then none
          else (readText? steps rest).map fun (chars, rest) => (char :: chars, rest)

/-- Splits the ASCII digits that a text starts with from the rest. -/
def splitDigits (chars : List Char) : List Char × List Char :=
  (chars.takeWhile Char.isDigit, chars.dropWhile Char.isDigit)

/-- The digits of a whole number and what follows; a zero comes alone. -/
def wholeDigits? : List Char → Option (List Char × List Char)
  | '0' :: rest => some (['0'], rest)
  | chars =>
      match splitDigits chars with
      | ([], _) => none
      | digits => some digits

/-- The digits after a point, if there are any, and what follows. -/
def fractionDigits : List Char → List Char × List Char
  | '.' :: rest =>
      match splitDigits rest with
      | ([], _) => ([], '.' :: rest)
      | digits => digits
  | chars => ([], chars)

/-- An exponent, if there is one, and what follows. -/
def exponentPart (chars : List Char) : Option Int × List Char :=
  match chars with
  | mark :: rest =>
      if mark = 'e' ∨ mark = 'E' then
        let (negative, unsigned) := Number.takeSign rest
        match splitDigits unsigned with
        | ([], _) => (none, chars)
        | (digits, rest) =>
            (some (Binary64.signedInt negative (Text.ofDigitChars 10 digits)), rest)
      else (none, chars)
  | [] => (none, [])

def readNumber (chars : List Char) : Except ReadError (Value × List Char) :=
  let (negative, unsigned) :=
    match chars with
    | '-' :: rest => (true, rest)
    | _ => (false, chars)
  match wholeDigits? unsigned with
  | none => .error .malformed
  | some (whole, rest) =>
      let (fraction, rest) := fractionDigits rest
      let (exponent, rest) := exponentPart rest
      if fraction.isEmpty && exponent.isNone then
        if Number.maxDigits < whole.length then
          .error (.fault (.integer (.tooManyDigits whole.length)))
        else .ok (.int (Binary64.signedInt negative (Text.ofDigitChars 10 whole)), rest)
      else
        let digits := Text.ofDigitChars 10 (whole ++ fraction)
        .ok (.float (Binary64.ofDecimal negative digits (exponent.getD 0 - fraction.length)), rest)

/-- The words that stand for values. -/
def words : List (List Char × Value) :=
  [("null".toList, .null), ("true".toList, .bool true), ("false".toList, .bool false),
   ("NaN".toList, .float .undefined), ("Infinity".toList, .float (.infinite false)),
   ("-Infinity".toList, .float (.infinite true))]

/-- Reads a word that stands for a value. -/
def readWord? (chars : List Char) : Option (Value × List Char) :=
  words.findSome? fun (word, value) => (dropWord? word chars).map fun rest => (value, rest)

mutual

/-- Reads a value at the start of a text, in at most so many steps. -/
def readValue : Nat → List Char → Except ReadError (Value × List Char)
  | 0, _ => .error .malformed
  | steps + 1, chars =>
      match chars with
      | '"' :: rest =>
          match readText? (rest.length + 1) rest with
          | some (content, rest) => .ok (.text (String.ofList content), rest)
          | none => .error .malformed
      | '[' :: rest =>
          match skipSpace rest with
          | ']' :: rest => .ok (.list [], rest)
          | rest => do
              let (items, rest) ← readItems steps rest
              return (.list items, rest)
      | '\x7b' :: rest =>
          match skipSpace rest with
          | '\x7d' :: rest => .ok (.record [], rest)
          | rest => do
              let (entries, rest) ← readEntries steps rest
              return (.record (Value.gather entries), rest)
      | _ =>
          match readWord? chars with
          | some found => .ok found
          | none => readNumber chars

/-- Reads the items of a list up to its end. -/
def readItems : Nat → List Char → Except ReadError (List Value × List Char)
  | 0, _ => .error .malformed
  | steps + 1, chars => do
      let (item, rest) ← readValue steps chars
      match skipSpace rest with
      | ',' :: rest =>
          let (items, rest) ← readItems steps (skipSpace rest)
          return (item :: items, rest)
      | ']' :: rest => return ([item], rest)
      | _ => throw .malformed

/-- Reads the entries of a record up to its end. -/
def readEntries : Nat → List Char → Except ReadError (List (String × Value) × List Char)
  | 0, _ => .error .malformed
  | steps + 1, chars =>
      match chars with
      | '"' :: rest =>
          match readText? (rest.length + 1) rest with
          | none => .error .malformed
          | some (key, rest) =>
              match skipSpace rest with
              | ':' :: rest => do
                  let (value, rest) ← readValue steps (skipSpace rest)
                  let entry := (String.ofList key, value)
                  match skipSpace rest with
                  | ',' :: rest =>
                      let (entries, rest) ← readEntries steps (skipSpace rest)
                      return (entry :: entries, rest)
                  | '\x7d' :: rest => return ([entry], rest)
                  | _ => throw .malformed
              | _ => .error .malformed
      | _ => .error .malformed

end

/-- Reads a text that holds one value and nothing else but space. -/
def parse (chars : List Char) : Except ReadError Value := do
  let (value, rest) ← readValue (2 * chars.length + 2) (skipSpace chars)
  if (skipSpace rest).isEmpty then return value
  else throw .malformed

end Json
end RoutineGate
