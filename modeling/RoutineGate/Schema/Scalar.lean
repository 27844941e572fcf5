import RoutineGate.Number.Reading
import RoutineGate.Number.Shortest
import RoutineGate.Schema.Violation
import RoutineGate.Text.Hexadecimal
import RoutineGate.Text.Split

/-!
# Reading scalars

Texts, numbers and truth values are accepted in more forms than one: a number may be
written as a text, and a truth value as a number or a word.  How directly a value has
the form that is asked for decides between the alternatives of a union.
-/

namespace RoutineGate
namespace Schema

/-- How directly a value has the form that is asked for. -/
inductive Exactness where
  /-- The value is converted. -/
  | lax
  /-- The value is taken in a wider type. -/
  | strict
  /-- The value has the type that is asked for. -/
  | exact
  deriving DecidableEq, Repr

namespace Exactness

/-- The position of an exactness in their order. -/
def rank : Exactness → Nat
  | .lax => 0
  | .strict => 1
  | .exact => 2

/-- The lesser of two. -/
def lower (left right : Exactness) : Exactness :=
  if left.rank ≤ right.rank then left else right

@[simp] theorem rank_lower (left right : Exactness) :
    (left.lower right).rank = min left.rank right.rank := by
  simp only [lower]
  split <;> omega

end Exactness

/-- What reading a scalar results in. -/
abbrev Reading (Result : Type) := Except Violation (Result × Exactness)

/-- A value as the text that a coercing schema takes it for. -/
def coerceText : Value → Value
  | .bool flag => .text (if flag then "true" else "false")
  | .int whole => .text (toString whole)
  | .float decimal => .text decimal.text
  | value => value

/-- Takes a value as a text. -/
def readText : Value → Reading String
  | .text content => .ok (content, .exact)
  | _ => .error .notText

/-- Whether a text holds basic Latin characters only. -/
def isBasicLatin (chars : List Char) : Bool :=
  chars.all fun char => char.toNat < 0x80

/-- Reads a floating point number that is written in basic Latin characters. -/
def readBasicFloat? (chars : List Char) : Option Binary64 :=
  if isBasicLatin chars then
    let (negative, unsigned) := Number.takeSign chars
    (Number.readDecimal? negative unsigned).or (Number.readSpecial? negative unsigned)
  else none

/-- Removes low lines, if there are some and each stands between two other characters. -/
def dropLowLines? (chars : List Char) : Option (List Char) :=
  let pieces := Text.splitAt '_' chars
  if 2 ≤ pieces.length ∧ pieces.all (!·.isEmpty) then some pieces.flatten else none

/-- Reads a text as a floating point number. -/
def floatOfText? (content : String) : Option Binary64 :=
  (readBasicFloat? (Number.trimMargin content.toList)).or
    ((dropLowLines? content.toList).bind readBasicFloat?)

/-- Refuses an infinite or undefined number. -/
def requireFinite (number : Binary64) (exactness : Exactness) : Reading Binary64 :=
  if number.isFinite then .ok (number, exactness) else .error .notFinite

/-- Takes a value as a finite number. -/
def readNumber : Value → Reading Binary64
  | .float decimal => requireFinite decimal .exact
  | .int whole =>
      let rounded := Binary64.ofInt whole
      if rounded.isFinite then .ok (rounded, .strict) else .error .notNumber
  | .bool flag => .ok (Binary64.ofInt (if flag then 1 else 0), .lax)
  | .text content =>
      match floatOfText? content with
      | some decimal => requireFinite decimal .lax
      | none => .error .unreadableNumber
  | _ => .error .notNumber

/-- A number without a fraction as an integer. -/
def integralNumeral (number : Binary64) : Numeral :=
  if number.isIntegral then .int (number.truncate?.getD 0) else .float number

/-- The digits before a point that only zeros follow; a text without a point stays as it is. -/
def dropZeroFraction (chars : List Char) : List Char :=
  let (whole, fraction) := Text.partitionAt '.' chars
  if !whole.isEmpty && !fraction.isEmpty && fraction.all (· = '0') then whole else chars

/-- Reads a text as an integer. -/
def integerOfText? (content : String) : Option Int :=
  let (negative, unsigned) := Number.takeSign (Number.trimMargin content.toList)
  let body := dropZeroFraction unsigned
  let digits := if body.contains '_' then (dropLowLines? body).getD [] else body
  if !digits.isEmpty && digits.all Char.isDigit then
    some (Binary64.signedInt negative (Text.ofDigitChars 10 digits))
  else none

/-- The least integer that is too great for 64 bits. -/
def wordBound : Int := 0x8000000000000000

/-- Whether an integer is representable in 64 bits. -/
def isWord (number : Int) : Bool :=
  -wordBound ≤ number && number < wordBound

/-- Takes a floating point number as an integer. -/
def integerOfFloat (number : Binary64) : Reading Int :=
  if !number.isFinite then .error .notFinite
  else if !number.isIntegral then .error .fractional
  else
    match number.truncate? with
    | some whole =>
        if -wordBound < whole && whole < wordBound then .ok (whole, .lax)
        else .error .oversizedInteger
    | none => .error .notFinite

/-- Takes a value as an integer. -/
def readInteger : Value → Reading Int
  | .int whole => .ok (whole, .exact)
  | .bool flag => .ok (if flag then 1 else 0, .lax)
  | .float decimal => integerOfFloat decimal
  | .text content =>
      if Number.maxDigits < content.length then .error .oversizedInteger
      else
        match integerOfText? content with
        | some whole => .ok (whole, .lax)
        | none => .error .unreadableInteger
  | _ => .error .notInteger

/-- The truth value that a word stands for, in any case. -/
def truthOfText? (content : String) : Option Bool :=
  let word := String.ofList (content.toList.map Char.toLower)
  if ["0", "off", "f", "false", "n", "no"].contains word then some false
  else if ["1", "on", "t", "true", "y", "yes"].contains word then some true
  else none

/-- The truth value that an integer stands for. -/
def truthOfInt (number : Int) : Reading Bool :=
  if number = 0 then .ok (false, .lax)
  else if number = 1 then .ok (true, .lax)
  else if isWord number then .error .unreadableBoolean
  else .error .notBoolean

/-- Takes a value as a truth value. -/
def readBoolean : Value → Reading Bool
  | .bool flag => .ok (flag, .exact)
  | .text content =>
      match truthOfText? content with
      | some flag => .ok (flag, .lax)
      | none => .error .unreadableBoolean
  | .int whole => truthOfInt whole
  | .float decimal =>
      if decimal.isIntegral then
        match decimal.truncate? with
        | some whole => truthOfInt whole
        | none => .error .notBoolean
      else .error .notBoolean
  | _ => .error .notBoolean

/-- A truth value is accepted as it is. -/
theorem readBoolean_bool (flag : Bool) : readBoolean (.bool flag) = .ok (flag, .exact) := rfl

/-- Every integer is accepted as it is. -/
theorem readInteger_int (whole : Int) : readInteger (.int whole) = .ok (whole, .exact) := rfl

end Schema
end RoutineGate
