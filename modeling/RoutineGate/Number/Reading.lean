import RoutineGate.Number.Binary64
import RoutineGate.Text.Blank
import RoutineGate.Text.Digit
import RoutineGate.Text.Quoted

/-!
# Reading numbers from text

An integer may have blanks around it, a sign, digits of any script, and single low
lines between digits.  A floating point number may moreover have a fraction and an
exponent, or be one of the names of the infinities and of the undefined number.
-/

namespace RoutineGate
namespace Number

/-- Whether a character may stand around a number: a blank that is no information separator. -/
def isMargin (char : Char) : Bool :=
  Text.isBlank char && !(0x1C ≤ char.toNat && char.toNat ≤ 0x1F)

/-- Removes what may stand around a number. -/
def trimMargin (chars : List Char) : List Char :=
  Text.dropWhileEnd isMargin (chars.dropWhile isMargin)

/-- The number that a sequence of decimal digits writes. -/
def ofDigits (digits : List Nat) : Nat :=
  digits.foldl (fun number digit => number * 10 + digit) 0

/-- The values of characters that are all decimal digits. -/
def digitValues? : List Char → Option (List Nat)
  | [] => some []
  | char :: rest =>
      match Text.decimalValue? char, digitValues? rest with
      | some digit, some digits => some (digit :: digits)
      | _, _ => none

/-- Removes low lines that stand between two digits; any other one is refused. -/
def dropSeparators? (afterDigit : Bool) : List Char → Option (List Char)
  | [] => some []
  | '_' :: next :: rest =>
      if afterDigit && Text.isDecimal next then
        (dropSeparators? true rest).map (next :: ·)
      else none
  | ['_'] => none
  | char :: rest => (dropSeparators? (Text.isDecimal char) rest).map (char :: ·)

/-- Splits a sign from a text. -/
def takeSign : List Char → Bool × List Char
  | '-' :: rest => (true, rest)
  | '+' :: rest => (false, rest)
  | chars => (false, chars)

/-- Why a text is not read as an integer. -/
inductive IntegerError where
  /-- The text is no numeral. -/
  | malformed (content : String)
  /-- The numeral has more digits than are converted. -/
  | tooManyDigits (count : Nat)
  deriving DecidableEq, Repr

/-- The greatest number of digits that are converted. -/
def maxDigits : Nat := 4300

namespace IntegerError

def message : IntegerError → String
  | .malformed content => "invalid literal for int() with base 10: " ++ Text.quoted content
  | .tooManyDigits count =>
      "Exceeds the limit (4300 digits) for integer string conversion: " ++
        s!"value has {count} digits; use sys.set_int_max_str_digits() to increase the limit"

end IntegerError

def readInteger (content : String) : Except IntegerError Int :=
  let (negative, unsigned) := takeSign (trimMargin content.toList)
  match dropSeparators? false unsigned with
  | some (first :: rest) =>
      match digitValues? (first :: rest) with
      | some digits =>
          if maxDigits < digits.length then .error (.tooManyDigits digits.length)
          else .ok (Binary64.signedInt negative (ofDigits digits))
      | none => .error (.malformed content)
  | _ => .error (.malformed content)

/-- Splits the decimal digits that a text starts with from the rest. -/
def takeDigits : List Char → List Nat × List Char
  | [] => ([], [])
  | char :: rest =>
      match Text.decimalValue? char with
      | some digit =>
          let (digits, after) := takeDigits rest
          (digit :: digits, after)
      | none => ([], char :: rest)

/-- Reads the exponent after a mantissa, which must be the end of the text. -/
def readExponent? : List Char → Option Int
  | [] => some 0
  | mark :: rest =>
      if mark = 'e' ∨ mark = 'E' then
        let (negative, unsigned) := takeSign rest
        match takeDigits unsigned with
        | ([], _) => none
        | (digits, []) => some (Binary64.signedInt negative (ofDigits digits))
        | _ => none
      else none

/-- Reads digits with an optional fraction and an optional exponent. -/
def readDecimal? (negative : Bool) (chars : List Char) : Option Binary64 :=
  let (whole, rest) := takeDigits chars
  let (fraction, rest) :=
    match rest with
    | '.' :: after => takeDigits after
    | _ => ([], rest)
  if whole.isEmpty && fraction.isEmpty then none
  else
    (readExponent? rest).map fun exponent =>
      Binary64.ofDecimal negative (ofDigits (whole ++ fraction)) (exponent - fraction.length)

/-- Reads the name of an infinity or of the undefined number, in any case. -/
def readSpecial? (negative : Bool) (chars : List Char) : Option Binary64 :=
  match String.ofList (chars.map Char.toLower) with
  | "inf" | "infinity" => some (.infinite negative)
  | "nan" => some .undefined
  | _ => none

/-- Reads a floating point number. -/
def readFloat? (content : String) : Option Binary64 :=
  match dropSeparators? false (trimMargin content.toList) with
  | some chars =>
      let (negative, unsigned) := takeSign chars
      (readDecimal? negative unsigned).or (readSpecial? negative unsigned)
  | none => none

end Number
end RoutineGate
