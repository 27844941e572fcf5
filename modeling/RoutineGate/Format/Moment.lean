import RoutineGate.Number.Binary64
import RoutineGate.Text.Hexadecimal

/-!
# Moments

A moment is a date, a date with a time, or a count of seconds since 1970.  A count
beyond twenty thousand million is taken as milliseconds.
-/

namespace RoutineGate
namespace Format

/-- Splits a number of exactly so many digits from a text. -/
def takeNumber? : Nat → Nat → List Char → Option (Nat × List Char)
  | 0, value, chars => some (value, chars)
  | count + 1, value, char :: chars =>
      if char.isDigit then takeNumber? count (Text.ofDigitChars 10 [char] + 10 * value) chars
      else none
  | _ + 1, _, [] => none

/-- Whether a year has a leap day. -/
def isLeapYear (year : Nat) : Bool :=
  year % 4 = 0 && (year % 100 ≠ 0 || year % 400 = 0)

/-- The number of days of a month. -/
def daysInMonth (year month : Nat) : Nat :=
  if month = 2 then (if isLeapYear year then 29 else 28)
  else if month = 4 ∨ month = 6 ∨ month = 9 ∨ month = 11 then 30
  else 31

/-- Splits a date from a text. -/
def takeDate? (chars : List Char) : Option (List Char) :=
  match takeNumber? 4 0 chars with
  | some (year, '-' :: rest) =>
      match takeNumber? 2 0 rest with
      | some (month, '-' :: rest) =>
          match takeNumber? 2 0 rest with
          | some (day, rest) =>
              if 1 ≤ year ∧ 1 ≤ month ∧ month ≤ 12 ∧ 1 ≤ day ∧ day ≤ daysInMonth year month then
                some rest
              else none
          | none => none
      | _ => none
  | _ => none

/-- Splits optional seconds, with an optional fraction, from a text. -/
def takeSeconds? : List Char → Option (List Char)
  | ':' :: rest =>
      match takeNumber? 2 0 rest with
      | some (second, rest) =>
          if 59 < second then none
          else
            match rest with
            | mark :: digits =>
                if mark = '.' ∨ mark = ',' then
                  if digits.head?.any Char.isDigit then some (digits.dropWhile Char.isDigit)
                  else none
                else some rest
            | [] => some []
      | none => none
  | chars => some chars

/-- Splits a time of day from a text. -/
def takeTime? (chars : List Char) : Option (List Char) :=
  match takeNumber? 2 0 chars with
  | some (hour, ':' :: rest) =>
      match takeNumber? 2 0 rest with
      | some (minute, rest) =>
          if hour ≤ 23 ∧ minute ≤ 59 then takeSeconds? rest else none
      | none => none
  | _ => none

/-- Whether a text is the distance to universal time, or nothing. -/
def isZone : List Char → Bool
  | [] => true
  | sign :: rest =>
      if sign = 'Z' ∨ sign = 'z' then rest.isEmpty
      else if sign = '+' ∨ sign = '-' ∨ sign.toNat = 0x2212 then
        match takeNumber? 2 0 rest with
        | some (hour, rest) =>
            let rest := if rest.head? = some ':' then rest.drop 1 else rest
            match takeNumber? 2 0 rest with
            | some (minute, rest) => rest.isEmpty && hour ≤ 23 && minute ≤ 59
            | none => false
        | none => false
      else false

/-- Whether a character may stand between a date and a time. -/
def isTimeMark (char : Char) : Bool :=
  char = 'T' || char = 't' || char = ' ' || char = '_'

/-- Whether a text is a date with an optional time. -/
def isCalendarMoment (chars : List Char) : Bool :=
  match takeDate? chars with
  | some [] => true
  | some (mark :: rest) => isTimeMark mark && (takeTime? rest).any isZone
  | none => false

/-- The greatest count that is taken as seconds. -/
def maxSecondCount : Int := 20000000000

/-- The first second of the year 1600. -/
def firstSecond : Int := -11676096000

/-- The last second of the year 9999. -/
def lastSecond : Int := 253402300799

/-- Whether `count / unit` seconds, or milliseconds, are within the range of moments. -/
def isCountInRange (count : Int) (unit : Nat) : Bool :=
  let second :=
    if maxSecondCount * unit < count.natAbs then count / (unit * 1000 : Int) else count / unit
  firstSecond ≤ second && second ≤ lastSecond

/-- Whether a text is a count of seconds since 1970. -/
def isCountMoment (chars : List Char) : Bool :=
  let (negative, unsigned) :=
    match chars with
    | '-' :: rest => (true, rest)
    | '+' :: rest => (false, rest)
    | _ => (false, chars)
  let whole := unsigned.takeWhile Char.isDigit
  let fraction :=
    match unsigned.dropWhile Char.isDigit with
    | [] => some []
    | mark :: digits => if mark = '.' ∧ digits.all Char.isDigit then some digits else none
  match fraction with
  | some digits =>
      !whole.isEmpty &&
        isCountInRange (Binary64.signedInt negative (Text.ofDigitChars 10 (whole ++ digits)))
          (Nat.pow 10 digits.length)
  | none => false

/-- Whether a text is a moment. -/
def isMoment (chars : List Char) : Bool :=
  isCalendarMoment chars || isCountMoment chars

/-- Every fourth year is a leap year but for those that end a century. -/
theorem isLeapYear_of_century
    {year : Nat}
    (century : year % 100 = 0) :
    isLeapYear year = decide (year % 400 = 0) := by
  simp only [isLeapYear, century]
  have : year % 4 = 0 := by omega
  simp [this]

end Format
end RoutineGate
