import RoutineGate.Number.Binary64

/-!
# Shortest decimal text of a floating point number

A finite number is written with the fewest significant digits that are read back as
the same number, and among those with the nearest ones.  Exponents from `-4` to `15`
are written positionally, all others after an `e` with a sign and at least two digits.
-/

namespace RoutineGate
namespace Binary64

/-- A decimal fraction `digits * 10 ^ exponent`. -/
structure DecimalFraction where
  /-- The significant digits, as one number. -/
  digits : Nat
  /-- The power of ten that the last digit counts. -/
  exponent : Int
  deriving DecidableEq, Repr

/-- The ratio `mantissa * 2 ^ exponent / 10 ^ place` as numerator and denominator. -/
def decimalRatio (mantissa : Nat) (exponent place : Int) : Nat × Nat :=
  let (numerator, denominator) :=
    match exponent with
    | .ofNat power => (mantissa * Nat.pow 2 power, 1)
    | .negSucc power => (mantissa, Nat.pow 2 (power + 1))
  match place with
  | .ofNat power => (numerator, denominator * Nat.pow 10 power)
  | .negSucc power => (numerator * Nat.pow 10 (power + 1), denominator)

/-- The place of the first significant digit of a positive number. -/
def leadingPlace (mantissa : Nat) (exponent : Int) : Int :=
  let estimate : Int := ((Nat.log2 mantissa : Int) + exponent) * 30103 / 100000
  let atLeast (place : Int) : Bool :=
    let (numerator, denominator) := decimalRatio mantissa exponent place
    denominator ≤ numerator
  if atLeast (estimate + 1) then estimate + 1
  else if atLeast estimate then estimate
  else estimate - 1

/-- Whether a decimal fraction is read as the given number. -/
def readsBack (mantissa : Nat) (exponent : Int) (fraction : DecimalFraction) : Bool :=
  ofDecimal false fraction.digits fraction.exponent = .finite false mantissa exponent

/--
The neighbours of a number on the grid of multiples of `10 ^ place`, the nearer one
first; of two equally near ones the even one is first.
-/
def gridNeighbours (mantissa : Nat) (exponent place : Int) : List DecimalFraction :=
  let (numerator, denominator) := decimalRatio mantissa exponent place
  let below := numerator / denominator
  let nearest := divideToEven numerator denominator
  let other := if nearest = below then below + 1 else below
  [⟨nearest, place⟩, ⟨other, place⟩]

/--
Tries grids from coarse to fine, starting with `count` digits, and takes the first
neighbour that is read back.
-/
def searchDigits (mantissa : Nat) (exponent leading : Int) : Nat → Nat → DecimalFraction
  | 0, _ => ⟨0, 0⟩
  | remaining + 1, count =>
      let place := leading - (count : Int) + 1
      match (gridNeighbours mantissa exponent place).find? (readsBack mantissa exponent) with
      | some fraction => fraction
      | none => searchDigits mantissa exponent leading remaining (count + 1)

/-- Moves zeros at the end of the digits into the exponent. -/
def stripZeros : Nat → DecimalFraction → DecimalFraction
  | 0, fraction => fraction
  | steps + 1, fraction =>
      if fraction.digits ≠ 0 ∧ fraction.digits % 10 = 0 then
        stripZeros steps ⟨fraction.digits / 10, fraction.exponent + 1⟩
      else fraction

/-- The shortest decimal fraction that is read as a positive number. -/
def shortest (mantissa : Nat) (exponent : Int) : DecimalFraction :=
  stripZeros 17 (searchDigits mantissa exponent (leadingPlace mantissa exponent) 17 1)

/-- Writes a decimal fraction positionally, or with an exponent outside the usual range. -/
def writeFraction (fraction : DecimalFraction) : String :=
  let digits := Nat.toDigits 10 fraction.digits
  let count := digits.length
  let leading : Int := (count : Int) + fraction.exponent - 1
  if -4 ≤ leading ∧ leading < 16 then
    match leading with
    | .ofNat power =>
        let whole := digits.take (power + 1) ++ List.replicate (power + 1 - count) '0'
        let rest := digits.drop (power + 1)
        String.ofList (whole ++ '.' :: (if rest.isEmpty then ['0'] else rest))
    | .negSucc power =>
        String.ofList ('0' :: '.' :: (List.replicate power '0' ++ digits))
  else
    let mantissa :=
      match digits with
      | [] => []
      | [digit] => [digit]
      | digit :: rest => digit :: '.' :: rest
    let places := Nat.toDigits 10 leading.natAbs
    let sign := if leading < 0 then '-' else '+'
    String.ofList (mantissa ++ 'e' :: sign :: (List.replicate (2 - places.length) '0' ++ places))

def text : Binary64 → String
  | .undefined => "nan"
  | .infinite negative => if negative then "-inf" else "inf"
  | .finite negative mantissa exponent =>
      let magnitude := if mantissa = 0 then "0.0" else writeFraction (shortest mantissa exponent)
      if negative then "-" ++ magnitude else magnitude

end Binary64
end RoutineGate
