/-!
# Binary floating point numbers of 64 bits

A finite number is a signed mantissa below `2 ^ 53` times a power of two whose
exponent lies between `-1074` and `971`.  Nothing but reading, comparing and
printing is done with such numbers, so they are kept as exact dyadic fractions, and
the only rounding is from a ratio of natural numbers to the nearest of them.
-/

namespace RoutineGate

/-- A floating point number of 64 bits. -/
inductive Binary64 where
  /-- The number `± mantissa * 2 ^ exponent`. -/
  | finite (negative : Bool) (mantissa : Nat) (exponent : Int)
  /-- An infinity. -/
  | infinite (negative : Bool)
  /-- The result of an undefined operation. -/
  | undefined
  deriving DecidableEq, Repr

namespace Binary64

/-- The least exponent of a finite number. -/
def minExponent : Int := -1074

/-- The greatest exponent of a finite number. -/
def maxExponent : Int := 971

/-- The least mantissa that takes all bits, `2 ^ 52`. -/
def leastMantissa : Nat := 0x10000000000000

/-- The positive or negative zero. -/
def zero (negative : Bool) : Binary64 :=
  .finite negative 0 minExponent

/-- The quotient of two natural numbers, rounded to the nearest, half to the even one. -/
def divideToEven (numerator denominator : Nat) : Nat :=
  let quotient := numerator / denominator
  let twice := 2 * (numerator % denominator)
  if twice < denominator then quotient
  else if denominator < twice then quotient + 1
  else if quotient % 2 = 0 then quotient
  else quotient + 1

/-- The ratio `numerator / (denominator * 2 ^ exponent)` as numerator and denominator. -/
def scaleRatio (numerator denominator : Nat) (exponent : Int) : Nat × Nat :=
  match exponent with
  | .ofNat power => (numerator, denominator * Nat.pow 2 power)
  | .negSucc power => (numerator * Nat.pow 2 (power + 1), denominator)

/-- The greatest power of two that is not above a positive ratio, as exponent. -/
def floorLog (numerator denominator : Nat) : Int :=
  let estimate : Int := (Nat.log2 numerator : Int) - (Nat.log2 denominator : Int)
  let (scaled, unit) := scaleRatio numerator denominator estimate
  if unit ≤ scaled then estimate else estimate - 1

/-- The number nearest to a ratio, with the even mantissa if two are equally near. -/
def ofRatio (negative : Bool) (numerator denominator : Nat) : Binary64 :=
  if numerator = 0 then zero negative
  else
    let exponent := max minExponent (floorLog numerator denominator - 52)
    let (scaled, unit) := scaleRatio numerator denominator exponent
    let mantissa := divideToEven scaled unit
    let (mantissa, exponent) :=
      if mantissa = 2 * leastMantissa then (leastMantissa, exponent + 1) else (mantissa, exponent)
    if maxExponent < exponent then .infinite negative
    else .finite negative mantissa exponent

/-- The number nearest to an integer. -/
def ofInt (number : Int) : Binary64 :=
  ofRatio (number < 0) number.natAbs 1

/-- How many decimal digits a natural number has. -/
def decimalLength (number : Nat) : Nat :=
  (Nat.toDigits 10 number).length

/--
The number nearest to `± digits * 10 ^ exponent`.  Beyond the range of the format the
power of ten is not computed.
-/
def ofDecimal (negative : Bool) (digits : Nat) (exponent : Int) : Binary64 :=
  if digits = 0 then zero negative
  else
    let magnitude := (decimalLength digits : Int) + exponent
    if 400 < magnitude then .infinite negative
    else if magnitude < -400 then zero negative
    else
      match exponent with
      | .ofNat power => ofRatio negative (digits * Nat.pow 10 power) 1
      | .negSucc power => ofRatio negative digits (Nat.pow 10 (power + 1))

/-- The number with the opposite sign. -/
def negate : Binary64 → Binary64
  | .finite negative mantissa exponent => .finite (!negative) mantissa exponent
  | .infinite negative => .infinite (!negative)
  | .undefined => .undefined

/-- Whether a number is neither infinite nor undefined. -/
def isFinite : Binary64 → Bool
  | .finite .. => true
  | _ => false

/-- Whether a number is zero, of either sign. -/
def isZero : Binary64 → Bool
  | .finite _ mantissa _ => mantissa = 0
  | _ => false

/-- The magnitude of a finite number without its fraction. -/
def wholePart (mantissa : Nat) (exponent : Int) : Nat :=
  match exponent with
  | .ofNat power => mantissa * Nat.pow 2 power
  | .negSucc power => mantissa / Nat.pow 2 (power + 1)

/-- An integer with the given sign and magnitude. -/
def signedInt (negative : Bool) (magnitude : Nat) : Int :=
  if negative then -(magnitude : Int) else magnitude

/-- The integer nearest to a finite number in the direction of zero. -/
def truncate? : Binary64 → Option Int
  | .finite negative mantissa exponent =>
      some (signedInt negative (wholePart mantissa exponent))
  | _ => none

/-- Whether a finite number has no fraction. -/
def isIntegral : Binary64 → Bool
  | .finite _ mantissa (.negSucc power) => mantissa % Nat.pow 2 (power + 1) = 0
  | .finite _ _ (.ofNat _) => true
  | _ => false

/-- Compares `left * 2 ^ exponent` with `right`. -/
def compareScaled (left : Int) (exponent : Int) (right : Int) : Ordering :=
  match exponent with
  | .ofNat power => compare (left * Nat.pow 2 power) right
  | .negSucc power => compare left (right * Nat.pow 2 (power + 1))

/-- Compares a number with an integer, exactly; an undefined number has no place. -/
def compareInt? : Binary64 → Int → Option Ordering
  | .finite negative mantissa exponent, number =>
      some (compareScaled (signedInt negative mantissa) exponent number)
  | .infinite negative, _ => some (if negative then .lt else .gt)
  | .undefined, _ => none

/-- Compares two numbers, exactly; an undefined number has no place. -/
def compare? : Binary64 → Binary64 → Option Ordering
  | .undefined, _ => none
  | _, .undefined => none
  | .infinite negative, .infinite other =>
      some (if negative = other then .eq else if negative then .lt else .gt)
  | .infinite negative, .finite .. => some (if negative then .lt else .gt)
  | .finite .., .infinite negative => some (if negative then .gt else .lt)
  | .finite negative mantissa exponent, .finite negative' mantissa' exponent' =>
      let left := signedInt negative mantissa
      let right := signedInt negative' mantissa'
      some <|
        match exponent - exponent' with
        | .ofNat power => compare (left * Nat.pow 2 power) right
        | .negSucc power => compare left (right * Nat.pow 2 (power + 1))

@[simp] theorem negate_negate (number : Binary64) : number.negate.negate = number := by
  cases number <;> simp [negate]

@[simp] theorem isFinite_negate (number : Binary64) :
    number.negate.isFinite = number.isFinite := by
  cases number <;> rfl

/-- A tie is resolved towards an even quotient. -/
theorem divideToEven_of_tie
    {numerator denominator : Nat}
    (tie : 2 * (numerator % denominator) = denominator) :
    divideToEven numerator denominator % 2 = 0 := by
  simp only [divideToEven, tie, Nat.lt_irrefl, if_false]
  split <;> omega

/-- Rounding goes to one of the two neighbouring quotients. -/
theorem divideToEven_bounds
    (numerator denominator : Nat) :
    numerator / denominator ≤ divideToEven numerator denominator ∧
      divideToEven numerator denominator ≤ numerator / denominator + 1 := by
  simp only [divideToEven]
  split
  · omega
  · split
    · omega
    · split <;> omega

end Binary64
end RoutineGate
