import Mathlib.Algebra.Field.Rat
import Mathlib.Algebra.Order.Field.Rat
import Mathlib.Algebra.Order.Field.Power
import Mathlib.Tactic.Ring
import RoutineGate.Value.Basic

/-!
# Comparing numbers

Numbers are compared exactly, whatever their types: their order is that of their places, which
are rational numbers or one of the two infinities.  An undefined number has no place, and so it
is not even equal to itself.
-/

namespace RoutineGate

/-- Where a number is: at a rational number, or at the positive or negative infinity. -/
inductive NumberPlace where
  | rational (value : ℚ)
  | infinite (negative : Bool)

namespace NumberPlace

/-- The order of two places; the infinities enclose the rational numbers. -/
def order : NumberPlace → NumberPlace → Ordering
  | .rational left, .rational right => compare left right
  | .rational _, .infinite negative => if negative then .gt else .lt
  | .infinite negative, .rational _ => if negative then .lt else .gt
  | .infinite negative, .infinite other =>
      if negative = other then .eq else if negative then .lt else .gt

theorem order_eq_eq_iff
    {left right : NumberPlace} :
    left.order right = .eq ↔ left = right := by
  cases left with
  | rational value =>
      cases right with
      | rational other => simp [order]
      | infinite negative => cases negative <;> simp [order]
  | infinite negative =>
      cases right with
      | rational value => cases negative <;> simp [order]
      | infinite other => cases negative <;> cases other <;> simp [order]

theorem swap_order
    (left right : NumberPlace) :
    (left.order right).swap = right.order left := by
  cases left with
  | rational value =>
      cases right with
      | rational other =>
          rw [order, order, ← cmp_eq_compare, ← cmp_eq_compare]
          exact cmp_swap value other
      | infinite negative => cases negative <;> rfl
  | infinite negative =>
      cases right with
      | rational value => cases negative <;> rfl
      | infinite other => cases negative <;> cases other <;> rfl

end NumberPlace

namespace Binary64

/-- The rational number that a mantissa times a power of two is. -/
def scaled (mantissa exponent : Int) : ℚ :=
  mantissa * 2 ^ exponent

def place? : Binary64 → Option NumberPlace
  | .finite negative mantissa exponent =>
      some (.rational (scaled (signedInt negative mantissa) exponent))
  | .infinite negative => some (.infinite negative)
  | .undefined => none

theorem scaled_shift
    (mantissa exponent : Int)
    (power : Nat) :
    scaled (mantissa * Nat.pow 2 power) exponent = scaled mantissa (exponent + power) := by
  have base : (2 : ℚ) ≠ 0 := two_ne_zero
  simp only [scaled, Nat.pow_eq, Nat.cast_pow, Nat.cast_ofNat, Int.cast_mul, Int.cast_pow,
    Int.cast_ofNat, zpow_add₀ base, zpow_natCast]
  ring

theorem compare_scaled
    (left right exponent : Int) :
    compare (scaled left exponent) (scaled right exponent) = compare left right := by
  have increasing : StrictMono fun mantissa => scaled mantissa exponent := fun _ _ less =>
    mul_lt_mul_of_pos_right (Int.cast_lt.mpr less) (zpow_pos two_pos exponent)
  rw [← cmp_eq_compare, ← cmp_eq_compare]
  exact increasing.cmp_map_eq left right

/-- Scaled numbers are compared after shifting the one with the greater exponent. -/
theorem compare_shifted
    (left right exponent other : Int) :
    (match exponent - other with
      | .ofNat power => compare (left * Nat.pow 2 power) right
      | .negSucc power => compare left (right * Nat.pow 2 (power + 1))) =
      compare (scaled left exponent) (scaled right other) := by
  cases difference : exponent - other with
  | ofNat power =>
      have shifted : other + power = exponent := by
        rw [Int.ofNat_eq_natCast] at difference
        omega
      rw [← shifted, ← scaled_shift, compare_scaled]
  | negSucc power =>
      have shifted : exponent + (power + 1 : Nat) = other := by omega
      rw [← shifted, ← scaled_shift, compare_scaled]

theorem compareScaled_eq
    (left exponent right : Int) :
    compareScaled left exponent right = compare (scaled left exponent) (scaled right 0) := by
  rw [← compare_shifted, Int.sub_zero]
  rfl

/-- A floating point number and an integer are compared by their places. -/
theorem compareInt?_eq
    (number : Binary64)
    (whole : Int) :
    number.compareInt? whole = number.place?.map (·.order (.rational (scaled whole 0))) := by
  cases number with
  | finite negative mantissa exponent => exact congrArg some (compareScaled_eq _ _ _)
  | infinite negative => rfl
  | undefined => rfl

/-- Two floating point numbers are compared by their places. -/
theorem compare?_eq
    (left right : Binary64) :
    left.compare? right = left.place?.bind fun place => right.place?.map place.order := by
  cases left with
  | undefined => rfl
  | infinite negative => cases right <;> rfl
  | finite negative mantissa exponent =>
      cases right with
      | infinite other => rfl
      | undefined => rfl
      | finite negative' mantissa' exponent' => exact congrArg some (compare_shifted _ _ _ _)

end Binary64

namespace Numeral

def place? : Numeral → Option NumberPlace
  | .int number => some (.rational (Binary64.scaled number 0))
  | .float number => number.place?

/-- Two numbers are compared by their places. -/
theorem compare?_eq
    (left right : Numeral) :
    left.compare? right = left.place?.bind fun place => right.place?.map place.order := by
  cases left with
  | int left =>
      cases right with
      | int right => exact congrArg some (Binary64.compare_scaled left right 0).symm
      | float right =>
          simp only [compare?, Binary64.compareInt?_eq, place?, Option.map_map, Option.bind_some]
          exact congrFun (congrArg Option.map (funext fun place => place.swap_order _)) _
  | float left =>
      cases right with
      | int right =>
          simp only [compare?, Binary64.compareInt?_eq, place?, Option.map_some]
          exact (Option.map_eq_bind ..)
      | float right => exact Binary64.compare?_eq left right

/-- Two numbers cannot be compared exactly if one of them has no place. -/
theorem compare?_eq_none_iff
    {left right : Numeral} :
    left.compare? right = none ↔ left.place? = none ∨ right.place? = none := by
  rw [compare?_eq]
  cases left.place? <;> cases right.place? <;> simp

/-- The place of a number comes after that of another one. -/
def IsAfter (left right : Numeral) : Prop :=
  ∃ place other, left.place? = some place ∧ right.place? = some other ∧ place.order other = .gt

theorem compare?_eq_gt_iff
    {left right : Numeral} :
    left.compare? right = some .gt ↔ left.IsAfter right := by
  rw [compare?_eq, IsAfter]
  cases left.place? <;> cases right.place? <;> simp

/-- Two numbers are equal exactly if they have the same place. -/
theorem same_iff
    {left right : Numeral} :
    left.same right = true ↔ left.place? ≠ none ∧ left.place? = right.place? := by
  rw [same, beq_iff_eq, compare?_eq]
  cases left.place? with
  | none => simp
  | some place =>
      cases right.place? with
      | none => simp
      | some other => simp [NumberPlace.order_eq_eq_iff]

/-- A number that equals one of two equal numbers equals the other. -/
theorem same_congr_left
    {left right other : Numeral}
    (equal : left.same right = true) :
    left.same other = right.same other := by
  obtain ⟨placed, equal⟩ := same_iff.mp equal
  rw [Bool.eq_iff_iff, same_iff, same_iff, equal]

end Numeral

end RoutineGate
