import Mathlib.Algebra.Order.Field.Basic
import Mathlib.Algebra.Order.Field.Power
import Mathlib.Data.Rat.Cast.Order
import Mathlib.Tactic.FieldSimp
import Mathlib.Tactic.Linarith
import Mathlib.Tactic.Positivity
import Mathlib.Tactic.Ring
import RoutineGate.Number.Binary64

/-!
# Rounding to the nearest number

A ratio is rounded to the number that it is nearest to.  What is made of a ratio depends on its
value alone.
-/

namespace RoutineGate
namespace Binary64

/-! ## Quotients -/

section Quotients

variable (numerator : Nat) {denominator : Nat} (positive : 0 < denominator)

include positive

/-- A ratio is its whole part and a fraction. -/
theorem div_eq_add_fraction :
    (numerator / denominator : ℚ) =
      (numerator / denominator : Nat) + (numerator % denominator : Nat) / denominator := by
  have nonzero : (denominator : ℚ) ≠ 0 := by exact_mod_cast positive.ne'
  have whole : (numerator : ℚ) =
      denominator * (numerator / denominator : Nat) + (numerator % denominator : Nat) := by
    exact_mod_cast (Nat.div_add_mod numerator denominator).symm
  rw [div_eq_iff nonzero, add_mul, div_mul_cancel₀ _ nonzero, mul_comm, ← whole]

/-- A ratio is rounded down below a half, up above it, and to an even number at it. -/
theorem divideToEven_cases :
    ∃ fraction : ℚ, 0 ≤ fraction ∧ fraction < 1 ∧
      (numerator / denominator : ℚ) = (numerator / denominator : Nat) + fraction ∧
      (fraction ≤ 1 / 2 ∧ divideToEven numerator denominator = numerator / denominator ∨
        1 / 2 ≤ fraction ∧ divideToEven numerator denominator = numerator / denominator + 1) := by
  have positiveCast : (0 : ℚ) < denominator := by exact_mod_cast positive
  have small : ((numerator % denominator : Nat) : ℚ) < denominator := by
    exact_mod_cast Nat.mod_lt numerator positive
  refine ⟨(numerator % denominator : Nat) / denominator, by positivity,
    (div_lt_one positiveCast).mpr small, div_eq_add_fraction numerator positive, ?_⟩
  rw [div_le_div_iff₀ positiveCast two_pos, div_le_div_iff₀ two_pos positiveCast, divideToEven]
  norm_cast
  split
  · left
    omega
  · split
    · right
      omega
    · split
      · left
        omega
      · right
        omega

/-- A ratio is rounded by at most a half. -/
theorem abs_sub_divideToEven_le :
    |(numerator / denominator : ℚ) - divideToEven numerator denominator| ≤ 1 / 2 := by
  obtain ⟨fraction, least, most, whole, ⟨half, rounded⟩ | ⟨half, rounded⟩⟩ :=
    divideToEven_cases numerator positive
  · rw [whole, rounded, add_sub_cancel_left, abs_of_nonneg least]
    exact half
  · rw [whole, rounded, Nat.cast_add, Nat.cast_one, abs_le]
    constructor <;> linarith

/-- A ratio that is less than a half away from a whole number is rounded to it. -/
theorem divideToEven_eq_of_abs_lt
    {whole : Nat}
    (near : |(numerator / denominator : ℚ) - whole| < 1 / 2) :
    divideToEven numerator denominator = whole := by
  have rounded := abs_sub_divideToEven_le numerator positive
  have close : |(divideToEven numerator denominator : ℚ) - whole| < 1 := by
    calc |(divideToEven numerator denominator : ℚ) - whole|
        ≤ |(divideToEven numerator denominator : ℚ) - numerator / denominator| +
            |(numerator / denominator : ℚ) - whole| := abs_sub_le _ _ _
      _ < 1 / 2 + 1 / 2 := by
          rw [abs_sub_comm]
          exact add_lt_add_of_le_of_lt rounded near
      _ = 1 := by norm_num
  have closeInt : |(divideToEven numerator denominator : Int) - whole| < 1 := by
    exact_mod_cast close
  rw [Int.abs_lt_one_iff] at closeInt
  omega

end Quotients

theorem divideToEven_mul
    {factor : Nat}
    (positive : 0 < factor)
    (numerator denominator : Nat) :
    divideToEven (factor * numerator) (factor * denominator) =
      divideToEven numerator denominator := by
  simp only [divideToEven, Nat.mul_div_mul_left _ _ positive, Nat.mul_mod_mul_left,
    Nat.mul_left_comm 2 factor, Nat.mul_lt_mul_left positive]

/-- Rounding depends on the value of a ratio alone. -/
theorem divideToEven_congr
    {numerator denominator numerator' denominator' : Nat}
    (positive : 0 < denominator)
    (positive' : 0 < denominator')
    (same : (numerator / denominator : ℚ) = numerator' / denominator') :
    divideToEven numerator denominator = divideToEven numerator' denominator' := by
  have nonzero : (denominator : ℚ) ≠ 0 := by exact_mod_cast positive.ne'
  have nonzero' : (denominator' : ℚ) ≠ 0 := by exact_mod_cast positive'.ne'
  have crossed : numerator * denominator' = numerator' * denominator := by
    rw [div_eq_div_iff nonzero nonzero'] at same
    exact_mod_cast same
  rw [← divideToEven_mul positive' numerator denominator,
    ← divideToEven_mul positive numerator' denominator', Nat.mul_comm denominator' numerator,
    crossed, Nat.mul_comm numerator' denominator, Nat.mul_comm denominator' denominator]

/-! ## Powers of two -/

/-- The value of a ratio that is scaled by a power of two. -/
theorem scaleRatio_ratio
    (numerator denominator : Nat)
    (exponent : Int) :
    ((scaleRatio numerator denominator exponent).1 /
        (scaleRatio numerator denominator exponent).2 : ℚ) =
      numerator / denominator / 2 ^ exponent := by
  cases exponent with
  | ofNat power =>
      simp only [scaleRatio, Nat.pow_eq, Int.ofNat_eq_natCast, zpow_natCast]
      push_cast
      rw [div_div]
  | negSucc power =>
      simp only [scaleRatio, Nat.pow_eq, zpow_negSucc]
      push_cast
      rw [div_inv_eq_mul, div_mul_eq_mul_div]

theorem scaleRatio_snd_pos
    {denominator : Nat}
    (positive : 0 < denominator)
    (numerator : Nat)
    (exponent : Int) :
    0 < (scaleRatio numerator denominator exponent).2 := by
  cases exponent with
  | ofNat power => exact Nat.mul_pos positive (Nat.pow_pos two_pos)
  | negSucc power => exact positive

/-- A scaled ratio reaches one exactly if the ratio reaches the power of two. -/
theorem scaleRatio_le_iff
    {denominator : Nat}
    (positive : 0 < denominator)
    (numerator : Nat)
    (exponent : Int) :
    (scaleRatio numerator denominator exponent).2 ≤ (scaleRatio numerator denominator exponent).1 ↔
      (2 : ℚ) ^ exponent ≤ numerator / denominator := by
  have unitPositive : (0 : ℚ) < (scaleRatio numerator denominator exponent).2 := by
    exact_mod_cast scaleRatio_snd_pos positive numerator exponent
  rw [← one_le_div₀ (zpow_pos two_pos exponent), ← scaleRatio_ratio, one_le_div₀ unitPositive]
  exact Nat.cast_le.symm

section Logarithm

variable {numerator denominator : Nat}
variable (numeratorPositive : 0 < numerator) (positive : 0 < denominator)

include numeratorPositive positive

/-- A positive ratio lies between the power of two that is found for it and the next one. -/
theorem floorLog_bounds :
    (2 : ℚ) ^ floorLog numerator denominator ≤ numerator / denominator ∧
      (numerator / denominator : ℚ) < 2 ^ (floorLog numerator denominator + 1) := by
  have positiveCast : (0 : ℚ) < denominator := by exact_mod_cast positive
  have below : (2 : ℚ) ^ (Nat.log2 numerator : Int) ≤ numerator := by
    exact_mod_cast Nat.log2_self_le numeratorPositive.ne'
  have above : (numerator : ℚ) < 2 ^ ((Nat.log2 numerator : Int) + 1) := by
    exact_mod_cast Nat.lt_log2_self
  have denominatorBelow : (2 : ℚ) ^ (Nat.log2 denominator : Int) ≤ denominator := by
    exact_mod_cast Nat.log2_self_le positive.ne'
  have denominatorAbove : (denominator : ℚ) < 2 ^ ((Nat.log2 denominator : Int) + 1) := by
    exact_mod_cast Nat.lt_log2_self
  have inspected := scaleRatio_le_iff positive numerator
    ((Nat.log2 numerator : Int) - Nat.log2 denominator)
  rw [floorLog]
  generalize (Nat.log2 numerator : Int) = first at *
  generalize (Nat.log2 denominator : Int) = second at *
  have least : (2 : ℚ) ^ (first - second - 1) ≤ numerator / denominator := by
    rw [le_div_iff₀ positiveCast]
    calc (2 : ℚ) ^ (first - second - 1) * denominator
        ≤ 2 ^ (first - second - 1) * 2 ^ (second + 1) :=
          mul_le_mul_of_nonneg_left denominatorAbove.le (by positivity)
      _ = 2 ^ first := by
          rw [← zpow_add₀ two_ne_zero]
          ring_nf
      _ ≤ numerator := below
  have most : (numerator / denominator : ℚ) < 2 ^ (first - second + 1) := by
    rw [div_lt_iff₀ positiveCast]
    calc (numerator : ℚ) < 2 ^ (first + 1) := above
      _ = 2 ^ (first - second + 1) * 2 ^ second := by
          rw [← zpow_add₀ two_ne_zero]
          ring_nf
      _ ≤ 2 ^ (first - second + 1) * denominator :=
          mul_le_mul_of_nonneg_left denominatorBelow (by positivity)
  dsimp only
  split
  · next reached => exact ⟨inspected.mp reached, most⟩
  · next missed =>
      refine ⟨least, ?_⟩
      rw [Int.sub_add_cancel]
      exact lt_of_not_ge fun reached => missed (inspected.mpr reached)

/-- The power of two is the only one with a ratio between it and the next one. -/
theorem floorLog_eq
    {exponent : Int}
    (least : (2 : ℚ) ^ exponent ≤ numerator / denominator)
    (most : (numerator / denominator : ℚ) < 2 ^ (exponent + 1)) :
    floorLog numerator denominator = exponent := by
  obtain ⟨below, above⟩ := floorLog_bounds numeratorPositive positive
  have first := (zpow_lt_zpow_iff_right₀ one_lt_two).mp (below.trans_lt most)
  have second := (zpow_lt_zpow_iff_right₀ one_lt_two).mp (least.trans_lt above)
  omega

end Logarithm

/-! ## Rounding -/

/-- What is made of a positive ratio, by its rounded mantissa. -/
theorem ofRatio_of_pos
    {numerator : Nat}
    (positive : 0 < numerator)
    (negative : Bool)
    (denominator : Nat) :
    ofRatio negative numerator denominator =
      let exponent := max minExponent (floorLog numerator denominator - 52)
      let scaled := scaleRatio numerator denominator exponent
      let mantissa := divideToEven scaled.1 scaled.2
      if mantissa = 2 * leastMantissa then
        if maxExponent < exponent + 1 then .infinite negative
        else .finite negative leastMantissa (exponent + 1)
      else
        if maxExponent < exponent then .infinite negative
        else .finite negative mantissa exponent := by
  rw [ofRatio, if_neg positive.ne']
  dsimp only
  split
  · split <;> simp_all
  · split <;> simp_all

/-- What is made of a ratio depends on its value alone. -/
theorem ofRatio_congr
    {numerator denominator numerator' denominator' : Nat}
    (positive : 0 < denominator)
    (positive' : 0 < denominator')
    (same : (numerator / denominator : ℚ) = numerator' / denominator')
    (negative : Bool) :
    ofRatio negative numerator denominator = ofRatio negative numerator' denominator' := by
  have positiveCast : (0 : ℚ) < denominator := by exact_mod_cast positive
  have positiveCast' : (0 : ℚ) < denominator' := by exact_mod_cast positive'
  obtain rfl | numeratorPositive := Nat.eq_zero_or_pos numerator
  · have zero : numerator' = 0 := by
      rw [Nat.cast_zero, zero_div, eq_comm, div_eq_zero_iff] at same
      exact_mod_cast same.resolve_right positiveCast'.ne'
    rw [zero]
    rfl
  · have numeratorPositive' : 0 < numerator' := by
      have quotient : (0 : ℚ) < numerator' / denominator' := by
        rw [← same]
        exact div_pos (by exact_mod_cast numeratorPositive) positiveCast
      exact_mod_cast (div_pos_iff_of_pos_right positiveCast').mp quotient
    obtain ⟨least, most⟩ := floorLog_bounds numeratorPositive' positive'
    have logarithm := floorLog_eq numeratorPositive positive (same ▸ least) (same ▸ most)
    rw [ofRatio_of_pos numeratorPositive, ofRatio_of_pos numeratorPositive', logarithm]
    have rounded := divideToEven_congr
      (scaleRatio_snd_pos positive numerator
        (max minExponent (floorLog numerator' denominator' - 52)))
      (scaleRatio_snd_pos positive' numerator'
        (max minExponent (floorLog numerator' denominator' - 52)))
      (by rw [scaleRatio_ratio, scaleRatio_ratio, same])
    dsimp only
    rw [rounded]

/-! ## Canonical numbers -/

/--
A number in the form that the format has for it: the mantissa takes all bits unless the exponent
is the least one.
-/
def IsCanonical : Binary64 → Prop
  | .finite _ mantissa exponent =>
      mantissa < 2 * leastMantissa ∧ (minExponent ≤ exponent ∧ exponent ≤ maxExponent) ∧
        (leastMantissa ≤ mantissa ∨ exponent = minExponent)
  | _ => True

instance : DecidablePred IsCanonical
  | .finite .. => inferInstanceAs (Decidable (_ ∧ _ ∧ _))
  | .infinite _ | .undefined => .isTrue trivial

theorem isCanonical_zero (negative : Bool) : IsCanonical (zero negative) :=
  ⟨by decide, by decide, Or.inr rfl⟩

/-- Whatever a ratio is rounded to is canonical. -/
theorem isCanonical_ofRatio
    {denominator : Nat}
    (positive : 0 < denominator)
    (negative : Bool)
    (numerator : Nat) :
    IsCanonical (ofRatio negative numerator denominator) := by
  obtain rfl | numeratorPositive := Nat.eq_zero_or_pos numerator
  · exact isCanonical_zero negative
  · obtain ⟨least, most⟩ := floorLog_bounds numeratorPositive positive
    rw [ofRatio_of_pos numeratorPositive]
    dsimp only
    set exponent := max minExponent (floorLog numerator denominator - 52) with atExponent
    set scaled := scaleRatio numerator denominator exponent with atScaled
    have unitPositive : 0 < scaled.2 := scaleRatio_snd_pos positive numerator exponent
    have unitCast : (0 : ℚ) < scaled.2 := by exact_mod_cast unitPositive
    have powerPositive : (0 : ℚ) < 2 ^ exponent := zpow_pos two_pos exponent
    have ratio : (scaled.1 / scaled.2 : ℚ) = numerator / denominator / 2 ^ exponent :=
      scaleRatio_ratio numerator denominator exponent
    obtain ⟨below, above⟩ := divideToEven_bounds scaled.1 scaled.2
    have few : scaled.1 / scaled.2 < 2 * leastMantissa := by
      have bound : (scaled.1 / scaled.2 : ℚ) < 2 ^ 53 := by
        rw [ratio, div_lt_iff₀ powerPositive, ← zpow_natCast, ← zpow_add₀ two_ne_zero]
        exact most.trans_le (zpow_le_zpow_right₀ one_le_two (by omega))
      rw [div_lt_iff₀ unitCast] at bound
      refine (Nat.div_lt_iff_lt_mul unitPositive).mpr ?_
      exact_mod_cast bound
    have many : leastMantissa ≤ scaled.1 / scaled.2 ∨ exponent = minExponent := by
      obtain lowest | atLogarithm : exponent = minExponent ∨
          exponent = floorLog numerator denominator - 52 := by omega
      · exact Or.inr lowest
      · refine Or.inl ((Nat.le_div_iff_mul_le unitPositive).mpr ?_)
        have bound : (2 : ℚ) ^ 52 ≤ scaled.1 / scaled.2 := by
          rw [ratio, le_div_iff₀ powerPositive, ← zpow_natCast, ← zpow_add₀ two_ne_zero]
          exact (zpow_le_zpow_right₀ one_le_two (by omega)).trans least
        rw [le_div_iff₀ unitCast] at bound
        exact_mod_cast bound
    have lowest : minExponent ≤ exponent := le_max_left _ _
    split
    · split
      · trivial
      · exact ⟨by decide, by omega, Or.inl le_rfl⟩
    · split
      · trivial
      · exact ⟨by omega, by omega, by omega⟩

/-! ## Nearest numbers -/

/-- How far away a ratio is for certain rounded to a number: half the way to the nearest other. -/
def reach (mantissa : Nat) (exponent : Int) : ℚ :=
  if mantissa = leastMantissa ∧ minExponent < exponent then 2 ^ exponent / 4 else 2 ^ exponent / 2

theorem reach_le_half
    (mantissa : Nat)
    (exponent : Int) :
    reach mantissa exponent ≤ 2 ^ exponent / 2 := by
  have unitPositive : (0 : ℚ) < 2 ^ exponent := zpow_pos two_pos exponent
  rw [reach]
  split <;> linarith

section Near

variable {negative : Bool} {mantissa : Nat} {exponent : Int}
variable {numerator denominator : Nat}
variable (canonical : IsCanonical (.finite negative mantissa exponent))
variable (numeratorPositive : 0 < numerator) (positive : 0 < denominator)
variable (near : |(numerator / denominator : ℚ) - mantissa * 2 ^ exponent| <
  reach mantissa exponent)

include canonical near numeratorPositive positive

/-- A ratio near a number is below the next power of two. -/
theorem floorLog_lt_of_near : floorLog numerator denominator < exponent + 53 := by
  have unitPositive : (0 : ℚ) < 2 ^ exponent := zpow_pos two_pos exponent
  have few : (mantissa + 1 : ℚ) ≤ 2 ^ 53 := by exact_mod_cast canonical.1
  have most := (abs_sub_lt_iff.mp near).1.trans_le (reach_le_half mantissa exponent)
  refine (zpow_lt_zpow_iff_right₀ (one_lt_two (α := ℚ))).mp ?_
  calc (2 : ℚ) ^ floorLog numerator denominator
      ≤ numerator / denominator := (floorLog_bounds numeratorPositive positive).1
    _ < (mantissa + 1) * 2 ^ exponent := by linarith
    _ ≤ 2 ^ 53 * 2 ^ exponent := mul_le_mul_of_nonneg_right few unitPositive.le
    _ = 2 ^ (exponent + 53) := by
        rw [zpow_add₀ two_ne_zero, mul_comm]
        norm_num

/-- A ratio near a number with its power of two, or the least one, is rounded to the number. -/
theorem ofRatio_eq_of_near_within
    (within : (2 : ℚ) ^ (exponent + 52) ≤ numerator / denominator ∨ exponent = minExponent) :
    ofRatio negative numerator denominator = .finite negative mantissa exponent := by
  have unitPositive : (0 : ℚ) < 2 ^ exponent := zpow_pos two_pos exponent
  have below := floorLog_lt_of_near canonical numeratorPositive positive near
  have atExponent : max minExponent (floorLog numerator denominator - 52) = exponent := by
    obtain ⟨-, bounds, -⟩ := canonical
    obtain least | same := within
    · have above := (zpow_lt_zpow_iff_right₀ (one_lt_two (α := ℚ))).mp
        (least.trans_lt (floorLog_bounds numeratorPositive positive).2)
      omega
    · omega
  have rounded : divideToEven (scaleRatio numerator denominator exponent).1
      (scaleRatio numerator denominator exponent).2 = mantissa := by
    refine divideToEven_eq_of_abs_lt _ (scaleRatio_snd_pos positive numerator exponent) ?_
    have scaled : (numerator / denominator / 2 ^ exponent - mantissa : ℚ) =
        (numerator / denominator - mantissa * 2 ^ exponent) / 2 ^ exponent := by
      field_simp
    rw [scaleRatio_ratio, scaled, abs_div, abs_of_pos unitPositive, div_lt_iff₀ unitPositive]
    linarith [near.trans_le (reach_le_half mantissa exponent)]
  obtain ⟨few, bounds, -⟩ := canonical
  rw [ofRatio_of_pos numeratorPositive, atExponent]
  dsimp only
  rw [rounded, if_neg few.ne, if_neg (Int.not_lt.mpr bounds.2)]

/-- A ratio just below the least mantissa is rounded up to it from the next lower exponent. -/
theorem ofRatio_eq_of_near_below
    (below : (numerator / denominator : ℚ) < 2 ^ (exponent + 52))
    (above : minExponent < exponent) :
    ofRatio negative numerator denominator = .finite negative mantissa exponent := by
  have unitPositive : (0 : ℚ) < 2 ^ exponent := zpow_pos two_pos exponent
  have power : ∀ shift : Int, (2 : ℚ) ^ (exponent + shift) = 2 ^ shift * 2 ^ exponent :=
    fun shift => by rw [zpow_add₀ two_ne_zero, mul_comm]
  have isLeast : mantissa = leastMantissa := by
    have least : leastMantissa ≤ mantissa := canonical.2.2.resolve_right above.ne'
    by_contra different
    have more : (2 ^ 52 + 1 : ℚ) ≤ mantissa := by
      exact_mod_cast Nat.lt_of_le_of_ne least (Ne.symm different)
    have nearBelow := (abs_sub_lt_iff.mp near).2.trans_le (reach_le_half mantissa exponent)
    have product := mul_le_mul_of_nonneg_right more unitPositive.le
    rw [power 52] at below
    norm_num at below product
    linarith
  subst isLeast
  rw [reach, if_pos ⟨rfl, above⟩] at near
  have whole : ((leastMantissa : Nat) : ℚ) = 2 ^ 52 := by norm_num [leastMantissa]
  have atLogarithm : floorLog numerator denominator = exponent + 51 := by
    refine floorLog_eq numeratorPositive positive ?_ ?_
    · rw [power 51]
      rw [whole] at near
      have nearBelow := (abs_sub_lt_iff.mp near).2
      norm_num at nearBelow ⊢
      linarith
    · rw [Int.add_assoc]
      exact below
  have atExponent : max minExponent (floorLog numerator denominator - 52) = exponent - 1 := by
    omega
  have rounded : divideToEven (scaleRatio numerator denominator (exponent - 1)).1
      (scaleRatio numerator denominator (exponent - 1)).2 = 2 * leastMantissa := by
    refine divideToEven_eq_of_abs_lt _ (scaleRatio_snd_pos positive numerator (exponent - 1)) ?_
    have half : (2 : ℚ) ^ (exponent - 1) = 2 ^ exponent / 2 := by
      rw [zpow_sub_one₀ two_ne_zero, div_eq_mul_inv]
    have scaled : (numerator / denominator / (2 ^ exponent / 2) - 2 * leastMantissa : ℚ) =
        (numerator / denominator - leastMantissa * 2 ^ exponent) / (2 ^ exponent / 2) := by
      field_simp
    rw [scaleRatio_ratio, half, Nat.cast_mul, Nat.cast_ofNat, scaled, abs_div,
      abs_of_pos (half_pos unitPositive), div_lt_iff₀ (half_pos unitPositive)]
    linarith
  rw [ofRatio_of_pos numeratorPositive, atExponent]
  dsimp only
  rw [rounded, if_pos rfl, Int.sub_add_cancel, if_neg (Int.not_lt.mpr canonical.2.1.2)]

/-- A ratio that is nearer to a number than half the way to any other is rounded to it. -/
theorem ofRatio_eq_of_near :
    ofRatio negative numerator denominator = .finite negative mantissa exponent := by
  by_cases within : (2 : ℚ) ^ (exponent + 52) ≤ numerator / denominator ∨ exponent = minExponent
  · exact ofRatio_eq_of_near_within canonical numeratorPositive positive near within
  · obtain ⟨below, notLeast⟩ := not_or.mp within
    have above : minExponent < exponent := lt_of_le_of_ne canonical.2.1.1 (Ne.symm notLeast)
    exact ofRatio_eq_of_near_below canonical numeratorPositive positive near
      (not_le.mp below) above

end Near

end Binary64
end RoutineGate
