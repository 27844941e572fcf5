import RoutineGate.Proofs.Number.Comparison
import RoutineGate.Proofs.Number.Rounding

/-!
# Rounding integers

An integer is rounded to a floating point number without a fraction.  The number equals the
integer exactly if the integer is a mantissa of 53 bits times a power of two, and the integer
without the rounded bits is rounded to the same number.
-/

namespace RoutineGate
namespace Binary64

/-- An integer is a mantissa of 53 bits, with a sign, times a power of two. -/
def IsRepresentable (whole : Int) : Prop :=
  ∃ mantissa exponent : Nat, mantissa < 2 * leastMantissa ∧
    whole.natAbs = mantissa * 2 ^ exponent

/-! ## Exact ratios -/

/-- The exponent with which a ratio is rounded. -/
def roundingExponent (numerator denominator : Nat) : Int :=
  max minExponent (floorLog numerator denominator - 52)

section Exact

variable {numerator denominator : Nat} (negative : Bool)

/-- What a ratio is rounded to has the given sign. -/
theorem ofRatio_cases (numerator denominator : Nat) :
    ofRatio negative numerator denominator = .infinite negative ∨
      ∃ mantissa exponent, ofRatio negative numerator denominator =
        .finite negative mantissa exponent ∧
        (numerator = 0 ∨ roundingExponent numerator denominator ≤ exponent) := by
  obtain rfl | positive := Nat.eq_zero_or_pos numerator
  · exact .inr ⟨0, minExponent, rfl, .inl rfl⟩
  · rw [ofRatio_of_pos positive]
    dsimp only
    split
    · split
      · exact .inl rfl
      · exact .inr ⟨_, _, rfl, .inr (Int.le_add_one le_rfl)⟩
    · split
      · exact .inl rfl
      · exact .inr ⟨_, _, rfl, .inr le_rfl⟩

/-- A ratio that is a multiple of its unit is rounded to itself. -/
theorem ofRatio_of_multiple
    (numeratorPositive : 0 < numerator)
    (positive : 0 < denominator)
    {count : Nat}
    (exact : (numerator / denominator : ℚ) =
      count * 2 ^ roundingExponent numerator denominator)
    {mantissa : Nat}
    {exponent : Int}
    (rounded : ofRatio negative numerator denominator = .finite negative mantissa exponent) :
    (mantissa * 2 ^ exponent : ℚ) = numerator / denominator := by
  have unitPositive : (0 : ℚ) < 2 ^ roundingExponent numerator denominator :=
    zpow_pos two_pos _
  have quotient : divideToEven
      (scaleRatio numerator denominator (roundingExponent numerator denominator)).1
      (scaleRatio numerator denominator (roundingExponent numerator denominator)).2 = count := by
    refine divideToEven_eq_of_abs_lt _ (scaleRatio_snd_pos positive numerator _) ?_
    rw [scaleRatio_ratio, exact, mul_div_cancel_right₀ _ unitPositive.ne', sub_self, abs_zero]
    norm_num
  rw [ofRatio_of_pos numeratorPositive] at rounded
  simp only [← roundingExponent.eq_def, quotient] at rounded
  rw [exact]
  split at rounded
  · next carried =>
      split at rounded
      · cases rounded
      · obtain ⟨-, rfl, rfl⟩ := Binary64.finite.inj rounded
        rw [carried, zpow_add_one₀ two_ne_zero]
        push_cast
        ring
  · split at rounded
    · cases rounded
    · obtain ⟨-, rfl, rfl⟩ := Binary64.finite.inj rounded
      rfl

end Exact

/-! ## Natural numbers -/

section Natural

variable {numerator mantissa power : Nat}

/-- The unit of a mantissa times a power of two is not above this power. -/
theorem roundingExponent_le
    (positive : 0 < numerator)
    (few : mantissa < 2 * leastMantissa)
    (whole : numerator = mantissa * 2 ^ power) :
    roundingExponent numerator 1 ≤ power := by
  have fewCast : (mantissa : ℚ) < 2 ^ 53 := by exact_mod_cast few
  have above : (2 : ℚ) ^ floorLog numerator 1 < 2 ^ ((53 + power : Nat) : Int) := by
    calc (2 : ℚ) ^ floorLog numerator 1
        ≤ numerator / (1 : Nat) := (floorLog_bounds positive Nat.one_pos).1
      _ = mantissa * 2 ^ power := by rw [Nat.cast_one, div_one, whole]; push_cast; rfl
      _ < 2 ^ 53 * 2 ^ power := mul_lt_mul_of_pos_right fewCast (by positivity)
      _ = 2 ^ ((53 + power : Nat) : Int) := by rw [zpow_natCast, pow_add]
  have logarithm := (zpow_lt_zpow_iff_right₀ (one_lt_two (α := ℚ))).mp above
  have lowest : minExponent ≤ power := le_trans (by decide) (Int.natCast_nonneg power)
  rw [roundingExponent]
  omega

/-- A multiple of a power of two is one of every unit up to this power. -/
theorem exists_multiple
    (whole : numerator = mantissa * 2 ^ power)
    (fine : roundingExponent numerator 1 ≤ power) :
    ∃ count : Nat, (numerator / (1 : Nat) : ℚ) = count * 2 ^ roundingExponent numerator 1 := by
  obtain ⟨shift, apart⟩ := Int.eq_ofNat_of_zero_le (Int.sub_nonneg_of_le fine)
  have exponents : (power : Int) = shift + roundingExponent numerator 1 := by omega
  refine ⟨mantissa * 2 ^ shift, ?_⟩
  have split : (2 : ℚ) ^ power = 2 ^ shift * 2 ^ roundingExponent numerator 1 := by
    rw [← zpow_natCast, exponents, zpow_add₀ two_ne_zero, zpow_natCast]
  have cast : (numerator : ℚ) = mantissa * 2 ^ power := by exact_mod_cast whole
  rw [Nat.cast_one, div_one, cast, split]
  push_cast
  ring

/-- A number without a fraction is a mantissa times a power of two. -/
theorem exists_of_value_eq
    {exponent : Int}
    (few : mantissa < 2 * leastMantissa)
    (value : (mantissa * 2 ^ exponent : ℚ) = numerator) :
    ∃ mantissa power : Nat, mantissa < 2 * leastMantissa ∧ numerator = mantissa * 2 ^ power := by
  cases exponent with
  | ofNat power =>
      refine ⟨mantissa, power, few, ?_⟩
      rw [Int.ofNat_eq_natCast, zpow_natCast] at value
      exact_mod_cast value.symm
  | negSucc power =>
      refine ⟨numerator, 0, ?_, by simp⟩
      have most : (2 : ℚ) ^ Int.negSucc power ≤ 1 :=
        zpow_le_one_of_nonpos₀ one_le_two (Int.negSucc_lt_zero power).le
      have below : (numerator : ℚ) ≤ mantissa := by
        rw [← value]
        exact mul_le_of_le_one_right (Nat.cast_nonneg mantissa) most
      exact lt_of_le_of_lt (by exact_mod_cast below) few

/-- A number that is a natural one has no fraction. -/
theorem isIntegral_of_value_eq
    {exponent : Int}
    (value : (mantissa * 2 ^ exponent : ℚ) = numerator)
    (negative : Bool) :
    (Binary64.finite negative mantissa exponent).isIntegral = true ∧
      wholePart mantissa exponent = numerator := by
  cases exponent with
  | ofNat power =>
      rw [Int.ofNat_eq_natCast, zpow_natCast] at value
      exact ⟨rfl, by exact_mod_cast value⟩
  | negSucc power =>
      have unitPositive : (0 : ℚ) < 2 ^ (power + 1) := by positivity
      rw [zpow_negSucc, ← div_eq_mul_inv, div_eq_iff unitPositive.ne'] at value
      have whole : mantissa = numerator * 2 ^ (power + 1) := by exact_mod_cast value
      subst whole
      constructor
      · simp [isIntegral]
      · exact Nat.mul_div_cancel _ (by positivity)

end Natural

/-! ## Integers -/

section Integer

variable {whole : Int}

theorem isCanonical_ofInt (whole : Int) : IsCanonical (ofInt whole) :=
  isCanonical_ofRatio Nat.one_pos _ _

/-- A finite number that an integer is rounded to has the sign of the integer. -/
theorem exists_ofInt (finite : (ofInt whole).isFinite = true) :
    ∃ mantissa exponent, ofInt whole = .finite (decide (whole < 0)) mantissa exponent ∧
      (whole = 0 ∨ roundingExponent whole.natAbs 1 ≤ exponent) := by
  obtain infinite | ⟨mantissa, exponent, rounded, least⟩ :=
    ofRatio_cases (decide (whole < 0)) whole.natAbs 1
  · rw [ofInt, infinite] at finite
    exact absurd finite (by simp [isFinite])
  · exact ⟨mantissa, exponent, rounded, least.imp_left Int.natAbs_eq_zero.mp⟩

section Rounded

variable {mantissa : Nat} {exponent : Int}
variable (rounded : ofInt whole = .finite (decide (whole < 0)) mantissa exponent)

include rounded

/-- A multiple of its unit is rounded to itself. -/
theorem value_eq_of_multiple
    (nonzero : whole ≠ 0)
    {count power : Nat}
    (multiple : whole.natAbs = count * 2 ^ power)
    (fine : roundingExponent whole.natAbs 1 ≤ power) :
    (mantissa * 2 ^ exponent : ℚ) = whole.natAbs := by
  obtain ⟨units, exact⟩ := exists_multiple multiple fine
  rw [ofRatio_of_multiple _ (Int.natAbs_pos.mpr nonzero) Nat.one_pos exact rounded,
    Nat.cast_one, div_one]

/-- An integer stays what it is exactly if it is representable. -/
theorem value_eq_iff_isRepresentable :
    (mantissa * 2 ^ exponent : ℚ) = whole.natAbs ↔ IsRepresentable whole := by
  constructor
  · have canonical := isCanonical_ofInt whole
    rw [rounded] at canonical
    exact exists_of_value_eq canonical.1
  · rintro ⟨count, power, few, multiple⟩
    obtain rfl | nonzero := eq_or_ne whole 0
    · obtain ⟨-, rfl, rfl⟩ := Binary64.finite.inj (rounded.symm.trans rfl : _ = zero false)
      simp
    · exact value_eq_of_multiple rounded nonzero multiple
        (roundingExponent_le (Int.natAbs_pos.mpr nonzero) few multiple)

/-- What an integer is rounded to is a natural number with its sign, and not zero unless it is. -/
theorem exists_value_eq
    (least : whole = 0 ∨ roundingExponent whole.natAbs 1 ≤ exponent) :
    ∃ magnitude : Nat, (mantissa * 2 ^ exponent : ℚ) = magnitude ∧
      (magnitude = 0 → whole = 0) := by
  obtain rfl | nonzero := eq_or_ne whole 0
  · obtain ⟨-, rfl, rfl⟩ := Binary64.finite.inj (rounded.symm.trans rfl : _ = zero false)
    exact ⟨0, by simp, fun _ => rfl⟩
  · have least := least.resolve_left nonzero
    by_cases fine : roundingExponent whole.natAbs 1 ≤ (0 : Nat)
    · have multiple : whole.natAbs = whole.natAbs * 2 ^ 0 := by simp
      exact ⟨whole.natAbs, value_eq_of_multiple rounded nonzero multiple fine,
        Int.natAbs_eq_zero.mp⟩
    · -- the unit is greater than one, so the mantissa takes all bits
      obtain ⟨power, rfl⟩ := Int.eq_ofNat_of_zero_le (by omega : 0 ≤ exponent)
      have canonical := isCanonical_ofInt whole
      rw [rounded] at canonical
      have full : leastMantissa ≤ mantissa := canonical.2.2.resolve_right fun lowest => by
        have negative : minExponent < 0 := by decide
        omega
      have positive : 0 < leastMantissa := by decide
      refine ⟨mantissa * 2 ^ power, by push_cast; rfl, fun none => ?_⟩
      have product : 0 < mantissa * 2 ^ power := by
        have := positive.trans_le full
        positivity
      omega

end Rounded

theorem reach_pos (mantissa : Nat) (exponent : Int) : 0 < reach mantissa exponent := by
  rw [reach]
  split <;> positivity

/-- A canonical number that is a natural one is what the natural number is rounded to. -/
theorem ofRatio_eq_of_value_eq
    {negative : Bool}
    {mantissa : Nat}
    {exponent : Int}
    {magnitude : Nat}
    (canonical : IsCanonical (.finite negative mantissa exponent))
    (positive : 0 < magnitude)
    (value : (mantissa * 2 ^ exponent : ℚ) = magnitude) :
    ofRatio negative magnitude 1 = .finite negative mantissa exponent := by
  refine ofRatio_eq_of_near canonical positive Nat.one_pos ?_
  rw [value, Nat.cast_one, div_one, sub_self, abs_zero]
  exact reach_pos mantissa exponent

/-- What an integer is rounded to has no fraction, and its integer is rounded to it again. -/
theorem exists_truncate?_ofInt (finite : (ofInt whole).isFinite = true) :
    (ofInt whole).isIntegral = true ∧
      ∃ rounded, (ofInt whole).truncate? = some rounded ∧ ofInt rounded = ofInt whole := by
  obtain ⟨mantissa, exponent, rounded, least⟩ := exists_ofInt finite
  obtain ⟨magnitude, value, given⟩ := exists_value_eq rounded least
  obtain ⟨integral, natural⟩ := isIntegral_of_value_eq value (decide (whole < 0))
  rw [rounded, truncate?, natural]
  refine ⟨integral, _, rfl, ?_⟩
  obtain rfl | positive := Nat.eq_zero_or_pos magnitude
  · obtain rfl := given rfl
    exact rounded
  · have canonical := isCanonical_ofInt whole
    rw [rounded] at canonical
    rw [← ofRatio_eq_of_value_eq canonical positive value, ofInt]
    by_cases below : whole < 0
    · simp [signedInt, below, positive]
    · have notBelow : ¬(magnitude : Int) < 0 := not_lt.mpr (Int.natCast_nonneg magnitude)
      simp [signedInt, below, notBelow]

/-- The floating point number that an integer is rounded to equals a representable one only. -/
theorem same_ofInt_iff (finite : (ofInt whole).isFinite = true) :
    (Numeral.float (ofInt whole)).same (.int whole) = true ↔ IsRepresentable whole := by
  obtain ⟨mantissa, exponent, rounded, -⟩ := exists_ofInt finite
  rw [Numeral.same_iff, ← value_eq_iff_isRepresentable rounded]
  simp only [Numeral.place?, rounded, place?, ne_eq, reduceCtorEq, not_false_eq_true, true_and,
    Option.some.injEq, NumberPlace.rational.injEq, scaled, zpow_zero, mul_one]
  by_cases below : whole < 0
  · have magnitude : ((whole.natAbs : Nat) : ℚ) = -(whole : ℚ) := by
      rw [Nat.cast_natAbs, abs_of_neg below]
      push_cast
      rfl
    rw [magnitude, decide_eq_true below]
    simp only [signedInt, if_true, Int.cast_neg, Int.cast_natCast, neg_mul, neg_eq_iff_eq_neg]
  · have magnitude : ((whole.natAbs : Nat) : ℚ) = whole := by
      rw [Nat.cast_natAbs, abs_of_nonneg (not_lt.mp below)]
    rw [magnitude, decide_eq_false below]
    simp [signedInt]

end Integer

end Binary64
end RoutineGate
