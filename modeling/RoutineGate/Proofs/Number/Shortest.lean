import Mathlib.Data.Nat.Digits.Defs
import RoutineGate.Number.Shortest
import RoutineGate.Proofs.Number.Rounding

/-!
# Shortest decimal fractions

Seventeen significant digits are enough to tell a number from all others.  So the search for a
decimal fraction that is read back as a number always finds one.
-/

namespace RoutineGate
namespace Binary64

/-! ## Decimal fractions -/

/-- The value of a decimal fraction. -/
def DecimalFraction.value (fraction : DecimalFraction) : ℚ :=
  fraction.digits * 10 ^ fraction.exponent

theorem decimalLength_le_iff
    {number length : Nat}
    (positive : 0 < length) :
    decimalLength number ≤ length ↔ number < 10 ^ length :=
  Nat.length_toDigits_le_iff (by decide) positive

theorem decimalLength_mul_ten
    {number : Nat}
    (positive : 0 < number) :
    decimalLength (number * 10) = decimalLength number + 1 := by
  have appended := Nat.toDigits_append_toDigits (b := 10) (d := 0) (by decide) positive (by decide)
  rw [Nat.add_zero, Nat.mul_comm] at appended
  rw [decimalLength, ← appended, List.length_append, Nat.toDigits_zero]
  rfl

theorem decimalLength_mul_pow
    {number : Nat}
    (positive : 0 < number)
    (count : Nat) :
    decimalLength (number * 10 ^ count) = decimalLength number + count := by
  induction count with
  | zero => rw [Nat.pow_zero, Nat.mul_one, Nat.add_zero]
  | succ count inductionHypothesis =>
      have scaled : 0 < number * 10 ^ count := Nat.mul_pos positive (by positivity)
      rw [Nat.pow_succ, ← Nat.mul_assoc, decimalLength_mul_ten scaled, inductionHypothesis,
        Nat.add_assoc]

/-- The magnitude of a positive decimal fraction, as the place after its first digit. -/
theorem value_bounds
    {fraction : DecimalFraction}
    (positive : 0 < fraction.digits) :
    (10 : ℚ) ^ ((decimalLength fraction.digits : Int) + fraction.exponent - 1) ≤ fraction.value ∧
      fraction.value < 10 ^ ((decimalLength fraction.digits : Int) + fraction.exponent) := by
  have some : 0 < decimalLength fraction.digits := Nat.length_toDigits_pos
  have most : (fraction.digits : ℚ) < 10 ^ (decimalLength fraction.digits : Int) := by
    exact_mod_cast (decimalLength_le_iff some).mp le_rfl
  have least : (10 : ℚ) ^ ((decimalLength fraction.digits : Int) - 1) ≤ fraction.digits := by
    obtain ⟨others, length⟩ := Nat.exists_eq_succ_of_ne_zero some.ne'
    rw [length, Nat.cast_succ, Int.add_sub_cancel]
    cases others with
    | zero => exact_mod_cast positive
    | succ others =>
        have enough : ¬decimalLength fraction.digits ≤ others + 1 := by omega
        rw [decimalLength_le_iff (Nat.succ_pos others), Nat.not_lt] at enough
        exact_mod_cast enough
  have unitPositive : (0 : ℚ) < 10 ^ fraction.exponent := zpow_pos (by norm_num) _
  rw [DecimalFraction.value]
  constructor
  · rw [add_sub_right_comm, zpow_add₀ (by norm_num)]
    exact mul_le_mul_of_nonneg_right least unitPositive.le
  · rw [zpow_add₀ (by norm_num)]
    exact mul_lt_mul_of_pos_right most unitPositive

/-- The ratio of a decimal fraction. -/
def DecimalFraction.ratio (fraction : DecimalFraction) : Nat × Nat :=
  match fraction.exponent with
  | .ofNat power => (fraction.digits * Nat.pow 10 power, 1)
  | .negSucc power => (fraction.digits, Nat.pow 10 (power + 1))

theorem DecimalFraction.ratio_snd_pos (fraction : DecimalFraction) : 0 < fraction.ratio.2 := by
  rw [ratio]
  split
  · exact Nat.one_pos
  · exact Nat.pow_pos (by decide)

theorem DecimalFraction.ratio_eq_value (fraction : DecimalFraction) :
    (fraction.ratio.1 / fraction.ratio.2 : ℚ) = fraction.value := by
  rw [ratio, value]
  cases fraction.exponent with
  | ofNat power =>
      simp only [Nat.pow_eq, Int.ofNat_eq_natCast, zpow_natCast]
      push_cast
      rw [div_one]
  | negSucc power =>
      simp only [Nat.pow_eq, zpow_negSucc]
      push_cast
      rw [div_eq_mul_inv]

/-- What a decimal fraction within the range of the format is read as. -/
theorem ofDecimal_eq_ofRatio
    (fraction : DecimalFraction)
    (positive : 0 < fraction.digits)
    (least : -400 ≤ (decimalLength fraction.digits : Int) + fraction.exponent)
    (most : (decimalLength fraction.digits : Int) + fraction.exponent ≤ 400)
    (negative : Bool) :
    ofDecimal negative fraction.digits fraction.exponent =
      ofRatio negative fraction.ratio.1 fraction.ratio.2 := by
  rw [ofDecimal.eq_def, if_neg positive.ne', DecimalFraction.ratio]
  dsimp only
  rw [if_neg (Int.not_lt.mpr most), if_neg (Int.not_lt.mpr least)]
  cases fraction.exponent <;> rfl

/-- Zeros at the end do not matter. -/
theorem ofDecimal_mul_pow
    (negative : Bool)
    (digits count : Nat)
    (exponent : Int) :
    ofDecimal negative (digits * 10 ^ count) (exponent - count) =
      ofDecimal negative digits exponent := by
  obtain rfl | positive := Nat.eq_zero_or_pos digits
  · rw [Nat.zero_mul]
    rfl
  · have scaled : 0 < digits * 10 ^ count := Nat.mul_pos positive (by positivity)
    have magnitude : ((decimalLength (digits * 10 ^ count) : Nat) : Int) + (exponent - count) =
        decimalLength digits + exponent := by
      rw [decimalLength_mul_pow positive]
      omega
    by_cases within : -400 ≤ (decimalLength digits : Int) + exponent ∧
        (decimalLength digits : Int) + exponent ≤ 400
    · have first := ofDecimal_eq_ofRatio ⟨digits * 10 ^ count, exponent - count⟩
        scaled (magnitude ▸ within.1) (magnitude ▸ within.2) negative
      have second := ofDecimal_eq_ofRatio ⟨digits, exponent⟩ positive within.1
        within.2 negative
      refine first.trans ((ofRatio_congr (DecimalFraction.ratio_snd_pos _)
        (DecimalFraction.ratio_snd_pos _) ?_ negative).trans second.symm)
      rw [DecimalFraction.ratio_eq_value, DecimalFraction.ratio_eq_value, DecimalFraction.value,
        DecimalFraction.value]
      dsimp only
      rw [zpow_sub₀ (by norm_num), zpow_natCast]
      push_cast
      field_simp
    · rw [ofDecimal.eq_def, ofDecimal.eq_def, if_neg positive.ne', if_neg scaled.ne', magnitude]
      dsimp only
      split
      · rfl
      · split
        · rfl
        · omega

/-- The sign is kept. -/
theorem ofRatio_eq_negate
    (numerator denominator : Nat) :
    ofRatio true numerator denominator = (ofRatio false numerator denominator).negate := by
  obtain rfl | positive := Nat.eq_zero_or_pos numerator
  · rfl
  · rw [ofRatio_of_pos positive, ofRatio_of_pos positive]
    dsimp only
    split <;> split <;> rfl

theorem ofDecimal_eq_negate
    (digits : Nat)
    (exponent : Int) :
    ofDecimal true digits exponent = (ofDecimal false digits exponent).negate := by
  rw [ofDecimal.eq_def, ofDecimal.eq_def]
  split
  · rfl
  · dsimp only
    split
    · rfl
    · split
      · rfl
      · split <;> exact ofRatio_eq_negate _ _

/-- What is read as a positive number is read as the negative one behind a sign. -/
theorem ofDecimal_of_eq_finite
    {digits mantissa : Nat}
    {exponent place : Int}
    (done : ofDecimal false digits place = .finite false mantissa exponent)
    (negative : Bool) :
    ofDecimal negative digits place = .finite negative mantissa exponent := by
  cases negative with
  | false => exact done
  | true => rw [ofDecimal_eq_negate, done, negate, Bool.not_false]

/-! ## Powers of two and of ten -/

/-- A power of ten is below a power of two if its exponent is less than `59 / 196` of the other. -/
theorem ten_pow_le_two_pow
    {places bits : Nat}
    (few : 196 * places ≤ 59 * bits) :
    10 ^ places ≤ 2 ^ bits := by
  refine (Nat.pow_le_pow_iff_left (n := 59) (by decide)).mp ?_
  calc (10 ^ places) ^ 59
      = (10 ^ 59) ^ places := Nat.pow_right_comm _ _ _
    _ ≤ (2 ^ 196) ^ places := Nat.pow_le_pow_left (by norm_num) _
    _ = 2 ^ (196 * places) := (Nat.pow_mul _ _ _).symm
    _ ≤ 2 ^ (59 * bits) := Nat.pow_le_pow_right two_pos few
    _ = (2 ^ bits) ^ 59 := by rw [← Nat.pow_mul, Nat.mul_comm]

/-- A power of two is below a power of ten if its exponent is less than `93 / 28` of the other. -/
theorem two_pow_le_ten_pow
    {bits places : Nat}
    (few : 28 * bits ≤ 93 * places) :
    2 ^ bits ≤ 10 ^ places := by
  refine (Nat.pow_le_pow_iff_left (n := 28) (by decide)).mp ?_
  calc (2 ^ bits) ^ 28
      = 2 ^ (28 * bits) := by rw [← Nat.pow_mul, Nat.mul_comm]
    _ ≤ 2 ^ (93 * places) := Nat.pow_le_pow_right two_pos few
    _ = (2 ^ 93) ^ places := Nat.pow_mul _ _ _
    _ ≤ (10 ^ 28) ^ places := Nat.pow_le_pow_left (by norm_num) _
    _ = (10 ^ places) ^ 28 := Nat.pow_right_comm _ _ _

/-- The estimate of a decimal place by a binary one is at most one place too high. -/
theorem ten_zpow_le_two_zpow
    {bits : Int}
    (least : -1100 ≤ bits)
    (most : bits ≤ 1100) :
    (10 : ℚ) ^ (bits * 30103 / 100000 - 1) ≤ 2 ^ bits := by
  obtain low | high := Int.lt_or_le (bits * 30103 / 100000 - 1) 0
  · obtain negative | positive := Int.lt_or_le bits 0
    · obtain ⟨places, place⟩ := Int.exists_eq_neg_ofNat low.le
      obtain ⟨count, width⟩ := Int.exists_eq_neg_ofNat negative.le
      have powers : 2 ^ count ≤ 10 ^ places := two_pow_le_ten_pow (by omega)
      rw [place, width, zpow_neg, zpow_neg, zpow_natCast, zpow_natCast]
      exact inv_anti₀ (by positivity) (by exact_mod_cast powers)
    · exact (zpow_le_one_of_nonpos₀ (by norm_num) low.le).trans
        (one_le_zpow₀ (by norm_num) positive)
  · obtain ⟨places, place⟩ := Int.eq_ofNat_of_zero_le high
    obtain ⟨count, width⟩ := Int.eq_ofNat_of_zero_le (show 0 ≤ bits by omega)
    have powers : 10 ^ places ≤ 2 ^ count := ten_pow_le_two_pow (by omega)
    rw [place, width, zpow_natCast, zpow_natCast]
    exact_mod_cast powers

/-! ## Grids -/

theorem decimalRatio_snd_pos
    (mantissa : Nat)
    (exponent place : Int) :
    0 < (decimalRatio mantissa exponent place).2 := by
  cases exponent <;> cases place <;>
    simp only [decimalRatio, Nat.pow_eq] <;> positivity

/-- The ratio of a number to a power of ten. -/
theorem decimalRatio_ratio
    (mantissa : Nat)
    (exponent place : Int) :
    ((decimalRatio mantissa exponent place).1 / (decimalRatio mantissa exponent place).2 : ℚ) =
      mantissa * 2 ^ exponent / 10 ^ place := by
  cases exponent <;> cases place <;>
    simp only [decimalRatio, Nat.pow_eq, Int.ofNat_eq_natCast, zpow_natCast, zpow_negSucc] <;>
    push_cast <;> field_simp

theorem decimalRatio_le_iff
    (mantissa : Nat)
    (exponent place : Int) :
    (decimalRatio mantissa exponent place).2 ≤ (decimalRatio mantissa exponent place).1 ↔
      (10 : ℚ) ^ place ≤ mantissa * 2 ^ exponent := by
  have unitPositive : (0 : ℚ) < (decimalRatio mantissa exponent place).2 := by
    exact_mod_cast decimalRatio_snd_pos mantissa exponent place
  rw [← one_le_div₀ (zpow_pos (by norm_num) place), ← decimalRatio_ratio, one_le_div₀ unitPositive]
  exact Nat.cast_le.symm

section Canonical

variable {mantissa : Nat} {exponent : Int}
variable (canonical : IsCanonical (.finite false mantissa exponent)) (positive : 0 < mantissa)

include canonical positive

/-- The place of the first digit is not above the number. -/
theorem ten_zpow_leadingPlace_le :
    (10 : ℚ) ^ leadingPlace mantissa exponent ≤ mantissa * 2 ^ exponent := by
  have width : Nat.log2 mantissa < 53 := (Nat.log2_lt positive.ne').mpr canonical.1
  rw [leadingPlace]
  dsimp only
  split
  · next reached => exact (decimalRatio_le_iff _ _ _).mp (of_decide_eq_true reached)
  · split
    · next reached => exact (decimalRatio_le_iff _ _ _).mp (of_decide_eq_true reached)
    · obtain ⟨-, ⟨least, most⟩, -⟩ := canonical
      rw [minExponent] at least
      rw [maxExponent] at most
      refine (ten_zpow_le_two_zpow (by omega) (by omega)).trans ?_
      rw [zpow_add₀ two_ne_zero, zpow_natCast]
      refine mul_le_mul_of_nonneg_right ?_ (zpow_nonneg (by norm_num) _)
      exact_mod_cast Nat.log2_self_le positive.ne'

/-- Seventeen digits tell a number from all others. -/
theorem ten_zpow_lt_reach
    {place : Int}
    (fine : place ≤ leadingPlace mantissa exponent - 16) :
    (10 : ℚ) ^ place / 2 < reach mantissa exponent := by
  have unitPositive : (0 : ℚ) < 2 ^ exponent := zpow_pos two_pos exponent
  have leading := ten_zpow_leadingPlace_le canonical positive
  have step : (10 : ℚ) ^ place * 10 ^ 16 ≤ mantissa * 2 ^ exponent := by
    refine le_trans ?_ leading
    rw [← zpow_natCast, ← zpow_add₀ (by norm_num)]
    exact zpow_le_zpow_right₀ (by norm_num) (by omega)
  rw [reach]
  split
  · next isLeast =>
      have whole : ((leastMantissa : Nat) : ℚ) = 2 ^ 52 := by norm_num [leastMantissa]
      rw [isLeast.1, whole] at step
      norm_num at step
      linarith
  · have few : (mantissa : ℚ) < 2 ^ 53 := by exact_mod_cast canonical.1
    have product := mul_lt_mul_of_pos_right few unitPositive
    norm_num at step product
    linarith

/-- A decimal fraction near a number is neither too great nor too small to be computed. -/
theorem magnitude_of_near
    {fraction : DecimalFraction}
    (near : |fraction.value - mantissa * 2 ^ exponent| < 2 ^ exponent / 2) :
    0 < fraction.digits ∧
      -400 ≤ (decimalLength fraction.digits : Int) + fraction.exponent ∧
      (decimalLength fraction.digits : Int) + fraction.exponent ≤ 400 := by
  have unitPositive : (0 : ℚ) < 2 ^ exponent := zpow_pos two_pos exponent
  have tenPositive : (0 : ℚ) < 10 ^ fraction.exponent := zpow_pos (by norm_num) _
  obtain ⟨few, ⟨least, most⟩, -⟩ := canonical
  rw [minExponent] at least
  rw [maxExponent] at most
  obtain ⟨above, below⟩ := abs_lt.mp near
  have lower : (2 : ℚ) ^ (-1075 : Int) < fraction.value := by
    have one : (1 : ℚ) ≤ mantissa := by exact_mod_cast positive
    have product := mul_le_mul_of_nonneg_right one unitPositive.le
    calc (2 : ℚ) ^ (-1075 : Int)
        ≤ 2 ^ (exponent - 1) := zpow_le_zpow_right₀ one_le_two (by omega)
      _ = 2 ^ exponent / 2 := by rw [zpow_sub_one₀ two_ne_zero, div_eq_mul_inv]
      _ < fraction.value := by linarith
  have upper : fraction.value < 2 ^ 1024 := by
    have whole : (mantissa + 1 : ℚ) ≤ 2 ^ 53 := by exact_mod_cast few
    calc fraction.value
        < (mantissa + 1) * 2 ^ exponent := by linarith
      _ ≤ 2 ^ (53 : Int) * 2 ^ exponent := mul_le_mul_of_nonneg_right whole unitPositive.le
      _ = 2 ^ (53 + exponent) := (zpow_add₀ two_ne_zero _ _).symm
      _ ≤ 2 ^ (1024 : Int) := zpow_le_zpow_right₀ one_le_two (by omega)
      _ = 2 ^ 1024 := zpow_natCast _ _
  have digitsPositive : 0 < fraction.digits := by
    have valuePositive := (zpow_pos two_pos _).trans lower
    rw [DecimalFraction.value, mul_pos_iff_of_pos_right tenPositive] at valuePositive
    exact_mod_cast valuePositive
  obtain ⟨first, next⟩ := value_bounds digitsPositive
  have big : (2 : ℚ) ^ 1024 ≤ 10 ^ (400 : Int) := by
    exact_mod_cast (two_pow_le_ten_pow (by decide) : 2 ^ 1024 ≤ 10 ^ 400)
  have little : (10 : ℚ) ^ (-400 : Int) ≤ 2 ^ (-1075 : Int) := by
    rw [zpow_neg, zpow_neg]
    refine inv_anti₀ (by positivity) ?_
    exact_mod_cast (two_pow_le_ten_pow (by decide) : 2 ^ 1075 ≤ 10 ^ 400)
  have notGreat := (zpow_lt_zpow_iff_right₀ (by norm_num)).mp ((first.trans_lt upper).trans_le big)
  have notSmall := (zpow_lt_zpow_iff_right₀ (by norm_num)).mp (little.trans_lt (lower.trans next))
  omega

/-- A decimal fraction near a number is read as the number. -/
theorem ofDecimal_of_near
    {fraction : DecimalFraction}
    (near : |fraction.value - mantissa * 2 ^ exponent| < reach mantissa exponent) :
    ofDecimal false fraction.digits fraction.exponent = .finite false mantissa exponent := by
  obtain ⟨digitsPositive, least, most⟩ :=
    magnitude_of_near canonical positive (near.trans_le (reach_le_half mantissa exponent))
  have numeratorPositive : 0 < fraction.ratio.1 := by
    rw [DecimalFraction.ratio]
    split
    · exact Nat.mul_pos digitsPositive (Nat.pow_pos (by decide))
    · exact digitsPositive
  rw [ofDecimal_eq_ofRatio fraction digitsPositive least most]
  refine ofRatio_eq_of_near canonical numeratorPositive fraction.ratio_snd_pos ?_
  rw [fraction.ratio_eq_value]
  exact near

/-- The nearest multiple of a power of ten is read as the number if it has seventeen digits. -/
theorem readsBack_nearest
    (place : Int)
    (fine : place ≤ leadingPlace mantissa exponent - 16) :
    readsBack mantissa exponent
      ⟨divideToEven (decimalRatio mantissa exponent place).1
        (decimalRatio mantissa exponent place).2, place⟩ = true := by
  have unitPositive : (0 : ℚ) < 10 ^ place := zpow_pos (by norm_num) place
  have small := ten_zpow_lt_reach canonical positive fine
  have rounded := abs_sub_divideToEven_le (decimalRatio mantissa exponent place).1
    (decimalRatio_snd_pos mantissa exponent place)
  rw [decimalRatio_ratio] at rounded
  refine decide_eq_true (ofDecimal_of_near canonical positive ?_)
  have scaled : |(_ : ℚ)| * 10 ^ place ≤ _ := mul_le_mul_of_nonneg_right rounded unitPositive.le
  rw [← abs_of_pos unitPositive, ← abs_mul, abs_of_pos unitPositive, sub_mul,
    div_mul_cancel₀ _ unitPositive.ne'] at scaled
  rw [DecimalFraction.value, abs_sub_comm]
  linarith

/-- The search finds a fraction that is read as the number if it gets as far as seventeen digits. -/
theorem readsBack_searchDigits
    {remaining count : Nat}
    (enough : 17 < remaining + count)
    (few : count ≤ 17) :
    readsBack mantissa exponent
      (searchDigits mantissa exponent (leadingPlace mantissa exponent) remaining count) = true := by
  induction remaining generalizing count with
  | zero => omega
  | succ remaining inductionHypothesis =>
      rw [searchDigits]
      split
      · next fraction found => exact List.find?_some found
      · next missing =>
          obtain rfl | more := Nat.eq_or_lt_of_le few
          · have nearest := readsBack_nearest canonical positive
              (leadingPlace mantissa exponent - ((17 : Nat) : Int) + 1) (by omega)
            rw [List.find?_eq_none] at missing
            exact absurd nearest (missing _ List.mem_cons_self)
          · exact inductionHypothesis (by omega) more

end Canonical

theorem stripZeros_reads
    (negative : Bool)
    (steps : Nat)
    (fraction : DecimalFraction) :
    ofDecimal negative (stripZeros steps fraction).digits (stripZeros steps fraction).exponent =
      ofDecimal negative fraction.digits fraction.exponent := by
  induction steps generalizing fraction with
  | zero => rfl
  | succ steps inductionHypothesis =>
      rw [stripZeros]
      split
      · next zeros =>
          have moved := ofDecimal_mul_pow negative (fraction.digits / 10) 1 (fraction.exponent + 1)
          rw [Nat.pow_one, Nat.div_mul_cancel (Nat.dvd_of_mod_eq_zero zeros.2), Nat.cast_one,
            Int.add_sub_cancel] at moved
          rw [inductionHypothesis, moved]
      · rfl

/-- The shortest decimal fraction of a number is read as the number. -/
theorem ofDecimal_shortest
    {negative : Bool}
    {mantissa : Nat}
    {exponent : Int}
    (canonical : IsCanonical (.finite negative mantissa exponent))
    (positive : 0 < mantissa) :
    ofDecimal negative (shortest mantissa exponent).digits (shortest mantissa exponent).exponent =
      .finite negative mantissa exponent := by
  have found : readsBack mantissa exponent
      (searchDigits mantissa exponent (leadingPlace mantissa exponent) 17 1) = true :=
    readsBack_searchDigits canonical positive (by decide) (by decide)
  rw [shortest, stripZeros_reads]
  exact ofDecimal_of_eq_finite (of_decide_eq_true found) negative

theorem digits_shortest_pos
    {negative : Bool}
    {mantissa : Nat}
    {exponent : Int}
    (canonical : IsCanonical (.finite negative mantissa exponent))
    (positive : 0 < mantissa) :
    0 < (shortest mantissa exponent).digits := by
  have found := ofDecimal_shortest canonical positive
  refine Nat.pos_of_ne_zero fun none => ?_
  rw [none, ofDecimal.eq_def, if_pos rfl, zero] at found
  injection found with _ same
  exact positive.ne same

end Binary64
end RoutineGate
