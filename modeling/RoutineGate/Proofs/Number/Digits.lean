import RoutineGate.Number.Reading
import RoutineGate.Proofs.Text.Trimming

/-!
# Reading digits

Digits are read as an integer if all of them are decimal, of any scripts, and there are not more
of them than are converted.
-/

namespace RoutineGate

namespace Text

/-- A decimal digit is at most nine code points after a zero. -/
theorem exists_zero_of_isDecimal
    {char : Char}
    (decimal : isDecimal char = true) :
    ∃ nought ∈ decimalZeros, nought ≤ char.toNat ∧ char.toNat ≤ nought + 9 := by
  simp only [isDecimal, decimalValue?] at decimal
  split at decimal
  · next ascii =>
      simp only [Bool.and_eq_true, decide_eq_true_eq] at ascii
      exact ⟨0x30, by simp [decimalZeros], ascii⟩
  · split at decimal
    · exact absurd decimal (by simp)
    · rw [Option.isSome_map, List.find?_isSome] at decimal
      obtain ⟨nought, listed, bounds⟩ := decimal
      simp only [Bool.and_eq_true, decide_eq_true_eq] at bounds
      exact ⟨nought, listed, bounds⟩

theorem isBlank_eq_false_of_isDecimal
    {char : Char}
    (decimal : isDecimal char = true) :
    isBlank char = false := by
  have disjoint : ∀ blank ∈ blankRanges, ∀ nought ∈ decimalZeros,
      blank.2 < nought ∨ nought + 9 < blank.1 := by
    decide +kernel
  rw [Bool.eq_false_iff]
  intro isBlank
  obtain ⟨blank, blankListed, blankBounds⟩ := Ranges.exists_of_contains isBlank
  obtain ⟨nought, listed, bounds⟩ := exists_zero_of_isDecimal decimal
  have apart := disjoint blank blankListed nought listed
  omega

theorem isDigit_of_isDecimal
    {char : Char}
    (decimal : isDecimal char = true) :
    isDigit char = true := by
  rw [isDigit, decimal, Bool.true_or]

/-- No digit is blank, decimal or not. -/
theorem isBlank_eq_false_of_isDigit
    {char : Char}
    (digit : isDigit char = true) :
    isBlank char = false := by
  have disjoint : ∀ blank ∈ blankRanges, ∀ other ∈ otherDigitRanges,
      blank.2 < other.1 ∨ other.2 < blank.1 := by
    decide +kernel
  obtain decimal | other := Bool.or_eq_true_iff.mp digit
  · exact isBlank_eq_false_of_isDecimal decimal
  · rw [Bool.eq_false_iff]
    intro isBlank
    obtain ⟨blank, blankListed, blankBounds⟩ := Ranges.exists_of_contains isBlank
    obtain ⟨range, listed, bounds⟩ := Ranges.exists_of_contains other
    have apart := disjoint blank blankListed range listed
    omega

end Text

namespace Number

/-! ## Decimal digits -/

/-- Digits have values exactly if all of them are decimal. -/
theorem digitValues?_eq_none_iff
    {digits : List Char} :
    digitValues? digits = none ↔ ∃ char ∈ digits, Text.isDecimal char = false := by
  induction digits with
  | nil => simp [digitValues?]
  | cons char digits inductionHypothesis =>
      rw [List.exists_mem_cons_iff, ← inductionHypothesis, digitValues?, Text.isDecimal]
      cases Text.decimalValue? char with
      | none => simp
      | some value => cases digitValues? digits <;> simp

theorem length_of_digitValues?
    {digits : List Char}
    {values : List Nat}
    (found : digitValues? digits = some values) :
    values.length = digits.length := by
  induction digits generalizing values with
  | nil =>
      obtain rfl := Option.some.inj found
      rfl
  | cons char digits inductionHypothesis =>
      rw [digitValues?] at found
      split at found
      · next value others _ continued =>
          obtain rfl := Option.some.inj found
          rw [List.length_cons, List.length_cons, inductionHypothesis continued]
      · exact absurd found (by simp)

/-! ## Reading -/

section Digits

variable {digits : List Char} (areDigits : ∀ char ∈ digits, Text.isDigit char = true)

include areDigits

theorem trimMargin_of_digits : trimMargin digits = digits := by
  have noMargin : ∀ char ∈ digits, isMargin char = false := fun char member => by
    rw [isMargin, Text.isBlank_eq_false_of_isDigit (areDigits char member), Bool.false_and]
  have starts : digits.dropWhile isMargin = digits := by
    cases digits with
    | nil => rfl
    | cons char rest =>
        exact List.dropWhile_cons_of_neg (by simp [noMargin char List.mem_cons_self])
  rw [trimMargin, starts, Text.dropWhileEnd_of_forall noMargin]

theorem dropSeparators?_of_digits (afterDigit : Bool) :
    dropSeparators? afterDigit digits = some digits := by
  induction digits generalizing afterDigit with
  | nil => rfl
  | cons char digits inductionHypothesis =>
      have others := inductionHypothesis fun other member =>
        areDigits other (List.mem_cons_of_mem char member)
      have notSeparator : char ≠ '_' := by
        rintro rfl
        exact absurd (areDigits '_' List.mem_cons_self) (by decide)
      unfold dropSeparators?
      split
      · next same => exact absurd same (List.cons_ne_nil _ _)
      · next same => exact absurd (List.cons.inj same).1 notSeparator
      · next same => exact absurd (List.cons.inj same).1 notSeparator
      · next same =>
          obtain ⟨rfl, rfl⟩ := List.cons.inj same
          rw [others]
          rfl

theorem takeSign_of_digits : takeSign digits = (false, digits) := by
  unfold takeSign
  split
  · exact absurd (areDigits '-' List.mem_cons_self) (by decide)
  · exact absurd (areDigits '+' List.mem_cons_self) (by decide)
  · rfl

/-- Digits are read as the number that they write, if they are decimal and not too many. -/
theorem readInteger_of_digits (nonempty : digits ≠ []) :
    readInteger (String.ofList digits) =
      match digitValues? digits with
      | some values =>
          if maxDigits < digits.length then .error (.tooManyDigits digits.length)
          else .ok (ofDigits values)
      | none => .error (.malformed (String.ofList digits)) := by
  obtain ⟨first, rest, rfl⟩ := List.exists_cons_of_ne_nil nonempty
  simp only [readInteger, String.toList_ofList, trimMargin_of_digits areDigits,
    takeSign_of_digits areDigits, dropSeparators?_of_digits areDigits]
  cases found : digitValues? (first :: rest) with
  | none => rfl
  | some values =>
      simp only [length_of_digitValues? found]
      rfl

end Digits

end Number
end RoutineGate
