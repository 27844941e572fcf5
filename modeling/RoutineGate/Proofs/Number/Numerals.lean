import Mathlib.Data.Nat.Digits.Defs
import RoutineGate.Proofs.Number.Digits
import RoutineGate.Text.Hexadecimal

/-!
# Numerals

A natural number is written with the digits from `0` to `9`, and all ways of reading digits
read it back.
-/

namespace RoutineGate

namespace Text

/-- The digits from `0` to `9` have ten consecutive code points. -/
theorem toNat_bounds_of_isDigit
    {char : Char}
    (digit : char.isDigit = true) :
    48 ≤ char.toNat ∧ char.toNat ≤ 57 := by
  simp only [Char.isDigit, Bool.and_eq_true, decide_eq_true_eq, ge_iff_le,
    UInt32.le_iff_toNat_le] at digit
  exact digit

theorem decimalValue?_of_isDigit
    {char : Char}
    (digit : char.isDigit = true) :
    decimalValue? char = some (char.toNat - 48) := by
  obtain ⟨least, most⟩ := toNat_bounds_of_isDigit digit
  simp [decimalValue?, least, most]

theorem hexValue?_of_isDigit
    {char : Char}
    (digit : char.isDigit = true) :
    hexValue? char = some (char.toNat - 48) := by
  have bounds := toNat_bounds_of_isDigit digit
  have within : '0' ≤ char ∧ char ≤ '9' := bounds
  rw [hexValue?, if_pos within]

/-- Digits write the number in base ten that the core library reads. -/
theorem ofDigitChars_eq
    {digits : List Char}
    (areDigits : ∀ char ∈ digits, char.isDigit = true) :
    ofDigitChars 10 digits = Nat.ofDigitChars 10 digits 0 := by
  rw [Nat.ofDigitChars_eq_foldl, ofDigitChars]
  refine List.foldl_ext _ _ _ fun number char member => ?_
  rw [hexValue?_of_isDigit (areDigits char member), Nat.mul_comm]
  rfl

@[simp] theorem ofDigitChars_toDigits (number : Nat) :
    ofDigitChars 10 (Nat.toDigits 10 number) = number := by
  have areDigits : ∀ char ∈ Nat.toDigits 10 number, char.isDigit = true := fun _ member =>
    Nat.isDigit_of_mem_toDigits (by decide) (by decide) member
  rw [ofDigitChars_eq areDigits, Nat.ofDigitChars_ten_toDigits]

end Text

namespace Binary64

/-- An integer is its sign and its magnitude. -/
theorem signedInt_natAbs (number : Int) :
    signedInt (decide (number < 0)) number.natAbs = number := by
  rw [signedInt]
  split
  · next negative =>
      have below := of_decide_eq_true negative
      omega
  · next positive =>
      have above : ¬number < 0 := fun below => positive (decide_eq_true below)
      omega

end Binary64

namespace Number

/-- The numeral of a number has decimal digits only. -/
theorem isDecimal_of_mem_toDigits
    {number : Nat}
    {char : Char}
    (member : char ∈ Nat.toDigits 10 number) :
    Text.isDecimal char = true := by
  have digit := Nat.isDigit_of_mem_toDigits (by decide) (by decide) member
  rw [Text.isDecimal, Text.decimalValue?_of_isDigit digit]
  rfl

/-- The values of the digits from `0` to `9` write the number that the core library reads. -/
theorem exists_digitValues?_eq
    {digits : List Char}
    (areDigits : ∀ char ∈ digits, char.isDigit = true)
    (start : Nat) :
    ∃ values, digitValues? digits = some values ∧
      values.foldl (fun number digit => number * 10 + digit) start =
        Nat.ofDigitChars 10 digits start := by
  induction digits generalizing start with
  | nil => exact ⟨[], rfl, rfl⟩
  | cons char digits inductionHypothesis =>
      have here := Text.decimalValue?_of_isDigit (areDigits char List.mem_cons_self)
      obtain ⟨values, found, number⟩ := inductionHypothesis
        (fun other member => areDigits other (List.mem_cons_of_mem char member))
        (start * 10 + (char.toNat - 48))
      refine ⟨(char.toNat - 48) :: values, by simp [digitValues?, here, found], ?_⟩
      rw [List.foldl_cons, number, Nat.ofDigitChars_cons, Nat.mul_comm]
      rfl

/-- The digits of a number are read as this number. -/
theorem exists_digitValues?_toDigits (number : Nat) :
    ∃ values, digitValues? (Nat.toDigits 10 number) = some values ∧ ofDigits values = number := by
  have areDigits : ∀ char ∈ Nat.toDigits 10 number, char.isDigit = true := fun _ member =>
    Nat.isDigit_of_mem_toDigits (by decide) (by decide) member
  obtain ⟨values, found, writes⟩ := exists_digitValues?_eq areDigits 0
  exact ⟨values, found, writes.trans Nat.ofDigitChars_ten_toDigits⟩

end Number
end RoutineGate
