import RoutineGate.Json.Parser
import RoutineGate.Json.Printer
import RoutineGate.Proofs.Number.Numerals
import RoutineGate.Proofs.Number.Shortest

/-!
# Reading written numbers

A number is written in parts: a sign, whole digits, digits after a point and an exponent.  Put
together, the parts are read as the number that they make up.
-/

namespace RoutineGate
namespace Json

/-! ## Digits -/

def AreDigits (chars : List Char) : Prop :=
  ∀ char ∈ chars, char.isDigit = true

theorem AreDigits.append
    {first second : List Char}
    (firstDigits : AreDigits first)
    (secondDigits : AreDigits second) :
    AreDigits (first ++ second) :=
  List.forall_mem_append.mpr ⟨firstDigits, secondDigits⟩

theorem areDigits_toDigits (number : Nat) : AreDigits (Nat.toDigits 10 number) := fun _ member =>
  Nat.isDigit_of_mem_toDigits (by decide) (by decide) member

theorem areDigits_replicate (count : Nat) : AreDigits (List.replicate count '0') := by
  intro char member
  rw [List.eq_of_mem_replicate member]
  rfl

/-- Zeros at the start do not matter. -/
theorem ofDigitChars_zeros_append
    (count : Nat)
    {digits : List Char}
    (areDigits : AreDigits digits) :
    Text.ofDigitChars 10 (List.replicate count '0' ++ digits) = Text.ofDigitChars 10 digits := by
  rw [Text.ofDigitChars_eq ((areDigits_replicate count).append areDigits),
    Text.ofDigitChars_eq areDigits, Nat.ofDigitChars_append, Nat.ofDigitChars_replicate_zero,
    Nat.mul_zero]

/-- Zeros at the end multiply by a power of ten. -/
theorem ofDigitChars_append_zeros
    (count : Nat)
    {digits : List Char}
    (areDigits : AreDigits digits) :
    Text.ofDigitChars 10 (digits ++ List.replicate count '0') =
      Text.ofDigitChars 10 digits * 10 ^ count := by
  rw [Text.ofDigitChars_eq (areDigits.append (areDigits_replicate count)),
    Text.ofDigitChars_eq areDigits, Nat.ofDigitChars_append, Nat.ofDigitChars_replicate_zero,
    Nat.mul_comm]

/-- Only the numeral of zero starts with a zero. -/
theorem head?_toDigits_ne
    {number : Nat}
    (positive : 0 < number) :
    (Nat.toDigits 10 number).head? ≠ some '0' := by
  induction number using Nat.strongRecOn with
  | ind number inductionHypothesis =>
      obtain small | large := Nat.lt_or_ge number 10
      · rw [Nat.toDigits_of_lt_base small]
        have nonzero : ∀ digit < 10, 0 < digit → [digit.digitChar].head? ≠ some '0' := by decide
        exact nonzero number small positive
      · rw [Nat.toDigits_of_base_le (by decide) large,
          List.head?_append_of_ne_nil _ Nat.toDigits_ne_nil]
        exact inductionHypothesis (number / 10) (by omega) (by omega)

theorem splitDigits_append
    {digits rest : List Char}
    (areDigits : AreDigits digits)
    (ends : ∀ char ∈ rest.head?, char.isDigit = false) :
    splitDigits (digits ++ rest) = (digits, rest) := by
  have stops : rest.takeWhile Char.isDigit = [] ∧ rest.dropWhile Char.isDigit = rest := by
    cases rest with
    | nil => exact ⟨rfl, rfl⟩
    | cons char rest =>
        have other : ¬char.isDigit = true := by simp [ends char rfl]
        exact ⟨List.takeWhile_cons_of_neg other, List.dropWhile_cons_of_neg other⟩
  rw [splitDigits, List.takeWhile_append_of_pos areDigits, List.dropWhile_append_of_pos areDigits,
    stops.1, stops.2, List.append_nil]

/-! ## Parts of a number -/

/-- The parts of a written number: whole digits without needless zeros, and what else there is. -/
structure NumberParts where
  negative : Bool
  whole : List Char
  /-- The digits after the point; without any there is no point. -/
  fraction : List Char
  /-- The sign and the digits of the exponent. -/
  exponent : Option (Bool × List Char)
  wholeNonempty : whole ≠ []
  wholeAreDigits : AreDigits whole
  zeroAlone : whole.head? = some '0' → whole = ['0']
  fractionAreDigits : AreDigits fraction
  exponentIsNumeral : ∀ part ∈ exponent, part.2 ≠ [] ∧ AreDigits part.2

namespace NumberParts

/-- A minus for a negative number. -/
def signText (negative : Bool) : List Char :=
  if negative then ['-'] else []

def fractionText (fraction : List Char) : List Char :=
  if fraction = [] then [] else '.' :: fraction

def exponentText : Option (Bool × List Char) → List Char
  | none => []
  | some (negative, digits) => 'e' :: (if negative then '-' else '+') :: digits

/-- The parts put together. -/
def text (parts : NumberParts) : List Char :=
  signText parts.negative ++
    (parts.whole ++ (fractionText parts.fraction ++ exponentText parts.exponent))

/-- Whether a number has neither a fraction nor an exponent. -/
def isInteger (parts : NumberParts) : Bool :=
  parts.fraction.isEmpty && parts.exponent.isNone

def exponentValue? (exponent : Option (Bool × List Char)) : Option Int :=
  exponent.map fun part => Binary64.signedInt part.1 (Text.ofDigitChars 10 part.2)

/-- The number that the parts make up. -/
def value (parts : NumberParts) : Value :=
  if parts.isInteger then
    .int (Binary64.signedInt parts.negative (Text.ofDigitChars 10 parts.whole))
  else
    .float (Binary64.ofDecimal parts.negative
      (Text.ofDigitChars 10 (parts.whole ++ parts.fraction))
      ((exponentValue? parts.exponent).getD 0 - parts.fraction.length))

end NumberParts

/-! ## Reading -/

/-- Whether a text does not continue a number before it. -/
def EndsNumber (rest : List Char) : Prop :=
  ∀ char ∈ rest.head?, char.isDigit = false ∧ char ≠ '.' ∧ char ≠ 'e' ∧ char ≠ 'E'

namespace NumberParts

variable {rest : List Char}

theorem exponentPart_append
    {exponent : Option (Bool × List Char)}
    (isNumeral : ∀ part ∈ exponent, part.2 ≠ [] ∧ AreDigits part.2)
    (ends : EndsNumber rest) :
    exponentPart (exponentText exponent ++ rest) = (exponentValue? exponent, rest) := by
  cases exponent with
  | none =>
      cases rest with
      | nil => rfl
      | cons char rest =>
          obtain ⟨-, -, notLower, notUpper⟩ := ends char rfl
          simp [exponentText, exponentPart, exponentValue?, notLower, notUpper]
  | some part =>
      obtain ⟨negative, digits⟩ := part
      obtain ⟨nonempty, areDigits⟩ := isNumeral _ rfl
      obtain ⟨first, others, rfl⟩ := List.exists_cons_of_ne_nil nonempty
      have split := splitDigits_append areDigits fun char member => (ends char member).1
      rw [List.cons_append] at split
      cases negative <;>
        simp [exponentText, exponentPart, exponentValue?, Number.takeSign, split]

theorem fractionDigits_append
    {fraction : List Char}
    (areDigits : AreDigits fraction)
    (ends : ∀ char ∈ rest.head?, char.isDigit = false ∧ char ≠ '.') :
    fractionDigits (fractionText fraction ++ rest) = (fraction, rest) := by
  cases fraction with
  | nil =>
      rw [fractionText, if_pos rfl, List.nil_append]
      unfold fractionDigits
      split
      · next after => exact absurd rfl (ends '.' rfl).2
      · rfl
  | cons first others =>
      have split := splitDigits_append areDigits fun char member => (ends char member).1
      rw [fractionText, if_neg (List.cons_ne_nil _ _), List.cons_append, fractionDigits, split]

theorem wholeDigits?_append
    {whole : List Char}
    (nonempty : whole ≠ [])
    (areDigits : AreDigits whole)
    (zeroAlone : whole.head? = some '0' → whole = ['0'])
    (ends : ∀ char ∈ rest.head?, char.isDigit = false) :
    wholeDigits? (whole ++ rest) = some (whole, rest) := by
  obtain ⟨first, others, rfl⟩ := List.exists_cons_of_ne_nil nonempty
  unfold wholeDigits?
  split
  · next after same =>
      obtain ⟨rfl, continued⟩ := List.cons.inj same
      obtain ⟨-, rfl⟩ := List.cons.inj (zeroAlone rfl)
      rw [← continued]
      rfl
  · rw [splitDigits_append areDigits ends]

/-- The first character of a number is a digit or a minus before a digit. -/
theorem exists_text_eq (parts : NumberParts) :
    ∃ first others, first.isDigit = true ∧
      parts.text = signText parts.negative ++ first :: others := by
  obtain ⟨first, others, whole⟩ := List.exists_cons_of_ne_nil parts.wholeNonempty
  have digit := parts.wholeAreDigits first (whole ▸ List.mem_cons_self)
  exact ⟨first, _, digit, by rw [text, whole, List.cons_append]⟩

/-- What is read part by part is the number, unless it has too many digits for an integer. -/
theorem readNumber_of_parts
    (parts : NumberParts)
    {after exponent : List Char}
    (wholeEnds : parts.whole ≠ ['0'] → ∀ char ∈ after.head?, char.isDigit = false)
    (readFraction : fractionDigits after = (parts.fraction, exponent))
    (readExponent : exponentPart exponent = (exponentValue? parts.exponent, rest)) :
    readNumber (signText parts.negative ++ (parts.whole ++ after)) =
      if parts.isInteger = true ∧ Number.maxDigits < parts.whole.length then
        .error (.fault (.integer (.tooManyDigits parts.whole.length)))
      else .ok (parts.value, rest) := by
  have whole : wholeDigits? (parts.whole ++ after) = some (parts.whole, after) := by
    by_cases zero : parts.whole = ['0']
    · rw [zero]
      rfl
    · exact wholeDigits?_append parts.wholeNonempty parts.wholeAreDigits parts.zeroAlone
        (wholeEnds zero)
  have integer : (exponentValue? parts.exponent).isNone = parts.exponent.isNone := Option.isNone_map
  unfold readNumber
  split
  next negative unsigned found =>
  have taken : negative = parts.negative ∧ unsigned = parts.whole ++ after := by
    obtain ⟨first, others, start⟩ := List.exists_cons_of_ne_nil parts.wholeNonempty
    have digit := parts.wholeAreDigits first (start ▸ List.mem_cons_self)
    rw [start] at found
    cases sign : parts.negative with
    | true =>
        rw [sign, signText, if_pos rfl] at found
        obtain ⟨isNegative, others⟩ := Prod.mk.inj found
        rw [← others, start]
        exact ⟨isNegative.symm, by simp⟩
    | false =>
        rw [sign, signText, if_neg Bool.false_ne_true, List.nil_append] at found
        split at found
        · next same =>
            obtain ⟨rfl, -⟩ := List.cons.inj same
            exact absurd digit (by decide)
        · obtain ⟨isPositive, others⟩ := Prod.mk.inj found
          rw [← others, start]
          exact ⟨isPositive.symm, by simp⟩
  rw [taken.1, taken.2, whole]
  dsimp only
  rw [readFraction]
  dsimp only
  rw [readExponent]
  dsimp only
  rw [integer, value, isInteger]
  split
  · next isInteger => simp only [isInteger, true_and]
  · next notInteger => rw [if_neg fun both => notInteger both.1]

/-- The parts of a number are read as the number, however its exponent is written. -/
theorem readNumber_append_of_exponent
    (parts : NumberParts)
    (few : parts.isInteger = true → parts.whole.length ≤ Number.maxDigits)
    {exponent : List Char}
    (starts : ∀ char ∈ (exponent ++ rest).head?, char.isDigit = false ∧ char ≠ '.')
    (readExponent :
      exponentPart (exponent ++ rest) = (exponentValue? parts.exponent, rest)) :
    readNumber (signText parts.negative ++
        (parts.whole ++ (fractionText parts.fraction ++ (exponent ++ rest)))) =
      .ok (parts.value, rest) := by
  have afterWhole : ∀ char ∈ (fractionText parts.fraction ++ (exponent ++ rest)).head?,
      char.isDigit = false := by
    rw [fractionText]
    split
    · exact fun char member => (starts char member).1
    · simp
  rw [parts.readNumber_of_parts (fun _ => afterWhole)
      (fractionDigits_append parts.fractionAreDigits starts) readExponent,
    if_neg fun many => Nat.not_lt.mpr (few many.1) many.2]

/-- The parts of a number are read as the number, unless it has too many digits for an integer. -/
theorem readNumber_text_append
    (parts : NumberParts)
    (few : parts.isInteger = true → parts.whole.length ≤ Number.maxDigits)
    (ends : EndsNumber rest) :
    readNumber (parts.text ++ rest) = .ok (parts.value, rest) := by
  have starts : ∀ char ∈ (exponentText parts.exponent ++ rest).head?,
      char.isDigit = false ∧ char ≠ '.' := by
    cases parts.exponent with
    | none => exact fun char member => ⟨(ends char member).1, (ends char member).2.1⟩
    | some part => simp [exponentText]
  rw [text, List.append_assoc, List.append_assoc, List.append_assoc]
  exact parts.readNumber_append_of_exponent few starts
    (exponentPart_append parts.exponentIsNumeral ends)

/-! ## Writing -/

/-- An integer is written in parts. -/
theorem exists_text_eq_toString (number : Int) :
    ∃ parts : NumberParts, parts.text = (toString number).toList ∧ parts.value = .int number ∧
      parts.whole.length = Binary64.decimalLength number.natAbs := by
  have zeroAlone : (Nat.toDigits 10 number.natAbs).head? = some '0' →
      Nat.toDigits 10 number.natAbs = ['0'] := by
    intro starts
    obtain zero | positive := Nat.eq_zero_or_pos number.natAbs
    · rw [zero, Nat.toDigits_zero]
    · exact absurd starts (head?_toDigits_ne positive)
  refine ⟨⟨decide (number < 0), Nat.toDigits 10 number.natAbs, [], none, Nat.toDigits_ne_nil,
    areDigits_toDigits _, zeroAlone, by simp [AreDigits], by simp⟩, ?_, ?_, rfl⟩
  · rw [text, fractionText, if_pos rfl, exponentText, List.append_nil, List.append_nil]
    cases number with
    | ofNat number => exact String.toList_ofList.symm
    | negSucc number =>
        have written : toString (Int.negSucc number) =
            "-" ++ String.ofList (Nat.toDigits 10 (number + 1)) := rfl
        rw [written, String.toList_append, String.toList_ofList, String.toList_ofList,
          decide_eq_true (Int.negSucc_lt_zero number)]
        rfl
  · exact congrArg Value.int (by rw [Text.ofDigitChars_toDigits, Binary64.signedInt_natAbs])

theorem value_eq_float
    {parts : NumberParts}
    {number : Nat}
    {place : Int}
    (notInteger : parts.isInteger = false)
    (digits : Text.ofDigitChars 10 (parts.whole ++ parts.fraction) = number)
    (atPlace : (exponentValue? parts.exponent).getD 0 - parts.fraction.length = place) :
    parts.value = .float (Binary64.ofDecimal parts.negative number place) := by
  rw [value, notInteger, digits, atPlace]
  rfl

section Digits

variable {digits : List Char} (areDigits : AreDigits digits) (nonempty : digits ≠ [])
variable (head : digits.head? ≠ some '0') (negative : Bool)

include areDigits nonempty

/-- Digits behind a point and zeros make up a number. -/
theorem exists_text_eq_point_before (power : Nat) :
    ∃ parts : NumberParts,
      parts.text =
        signText negative ++ '0' :: '.' :: (List.replicate power '0' ++ digits) ∧
      parts.value = .float (Binary64.ofDecimal negative (Text.ofDigitChars 10 digits)
        (-(power + digits.length))) := by
  refine ⟨⟨negative, ['0'], List.replicate power '0' ++ digits, none, by simp,
    areDigits_replicate 1, fun _ => rfl, (areDigits_replicate power).append areDigits, by simp⟩,
    ?_, ?_⟩
  · simp [text, fractionText, exponentText, nonempty]
  · refine value_eq_float (by simp [isInteger, nonempty])
      (ofDigitChars_zeros_append (power + 1) areDigits) ?_
    simp only [exponentValue?, Option.map_none, Option.getD_none, List.length_append,
      List.length_replicate]
    omega

include head

/-- Digits with a point among or behind them make up a number. -/
theorem exists_text_eq_point_after (power : Nat) :
    ∃ parts : NumberParts,
      parts.text = signText negative ++
        (digits.take (power + 1) ++ List.replicate (power + 1 - digits.length) '0' ++
          '.' :: (if (digits.drop (power + 1)).isEmpty then ['0'] else digits.drop (power + 1))) ∧
      parts.value = .float (Binary64.ofDecimal negative (Text.ofDigitChars 10 digits)
        (power + 1 - digits.length)) := by
  obtain many | few := Nat.lt_or_ge (power + 1) digits.length
  · have rest : digits.drop (power + 1) ≠ [] := List.drop_eq_nil_iff.not.mpr (by omega)
    have noZero : (digits.take (power + 1)).head? ≠ some '0' := by
      rw [List.head?_take, if_neg (Nat.succ_ne_zero power)]
      exact head
    have takeDigits : AreDigits (digits.take (power + 1)) := fun char member =>
      areDigits char (List.mem_of_mem_take member)
    have dropDigits : AreDigits (digits.drop (power + 1)) := fun char member =>
      areDigits char (List.mem_of_mem_drop member)
    refine ⟨⟨negative, digits.take (power + 1), digits.drop (power + 1), none, by simp [nonempty],
      takeDigits, fun zero => absurd zero noZero, dropDigits, by simp⟩, ?_, ?_⟩
    · simp [text, fractionText, exponentText, rest, Nat.sub_eq_zero_of_le many.le]
    · refine value_eq_float (by simp [isInteger, rest]) ?_ ?_
      · dsimp only
        rw [List.take_append_drop]
      · simp only [exponentValue?, Option.map_none, Option.getD_none, List.length_drop]
        omega
  · have noZero : (digits ++ List.replicate (power + 1 - digits.length) '0').head? ≠ some '0' := by
      rw [List.head?_append_of_ne_nil _ nonempty]
      exact head
    refine ⟨⟨negative, digits ++ List.replicate (power + 1 - digits.length) '0', ['0'], none,
      by simp [nonempty], areDigits.append (areDigits_replicate _), fun zero => absurd zero noZero,
      areDigits_replicate 1, by simp⟩, ?_, ?_⟩
    · simp [text, fractionText, exponentText, List.take_of_length_le few,
        List.drop_of_length_le few]
    · have zeros := ofDigitChars_append_zeros (power + 1 - digits.length + 1) areDigits
      have moved := Binary64.ofDecimal_mul_pow negative (Text.ofDigitChars 10 digits)
        (power + 1 - digits.length + 1) (power + 1 - digits.length)
      rw [List.replicate_succ', ← List.append_assoc] at zeros
      have place : (power + 1 - digits.length : Int) -
          ((power + 1 - digits.length + 1 : Nat) : Int) = -1 := by omega
      rw [← zeros, place] at moved
      exact congrArg Value.float moved

end Digits

/-- A digit, digits behind a point and an exponent make up a number. -/
theorem exists_text_eq_exponent
    {first : Char}
    {others : List Char}
    (areDigits : AreDigits (first :: others))
    (nonzero : first ≠ '0')
    (negative : Bool)
    (leading : Int) :
    ∃ parts : NumberParts,
      parts.text = signText negative ++ first :: (fractionText others ++
        'e' :: (if leading < 0 then '-' else '+') ::
          (List.replicate (2 - (Nat.toDigits 10 leading.natAbs).length) '0' ++
            Nat.toDigits 10 leading.natAbs)) ∧
      parts.value = .float (Binary64.ofDecimal negative (Text.ofDigitChars 10 (first :: others))
        (leading - others.length)) := by
  obtain ⟨firstDigit, othersDigits⟩ := List.forall_mem_cons.mp areDigits
  have placesDigits : AreDigits (List.replicate (2 - (Nat.toDigits 10 leading.natAbs).length) '0' ++
      Nat.toDigits 10 leading.natAbs) :=
    (areDigits_replicate _).append (areDigits_toDigits _)
  refine ⟨⟨negative, [first], others, some (decide (leading < 0), _), List.cons_ne_nil _ _,
    List.forall_mem_singleton.mpr firstDigit, fun zero => absurd (Option.some.inj zero) nonzero,
    othersDigits, fun part same => Option.some.inj same ▸ ⟨?_, placesDigits⟩⟩, ?_, ?_⟩
  · simp
  · simp [text, exponentText]
  · refine value_eq_float (by simp [isInteger]) rfl ?_
    simp only [exponentValue?, Option.map_some, Option.getD_some]
    rw [ofDigitChars_zeros_append _ (areDigits_toDigits _), Text.ofDigitChars_toDigits,
      Binary64.signedInt_natAbs]

/-- A decimal fraction is written in parts. -/
theorem exists_text_eq_writeFraction
    (negative : Bool)
    {fraction : Binary64.DecimalFraction}
    (positive : 0 < fraction.digits) :
    ∃ parts : NumberParts,
      parts.text = signText negative ++ (Binary64.writeFraction fraction).toList ∧
        parts.value = .float (Binary64.ofDecimal negative fraction.digits fraction.exponent) := by
  obtain ⟨number, exponent⟩ := fraction
  dsimp only at positive ⊢
  have areDigits := areDigits_toDigits number
  have head := head?_toDigits_ne positive
  have nonempty : Nat.toDigits 10 number ≠ [] := Nat.toDigits_ne_nil
  have writes : Text.ofDigitChars 10 (Nat.toDigits 10 number) = number :=
    Text.ofDigitChars_toDigits number
  rw [Binary64.writeFraction]
  dsimp only
  generalize Nat.toDigits 10 number = digits at *
  split
  · split
    · next power leading =>
        obtain ⟨parts, written, number⟩ :=
          exists_text_eq_point_after areDigits nonempty head negative power
        refine ⟨parts, written.trans (by rw [String.toList_ofList]), number.trans ?_⟩
        have place : (power + 1 - digits.length : Int) = exponent := by
          rw [Int.ofNat_eq_natCast] at leading
          omega
        rw [writes, place]
    · next power leading =>
        obtain ⟨parts, written, number⟩ :=
          exists_text_eq_point_before areDigits nonempty negative power
        refine ⟨parts, written.trans (by rw [String.toList_ofList]), number.trans ?_⟩
        have place : (-(power + digits.length) : Int) = exponent := by omega
        rw [writes, place]
  · obtain ⟨first, others, rfl⟩ := List.exists_cons_of_ne_nil nonempty
    have nonzero : first ≠ '0' := fun zero => head (by rw [List.head?_cons, zero])
    obtain ⟨parts, written, number⟩ := exists_text_eq_exponent areDigits nonzero negative
      ((first :: others).length + exponent - 1)
    refine ⟨parts, written.trans ?_, number.trans ?_⟩
    · rw [String.toList_ofList]
      cases others <;> rfl
    · have place : ((first :: others).length + exponent - 1 - others.length : Int) = exponent := by
        rw [List.length_cons]
        omega
      rw [writes, place]

/-- A finite number is written in parts. -/
theorem exists_text_eq_text
    {negative : Bool}
    {mantissa : Nat}
    {exponent : Int}
    (canonical : (Binary64.finite negative mantissa exponent).IsCanonical) :
    ∃ parts : NumberParts,
      parts.text = (Binary64.finite negative mantissa exponent).text.toList ∧
        parts.value = .float (.finite negative mantissa exponent) := by
  obtain rfl | positive := Nat.eq_zero_or_pos mantissa
  · obtain rfl : exponent = Binary64.minExponent := canonical.2.2.resolve_left (by decide)
    refine ⟨⟨negative, ['0'], ['0'], none, by simp, areDigits_replicate 1, fun _ => rfl,
      areDigits_replicate 1, by simp⟩, ?_, rfl⟩
    cases negative <;> rfl
  · have found := Binary64.ofDecimal_shortest canonical positive
    have digitsPositive := Binary64.digits_shortest_pos canonical positive
    obtain ⟨parts, written, number⟩ := exists_text_eq_writeFraction negative digitsPositive
    refine ⟨parts, written.trans ?_, number.trans (by rw [found])⟩
    rw [Binary64.text, if_neg positive.ne']
    cases negative with
    | false => rw [if_neg Bool.false_ne_true, signText, if_neg Bool.false_ne_true, List.nil_append]
    | true =>
        rw [if_pos rfl, String.toList_append]
        rfl

end NumberParts

end Json
end RoutineGate
