import RoutineGate.Proofs.Json.Reading

/-!
# The grammar of numbers

A number is written as whole digits, with a minus before them or without one, and then maybe a
fraction and an exponent.  It goes as far as such parts follow one another.
-/

namespace RoutineGate
namespace Json

/-! ## Parts -/

theorem splitDigits_eq
    {chars digits rest : List Char}
    (found : splitDigits chars = (digits, rest)) :
    chars = digits ++ rest ∧ AreDigits digits ∧ ∀ char ∈ rest.head?, char.isDigit = false := by
  obtain ⟨rfl, rfl⟩ := Prod.mk.inj found
  refine ⟨List.takeWhile_append_dropWhile.symm, fun char member => List.mem_takeWhile_imp member,
    fun char member => ?_⟩
  have head := List.head?_dropWhile_not Char.isDigit chars
  rw [member] at head
  simpa using head

/-- The ways to write the sign of an exponent. -/
inductive IsSign : Bool → List Char → Prop
  | minus : IsSign true ['-']
  | plus : IsSign false ['+']
  | nothing : IsSign false []

theorem takeSign_append
    {negative : Bool}
    {sign : List Char}
    (isSign : IsSign negative sign)
    {first : Char}
    (digit : first.isDigit = true)
    (others : List Char) :
    Number.takeSign (sign ++ first :: others) = (negative, first :: others) := by
  cases isSign with
  | minus => rfl
  | plus => rfl
  | nothing =>
      unfold Number.takeSign
      split
      · next same =>
          obtain ⟨rfl, -⟩ := List.cons.inj same
          exact absurd digit (by decide)
      · next same =>
          obtain ⟨rfl, -⟩ := List.cons.inj same
          exact absurd digit (by decide)
      · rfl

theorem exists_of_takeSign
    {chars rest : List Char}
    {negative : Bool}
    (found : Number.takeSign chars = (negative, rest)) :
    ∃ sign, IsSign negative sign ∧ chars = sign ++ rest := by
  unfold Number.takeSign at found
  split at found <;> obtain ⟨rfl, rfl⟩ := Prod.mk.inj found
  · exact ⟨_, .minus, rfl⟩
  · exact ⟨_, .plus, rfl⟩
  · exact ⟨_, .nothing, rfl⟩

/-- The ways to write an exponent. -/
inductive IsExponent : Option (Bool × List Char) → List Char → Prop
  | nothing : IsExponent none []
  | written {mark : Char} {negative : Bool} {sign digits : List Char}
      (isMark : mark = 'e' ∨ mark = 'E')
      (isSign : IsSign negative sign)
      (nonempty : digits ≠ [])
      (areDigits : AreDigits digits) :
      IsExponent (some (negative, digits)) (mark :: (sign ++ digits))

theorem IsExponent.eq_nil
    {exponent : Option (Bool × List Char)}
    {written : List Char}
    (isExponent : IsExponent exponent written)
    (noExponent : exponent = none) :
    written = [] := by
  cases isExponent with
  | nothing => rfl
  | written => exact absurd noExponent (by simp)

/-- Neither a digit nor a point starts an exponent. -/
theorem IsExponent.starts
    {exponent : Option (Bool × List Char)}
    {written rest : List Char}
    (isExponent : IsExponent exponent written)
    (ends : EndsNumber rest) :
    ∀ char ∈ (written ++ rest).head?, char.isDigit = false ∧ char ≠ '.' := by
  cases isExponent with
  | nothing => exact fun char member => ⟨(ends char member).1, (ends char member).2.1⟩
  | written isMark isSign nonempty areDigits =>
      rintro char first
      obtain rfl := Option.some.inj first
      obtain rfl | rfl := isMark <;> decide

theorem exists_of_exponentPart
    {chars rest : List Char}
    {value : Option Int}
    (found : exponentPart chars = (value, rest)) :
    ∃ exponent written, IsExponent exponent written ∧ chars = written ++ rest ∧
      value = NumberParts.exponentValue? exponent := by
  have nothing {left : List Char} (same : (none, left) = (value, rest)) :
      ∃ exponent written, IsExponent exponent written ∧ left = written ++ rest ∧
        value = NumberParts.exponentValue? exponent := by
    obtain ⟨rfl, rfl⟩ := Prod.mk.inj same
    exact ⟨none, [], .nothing, rfl, rfl⟩
  unfold exponentPart at found
  split at found
  · next mark after =>
    split_ifs at found with isMark
    · cases signed : Number.takeSign after with
      | mk negative unsigned =>
        obtain ⟨sign, isSign, rfl⟩ := exists_of_takeSign signed
        rw [signed] at found
        dsimp only at found
        split at found
        · exact nothing found
        · next digits left notEmpty split =>
          obtain ⟨rfl, rfl⟩ := Prod.mk.inj found
          obtain ⟨rfl, areDigits, -⟩ := splitDigits_eq split
          refine ⟨_, _, .written isMark isSign ?_ areDigits, by simp, rfl⟩
          rintro rfl
          exact notEmpty rfl
    · exact nothing found
  · exact nothing found

theorem IsExponent.exponentPart_append
    {exponent : Option (Bool × List Char)}
    {written rest : List Char}
    (isExponent : IsExponent exponent written)
    (ends : EndsNumber rest) :
    exponentPart (written ++ rest) = (NumberParts.exponentValue? exponent, rest) := by
  cases isExponent with
  | nothing =>
      have noNumeral : ∀ part ∈ (none : Option (Bool × List Char)),
          part.2 ≠ [] ∧ AreDigits part.2 := by
        simp
      exact NumberParts.exponentPart_append noNumeral ends
  | @written mark negative sign digits isMark isSign nonempty areDigits =>
      obtain ⟨first, others, rfl⟩ := List.exists_cons_of_ne_nil nonempty
      have digit := areDigits first List.mem_cons_self
      have split := splitDigits_append areDigits fun char member => (ends char member).1
      have signed := takeSign_append isSign digit (others ++ rest)
      rw [List.cons_append] at split
      rw [List.cons_append, List.append_assoc, List.cons_append, exponentPart, if_pos isMark,
        signed]
      dsimp only
      rw [split]
      rfl

theorem fractionDigits_eq
    {chars fraction rest : List Char}
    (found : fractionDigits chars = (fraction, rest)) :
    chars = NumberParts.fractionText fraction ++ rest ∧ AreDigits fraction := by
  have nothing {left : List Char} (same : ([], left) = (fraction, rest)) :
      left = NumberParts.fractionText fraction ++ rest ∧ AreDigits fraction := by
    obtain ⟨rfl, rfl⟩ := Prod.mk.inj same
    exact ⟨rfl, fun _ member => absurd member List.not_mem_nil⟩
  unfold fractionDigits at found
  split at found
  · split at found
    · exact nothing found
    · next after _ notEmpty =>
      obtain ⟨rfl, areDigits, -⟩ := splitDigits_eq found
      refine ⟨?_, areDigits⟩
      rw [NumberParts.fractionText, if_neg (by rintro rfl; exact notEmpty _ found)]
      rfl
  · exact nothing found

theorem wholeDigits?_eq_some
    {chars whole rest : List Char}
    (found : wholeDigits? chars = some (whole, rest)) :
    chars = whole ++ rest ∧ whole ≠ [] ∧ AreDigits whole ∧
      (whole.head? = some '0' → whole = ['0']) ∧
      (whole ≠ ['0'] → ∀ char ∈ rest.head?, char.isDigit = false) := by
  unfold wholeDigits? at found
  split at found
  · obtain ⟨rfl, rfl⟩ := Prod.mk.inj (Option.some.inj found)
    exact ⟨rfl, by simp, areDigits_replicate 1, fun _ => rfl, fun other => absurd rfl other⟩
  · next noZero =>
    split at found
    · exact absurd found (by simp)
    · next notEmpty =>
      have split := Option.some.inj found
      obtain ⟨rfl, areDigits, ends⟩ := splitDigits_eq split
      refine ⟨rfl, ?_, areDigits, ?_, fun _ => ends⟩
      · rintro rfl
        exact notEmpty _ split
      · intro starts
        obtain ⟨others, rfl⟩ := List.head?_eq_some_iff.mp starts
        exact absurd rfl (noZero (others ++ rest))

/-! ## Numbers -/

/-- The ways to write a number that can be computed with. -/
inductive IsNumeral : List Char → Value → Prop
  | intro {written : List Char} (parts : NumberParts)
      (isExponent : IsExponent parts.exponent written)
      (few : parts.isInteger = true → parts.whole.length ≤ Number.maxDigits) :
      IsNumeral
        (NumberParts.signText parts.negative ++
          (parts.whole ++ (NumberParts.fractionText parts.fraction ++ written)))
        parts.value

/-- What continues a whole number: another digit, a fraction or an exponent. -/
inductive Continues : List Char → Prop
  | digit {digit : Char} {rest : List Char}
      (isDigit : digit.isDigit = true) :
      Continues (digit :: rest)
  | fraction {digit : Char} {rest : List Char}
      (isDigit : digit.isDigit = true) :
      Continues ('.' :: digit :: rest)
  | exponent {mark digit : Char} {negative : Bool} {sign rest : List Char}
      (isMark : mark = 'e' ∨ mark = 'E')
      (isSign : IsSign negative sign)
      (isDigit : digit.isDigit = true) :
      Continues (mark :: (sign ++ digit :: rest))

/-- A text that starts with an integer of more digits than are converted. -/
inductive IsLongInteger (count : Nat) : List Char → Prop
  | intro {whole rest : List Char} (negative : Bool)
      (areDigits : AreDigits whole)
      (noZero : whole.head? ≠ some '0')
      (length_eq : whole.length = count)
      (many : Number.maxDigits < count)
      (ends : ¬Continues rest) :
      IsLongInteger count (NumberParts.signText negative ++ (whole ++ rest))

theorem splitDigits_cons
    {digit : Char}
    (isDigit : digit.isDigit = true)
    (rest : List Char) :
    ∃ digits left, splitDigits (digit :: rest) = (digit :: digits, left) := by
  rw [splitDigits, List.takeWhile_cons_of_pos isDigit]
  exact ⟨_, _, rfl⟩

/-- Where nothing continues a whole number, neither a fraction nor an exponent is read. -/
theorem not_continues_iff
    {rest : List Char} :
    ¬Continues rest ↔
      (∀ char ∈ rest.head?, char.isDigit = false) ∧ fractionDigits rest = ([], rest) ∧
        exponentPart rest = (none, rest) := by
  constructor
  · intro ends
    refine ⟨fun char first => ?_, ?_, ?_⟩
    · obtain ⟨others, rfl⟩ := List.head?_eq_some_iff.mp first
      exact Bool.eq_false_iff.mpr fun isDigit => ends (.digit isDigit)
    · cases found : fractionDigits rest with
      | mk fraction left =>
        obtain ⟨rfl, areDigits⟩ := fractionDigits_eq found
        cases fraction with
        | nil => rfl
        | cons digit others =>
            exact absurd (.fraction (areDigits digit List.mem_cons_self)) ends
    · cases found : exponentPart rest with
      | mk value left =>
        obtain ⟨exponent, written, isExponent, rfl, rfl⟩ := exists_of_exponentPart found
        cases isExponent with
        | nothing => rfl
        | @written mark negative sign digits isMark isSign nonempty areDigits =>
            obtain ⟨digit, others, rfl⟩ := List.exists_cons_of_ne_nil nonempty
            refine absurd ?_ ends
            rw [List.cons_append, List.append_assoc]
            exact .exponent isMark isSign (areDigits digit List.mem_cons_self)
  · rintro ⟨noDigit, noFraction, noExponent⟩ (isDigit | isDigit | ⟨isMark, isSign, isDigit⟩)
    · exact absurd isDigit (by simp [noDigit _ rfl])
    · obtain ⟨digits, left, split⟩ := splitDigits_cons isDigit _
      rw [fractionDigits, split] at noFraction
      simp at noFraction
    · obtain ⟨digits, left, split⟩ := splitDigits_cons isDigit _
      rw [exponentPart, if_pos isMark, takeSign_append isSign isDigit] at noExponent
      dsimp only at noExponent
      rw [split] at noExponent
      simp at noExponent

/-- Reading a number reads its parts, or finds none. -/
theorem readNumber_cases (chars : List Char) :
    readNumber chars = .error .malformed ∨
      ∃ (parts : NumberParts) (after exponent written rest : List Char),
        chars = NumberParts.signText parts.negative ++ (parts.whole ++ after) ∧
        (parts.whole ≠ ['0'] → ∀ char ∈ after.head?, char.isDigit = false) ∧
        fractionDigits after = (parts.fraction, exponent) ∧
        exponentPart exponent = (NumberParts.exponentValue? parts.exponent, rest) ∧
        IsExponent parts.exponent written ∧ exponent = written ++ rest := by
  unfold readNumber
  split
  next negative unsigned taken =>
  have signed : chars = NumberParts.signText negative ++ unsigned := by
    split at taken <;> obtain ⟨rfl, rfl⟩ := Prod.mk.inj taken <;> rfl
  split
  · exact .inl rfl
  · next whole after isWhole =>
    obtain ⟨rfl, nonempty, areDigits, zeroAlone, ends⟩ := wholeDigits?_eq_some isWhole
    cases readFraction : fractionDigits after with
    | mk fraction exponent =>
      cases readExponent : exponentPart exponent with
      | mk value rest =>
        obtain ⟨-, fractionAreDigits⟩ := fractionDigits_eq readFraction
        obtain ⟨parts, written, isExponent, same, rfl⟩ := exists_of_exponentPart readExponent
        have isNumeral : ∀ part ∈ parts, part.2 ≠ [] ∧ AreDigits part.2 := by
          cases isExponent with
          | nothing => simp
          | written isMark isSign nonempty areDigits =>
              rintro part here
              obtain rfl := Option.some.inj here
              exact ⟨nonempty, areDigits⟩
        exact .inr ⟨⟨negative, whole, fraction, parts, nonempty, areDigits, zeroAlone,
          fractionAreDigits, isNumeral⟩, after, exponent, written, rest, signed, ends,
          readFraction, readExponent, isExponent, same⟩

/-- What is read as a number writes it. -/
theorem exists_isNumeral_of_readNumber
    {chars rest : List Char}
    {value : Value}
    (found : readNumber chars = .ok (value, rest)) :
    ∃ written, IsNumeral written value ∧ chars = written ++ rest := by
  obtain malformed | ⟨parts, after, exponent, written, left, rfl, ends, readFraction, readExponent,
    isExponent, rfl⟩ := readNumber_cases chars
  · rw [malformed] at found
    exact absurd found (by simp)
  · rw [parts.readNumber_of_parts ends readFraction readExponent] at found
    split_ifs at found with many
    obtain ⟨rfl, rfl⟩ := Prod.mk.inj (Except.ok.inj found)
    obtain ⟨rfl, -⟩ := fractionDigits_eq readFraction
    refine ⟨_, .intro parts isExponent fun isInteger => ?_, by simp⟩
    exact Nat.not_lt.mp fun more => many ⟨isInteger, more⟩

/-- A written number is read, if nothing continues it. -/
theorem IsNumeral.readNumber_append
    {written rest : List Char}
    {value : Value}
    (isNumeral : IsNumeral written value)
    (ends : EndsNumber rest) :
    readNumber (written ++ rest) = .ok (value, rest) := by
  obtain @⟨exponent, parts, isExponent, few⟩ := isNumeral
  rw [List.append_assoc, List.append_assoc, List.append_assoc]
  exact parts.readNumber_append_of_exponent few (isExponent.starts ends)
    (isExponent.exponentPart_append ends)

/-- Reading a number fails with a fault exactly at an integer of too many digits. -/
theorem readNumber_eq_fault_iff
    {chars : List Char}
    {fault : Fault} :
    readNumber chars = .error (.fault fault) ↔
      ∃ count, fault = .integer (.tooManyDigits count) ∧ IsLongInteger count chars := by
  have someDigits : 1 ≤ Number.maxDigits := by decide
  constructor
  · intro found
    obtain malformed | ⟨parts, after, exponent, written, rest, rfl, ends, readFraction,
      readExponent, isExponent, rfl⟩ := readNumber_cases chars
    · rw [malformed] at found
      exact absurd found (by simp)
    · rw [parts.readNumber_of_parts ends readFraction readExponent] at found
      split_ifs at found with long
      obtain ⟨isInteger, many⟩ := long
      obtain ⟨noFraction, noExponent⟩ := Bool.and_eq_true_iff.mp isInteger
      replace noFraction := List.isEmpty_iff.mp noFraction
      replace noExponent := Option.isNone_iff_eq_none.mp noExponent
      obtain rfl := isExponent.eq_nil noExponent
      rw [noExponent] at readExponent
      rw [noFraction] at readFraction
      obtain ⟨rfl, -⟩ := fractionDigits_eq readFraction
      have several : parts.whole ≠ ['0'] := by
        intro zero
        rw [zero] at many
        exact absurd many (Nat.not_lt.mpr someDigits)
      refine ⟨_, (ReadError.fault.inj (Except.error.inj found)).symm, .intro _
        parts.wholeAreDigits (fun zero => several (parts.zeroAlone zero)) rfl many ?_⟩
      exact not_continues_iff.mpr ⟨ends several, readFraction, readExponent⟩
  · rintro ⟨count, rfl, ⟨negative, areDigits, noZero, rfl, many, ends⟩⟩
    rename_i whole rest
    obtain ⟨noDigit, noFraction, noExponent⟩ := not_continues_iff.mp ends
    have nonempty : whole ≠ [] := by
      rintro rfl
      exact absurd many (Nat.not_lt.mpr (Nat.zero_le _))
    let parts : NumberParts := ⟨negative, whole, [], none, nonempty, areDigits,
      fun zero => absurd zero noZero, fun _ member => absurd member List.not_mem_nil, by simp⟩
    have read := parts.readNumber_of_parts (fun _ => noDigit) noFraction noExponent
    rw [read, if_pos ⟨rfl, many⟩]

end Json
end RoutineGate
