import RoutineGate.Proofs.Number.Integers
import RoutineGate.Proofs.Schema.Bounds
import RoutineGate.Proofs.Schema.Unions
import RoutineGate.Proofs.Schema.WellFormed

/-!
# Integers as numbers

A schema of numbers takes an integer for the floating point number nearest to it: the steps see
the integer that this number is, and the number is passed on.  It equals what was sent exactly
for a representable integer; any other one is changed without notice.
-/

namespace RoutineGate
namespace Schema

section Integer

variable {traits : Traits Value} {coerce : Bool} {whole : Int}

/-- The steps see an integer, which is rounded to the same number again. -/
theorem exists_integralNumeral_ofInt (finite : (Binary64.ofInt whole).isFinite = true) :
    ∃ rounded, integralNumeral (Binary64.ofInt whole) = .int rounded ∧
      Binary64.ofInt rounded = Binary64.ofInt whole := by
  obtain ⟨integral, rounded, truncated, again⟩ := Binary64.exists_truncate?_ofInt finite
  refine ⟨rounded, ?_, again⟩
  rw [integralNumeral, if_pos integral, truncated, Option.getD_some]

/-- A comparison is made for integers and leaves them as they are. -/
theorem Rule.IsForNumber.supports
    {rule : Rule}
    (isForNumber : rule.IsForNumber)
    (number : Int) :
    rule.supports (.int number) = true ∧ rule.change (.int number) = .int number := by
  cases rule with
  | compare => exact ⟨rfl, rfl⟩
  | _ => exact isForNumber.elim

theorem takesNull_number_int :
    (Schema.number traits false coerce).takesNull (.int whole) = false := by
  simp [takesNull, Value.nonNull?]

/-- An integer that fits a floating point number is given to the steps as what it becomes. -/
theorem validate_number_int
    (finite : (Binary64.ofInt whole).isFinite = true)
    {rounded : Int}
    (isInt : integralNumeral (Binary64.ofInt whole) = .int rounded)
    (way : List Nat)
    (fit : Fit) :
    validate way (.number traits false coerce) fit (.int whole) =
      match runSteps traits.steps (.int rounded) with
      | .ok value => .ok (.value value, fit.lower .strict)
      | .error refusal => .error refusal := by
  have read : readNumber (.int whole) = .ok (Binary64.ofInt whole, .strict) := by
    rw [readNumber]
    exact if_pos finite
  rw [validate_number takesNull_number_int, read, acceptScalar, isInt]
  rfl

section Comparisons

variable (comparisons : ∀ step ∈ traits.steps, step.rule.IsForNumber)

include comparisons

theorem runSteps_number_int_iff
    {rounded : Int}
    {passed : Value} :
    runSteps traits.steps (.int rounded) = .ok passed ↔
      passed = .int rounded ∧
        ∀ step ∈ traits.steps, step.rule.admitsNumeral (.int rounded) = true :=
  runSteps_eq_ok_iff fun step listed => (comparisons step listed).supports rounded

/-- An accepted integer is passed on as the number nearest to it. -/
theorem gives_ofInt
    (finite : (Binary64.ofInt whole).isFinite = true)
    (admitted : ∀ step ∈ traits.steps,
      step.rule.admitsNumeral (integralNumeral (Binary64.ofInt whole)) = true) :
    (Schema.number traits false coerce).Accepts (.int whole) ∧
      (Schema.number traits false coerce).Gives (.int whole) (.float (Binary64.ofInt whole)) := by
  obtain ⟨rounded, isInt, again⟩ := exists_integralNumeral_ofInt finite
  rw [isInt] at admitted
  have ran := (runSteps_number_int_iff comparisons).mpr ⟨rfl, admitted⟩
  have validated : validate [0] (.number traits false coerce) {} (.int whole) =
      .ok (.value (.int rounded), ({} : Fit).lower .strict) := by
    rw [validate_number_int finite isInt, ran]
  have dumps : dump .assured [0] (.number traits false coerce) (.value (.int rounded)) =
      some (.float (Binary64.ofInt whole)) := by
    unfold dump
    rw [← again]
    simp [Instance.isNull, dumpNumber]
  exact ⟨accepts_of_validate validated, gives_of_validate validated dumps⟩

theorem finite_of_accepts_int
    (accepts : (Schema.number traits false coerce).Accepts (.int whole)) :
    (Binary64.ofInt whole).isFinite = true ∧ ∀ step ∈ traits.steps,
      step.rule.admitsNumeral (integralNumeral (Binary64.ofInt whole)) = true := by
  obtain ⟨accepted, after, validated⟩ := accepts
  by_cases finite : (Binary64.ofInt whole).isFinite = true
  · obtain ⟨rounded, isInt, -⟩ := exists_integralNumeral_ofInt finite
    rw [validate_number_int finite isInt] at validated
    cases ran : runSteps traits.steps (.int rounded) with
    | ok passed =>
        rw [isInt]
        exact ⟨finite, ((runSteps_number_int_iff comparisons).mp ran).2⟩
    | error refusal => simp [ran] at validated
  · rw [validate_number takesNull_number_int] at validated
    simp [readNumber, finite, acceptScalar] at validated

/--
A schema of numbers accepts exactly the integers that fit a floating point number which its
comparisons admit.  It passes on the number nearest to an integer, which equals the integer
exactly if this is representable.
-/
theorem number_gives_nearest
    (coerce : Bool)
    (whole : Int) :
    ((Schema.number traits false coerce).Accepts (.int whole) ↔
      (Binary64.ofInt whole).isFinite = true ∧ ∀ step ∈ traits.steps,
        step.rule.admitsNumeral (integralNumeral (Binary64.ofInt whole)) = true) ∧
    ((Schema.number traits false coerce).Accepts (.int whole) →
      (Schema.number traits false coerce).Gives (.int whole) (.float (Binary64.ofInt whole)) ∧
      ((Numeral.float (Binary64.ofInt whole)).same (.int whole) = true ↔
        Binary64.IsRepresentable whole)) := by
  refine ⟨⟨finite_of_accepts_int comparisons, fun ⟨finite, admitted⟩ =>
    (gives_ofInt comparisons finite admitted).1⟩, fun accepts => ?_⟩
  obtain ⟨finite, admitted⟩ := finite_of_accepts_int comparisons accepts
  exact ⟨(gives_ofInt comparisons finite admitted).2, Binary64.same_ofInt_iff finite⟩

end Comparisons

end Integer

/-- A number that is at least three. -/
def atLeastThree : Traits Value :=
  { steps := [{ rule := .compare .atLeast (.int 3) }] }

/-- Beyond 53 bits an even integer is still passed on as it is. -/
theorem number_gives_nearest_even :
    (Schema.number atLeastThree false true).Gives (.int 9007199254740994)
        (.float (Binary64.ofInt 9007199254740994)) ∧
      (Numeral.float (Binary64.ofInt 9007199254740994)).same (.int 9007199254740994) = true := by
  have comparisons : ∀ step ∈ atLeastThree.steps, step.rule.IsForNumber := by
    simp [atLeastThree, Rule.IsForNumber]
  obtain ⟨accepts, gives⟩ := number_gives_nearest comparisons true 9007199254740994
  obtain ⟨passedOn, same⟩ := gives (accepts.mpr ⟨by decide +kernel, by decide +kernel⟩)
  exact ⟨passedOn, same.mpr ⟨4503599627370497, 1, by decide, by decide⟩⟩

/-- The next integer after 53 bits is passed on as another one. -/
theorem not_number_gives_odd :
    (Schema.number {} false false).Accepts (.int 9007199254740993) ∧
      (Schema.number {} false false).Gives (.int 9007199254740993)
        (.float (Binary64.ofInt 9007199254740992)) ∧
      (Numeral.float (Binary64.ofInt 9007199254740992)).same (.int 9007199254740993) = false := by
  have rounded : Binary64.ofInt 9007199254740993 = Binary64.ofInt 9007199254740992 := by
    decide +kernel
  have outcome : (Schema.number {} false false).Accepts (.int 9007199254740993) ∧
      (Schema.number {} false false).Gives (.int 9007199254740993)
        (.float (Binary64.ofInt 9007199254740993)) :=
    gives_ofInt (by simp) (by decide +kernel) (by simp)
  rw [rounded] at outcome
  exact ⟨outcome.1, outcome.2, by decide +kernel⟩

end Schema
end RoutineGate
