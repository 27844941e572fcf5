import RoutineGate.Proofs.Number.Comparison
import RoutineGate.Schema.Alternatives

/-!
# Looking up allowed values

What is found among allowed values is one of them that equals what was looked up.  Among
scalars that equal themselves something is found exactly if one of them equals it, unless it
is too large an integer.  So it does not matter which of several equal ones is among them.
-/

namespace RoutineGate
namespace Schema

/-- Whether an integer is too large to be compared with the integers among allowed values. -/
def isOversized (values : List Value) : Value → Bool
  | .int whole => !isWord whole && values.any isWordValue
  | _ => false

section Finding

variable {values : List Value} {value found : Value}

theorem mem_of_findLast?
    {test : Value → Bool}
    (last : findLast? test values = some found) :
    found ∈ values ∧ test found = true :=
  ⟨List.mem_reverse.mp (List.mem_of_find?_eq_some last), List.find?_some last⟩

theorem mem_of_mem_distinctValues
    (listed : value ∈ distinctValues values) :
    value ∈ values := by
  induction values with
  | nil => exact listed
  | cons first values inductionHypothesis =>
      obtain rfl | later := List.mem_cons.mp listed
      · exact List.mem_cons_self
      · exact List.mem_cons_of_mem first (inductionHypothesis (List.mem_filter.mp later).1)

theorem mem_of_mem_allowedValues
    (listed : value ∈ allowedValues values) :
    value ∈ values := by
  unfold allowedValues at listed
  split at listed
  · exact listed
  · exact mem_of_mem_distinctValues listed

theorem mem_of_findWithType?
    (withType : findWithType? values value = some found) :
    found ∈ values ∧ sameWithType value found = true := by
  unfold findWithType? at withType
  split at withType
  · exact mem_of_findLast? withType
  · split at withType
    · exact mem_of_findLast? withType
    · contradiction
  · exact mem_of_findLast? withType
  · contradiction

theorem mem_of_findByMagnitude?
    (byMagnitude : findByMagnitude? values value = some found) :
    found ∈ values ∧ found.same value = true := by
  have scalar : ∀ {kind : Value → Bool},
      (if isComposite value then none
        else findLast? (fun allowed => kind allowed && allowed.same value) values) = some found →
        found ∈ values ∧ found.same value = true := by
    intro kind last
    split at last
    · contradiction
    · obtain ⟨listed, passes⟩ := mem_of_findLast? last
      exact ⟨listed, (Bool.and_eq_true_iff.mp passes).2⟩
  unfold findByMagnitude? at byMagnitude
  obtain first | ⟨-, others⟩ := Option.or_eq_some_iff.mp byMagnitude
  · exact scalar first
  · obtain second | ⟨-, last⟩ := Option.or_eq_some_iff.mp others
    · have passes := List.find?_some second
      exact ⟨List.mem_of_find?_eq_some second, (Bool.and_eq_true_iff.mp passes).2⟩
    · exact scalar last

theorem findMember_eq
    (values : List Value)
    (value : Value) :
    findMember values value =
      match findWithType? (allowedValues values) value with
      | some found => .ok found
      | none =>
          if isOversized (allowedValues values) value then .error .oversizedInteger
          else
            match findByMagnitude? (allowedValues values) value with
            | some found => .ok found
            | none => .error (.notMember (allowedValues values)) := by
  cases value <;> rfl

/-- What is found is one of the values, and equal to what was looked up. -/
theorem mem_of_findMember
    (lookup : findMember values value = .ok found) :
    found ∈ values ∧ (sameWithType value found = true ∨ found.same value = true) := by
  rw [findMember_eq] at lookup
  cases withType : findWithType? (allowedValues values) value with
  | some first =>
      simp only [withType] at lookup
      obtain rfl := Except.ok.inj lookup
      obtain ⟨listed, same⟩ := mem_of_findWithType? withType
      exact ⟨mem_of_mem_allowedValues listed, .inl same⟩
  | none =>
      simp only [withType] at lookup
      split at lookup
      · exact absurd lookup (by simp)
      · split at lookup
        · next byMagnitude =>
            obtain rfl := Except.ok.inj lookup
            obtain ⟨listed, same⟩ := mem_of_findByMagnitude? byMagnitude
            exact ⟨mem_of_mem_allowedValues listed, .inr same⟩
        · exact absurd lookup (by simp)

/-- Only null is found for null. -/
theorem eq_null_of_findMember
    (lookup : findMember values .null = .ok found) :
    found = .null := by
  obtain ⟨-, same | same⟩ := mem_of_findMember lookup
  · have same := (Bool.and_eq_true_iff.mp same).2
    cases found <;> first | rfl | exact absurd same (by simp [Value.same, Value.numeral?])
  · cases found <;> first | rfl | exact absurd same (by simp [Value.same, Value.numeral?])

end Finding

/-! ## Scalars that equal themselves -/

/-- A scalar that equals itself, which an undefined number does not. -/
def isComparable (value : Value) : Bool :=
  !isComposite value && value.same value

section Comparable

variable {first second value : Value} {values others : List Value}

theorem same_of_numeral?
    {numeral : Numeral}
    (number : first.numeral? = some numeral)
    (second : Value) :
    first.same second = second.numeral?.any numeral.same := by
  cases first with
  | bool | int | float =>
      obtain rfl := Option.some.inj number
      cases second <;> rfl
  | _ => exact absurd number (by simp [Value.numeral?])

/-- Comparable values of one type that are equal are equal to the same values. -/
theorem same_congr_left
    (comparable : isComparable first = true)
    (same : sameWithType first second = true)
    (value : Value) :
    first.same value = second.same value := by
  obtain ⟨scalar, itself⟩ := Bool.and_eq_true_iff.mp comparable
  obtain ⟨typed, equal⟩ := Bool.and_eq_true_iff.mp same
  have typed : first.typeName = second.typeName := of_decide_eq_true typed
  have numeric : ∀ left right, first.numeral? = some left → second.numeral? = some right →
      first.same value = second.same value := by
    intro left right here there
    rw [same_of_numeral? here, there, Option.any_some] at equal
    rw [same_of_numeral? here, same_of_numeral? there]
    exact congrArg (Option.any · value.numeral?)
      (funext fun numeral => Numeral.same_congr_left equal)
  cases first with
  | null =>
      cases second with
      | null => rfl
      | _ => exact absurd equal (by simp [Value.same, Value.numeral?])
  | text content =>
      cases second with
      | text other =>
          obtain rfl : content = other := by simpa [Value.same] using equal
          rfl
      | _ => exact absurd equal (by simp [Value.same, Value.numeral?])
  | bool | int | float =>
      cases second with
      | bool | int | float => exact numeric _ _ rfl rfl
      | _ => exact absurd equal (by simp [Value.same, Value.numeral?])
  | list | record => exact absurd scalar (by simp [isComposite])
  | _ => exact absurd itself (by simp [Value.same, Value.numeral?])

theorem isWordValue_congr
    (same : sameWithType first second = true) :
    isWordValue first = isWordValue second := by
  obtain ⟨typed, equal⟩ := Bool.and_eq_true_iff.mp same
  have typed : first.typeName = second.typeName := of_decide_eq_true typed
  have schemaType : ∀ node : Schema Value, (Value.schema node).typeName ≠ "int" := by
    intro node
    cases node <;> simp [Value.typeName]
  cases first with
  | int whole =>
      cases second with
      | int other =>
          rw [same_of_numeral? rfl] at equal
          have equal : whole = other := compare_eq_iff_eq.mp (by
            simpa [Value.numeral?, Numeral.same, Numeral.compare?] using equal)
          rw [equal]
      | schema node => exact absurd typed.symm (schemaType node)
      | _ => exact absurd typed (by simp [Value.typeName])
  | schema node =>
      cases second with
      | int other => exact absurd typed (schemaType node)
      | _ => rfl
  | _ =>
      cases second with
      | int other => exact absurd typed (by simp [Value.typeName])
      | _ => rfl

/-- A comparable value equals no list and no record. -/
theorem same_eq_false_of_isComposite
    (comparable : isComparable first = true)
    (composite : isComposite value = true) :
    first.same value = false := by
  obtain ⟨scalar, itself⟩ := Bool.and_eq_true_iff.mp comparable
  cases value with
  | list | record =>
      cases first with
      | list | record => exact absurd scalar (by simp [isComposite])
      | _ => simp [Value.same, Value.numeral?]
  | _ => exact absurd composite (by simp [isComposite])

/-- Every value has one among others that is the same, with its type. -/
def AllAmong (values others : List Value) : Prop :=
  ∀ value ∈ values, ∃ other ∈ others, sameWithType value other = true

theorem areAmong_iff : areAmong values others = true ↔ AllAmong values others := by
  simp only [areAmong, AllAmong, List.all_eq_true, List.any_eq_true]

theorem exists_same_of_allAmong
    (comparable : ∀ value ∈ values, isComparable value = true)
    (among : AllAmong values others)
    (found : ∃ allowed ∈ values, allowed.same value = true) :
    ∃ allowed ∈ others, allowed.same value = true := by
  obtain ⟨allowed, listed, equal⟩ := found
  obtain ⟨other, there, same⟩ := among allowed listed
  exact ⟨other, there, same_congr_left (comparable allowed listed) same value ▸ equal⟩

theorem any_isWordValue_of_allAmong
    (among : AllAmong values others)
    (found : values.any isWordValue = true) :
    others.any isWordValue = true := by
  obtain ⟨allowed, listed, isWord⟩ := List.any_eq_true.mp found
  obtain ⟨other, there, same⟩ := among allowed listed
  exact List.any_eq_true.mpr ⟨other, there, isWordValue_congr same ▸ isWord⟩

theorem sameWithType_self
    (comparable : isComparable value = true) :
    sameWithType value value = true := by
  rw [sameWithType, (Bool.and_eq_true_iff.mp comparable).2]
  simp

/-- Of comparable values none is lost when repeated ones are removed. -/
theorem exists_distinct
    (comparable : ∀ value ∈ values, isComparable value = true)
    (listed : value ∈ values) :
    ∃ other ∈ distinctValues values, sameWithType other value = true := by
  induction values with
  | nil => exact absurd listed List.not_mem_nil
  | cons first values inductionHypothesis =>
      obtain ⟨firstComparable, rest⟩ := List.forall_mem_cons.mp comparable
      obtain rfl | later := List.mem_cons.mp listed
      · exact ⟨value, List.mem_cons_self, sameWithType_self firstComparable⟩
      · obtain ⟨other, there, same⟩ := inductionHypothesis rest later
        cases repeated : sameWithType first other with
        | false =>
            exact ⟨other, List.mem_cons_of_mem _ (List.mem_filter.mpr ⟨there, by simp [repeated]⟩),
              same⟩
        | true =>
            -- the first value is the same as the one that stands for it
            obtain ⟨typed, equal⟩ := Bool.and_eq_true_iff.mp same
            refine ⟨first, List.mem_cons_self, Bool.and_eq_true_iff.mpr ⟨?_, ?_⟩⟩
            · have firstTyped := of_decide_eq_true (Bool.and_eq_true_iff.mp repeated).1
              exact decide_eq_true (firstTyped.trans (of_decide_eq_true typed))
            · rw [same_congr_left firstComparable repeated]
              exact equal

theorem isSome_findLast?_iff
    {test : Value → Bool} :
    (findLast? test values).isSome = true ↔ ∃ allowed ∈ values, test allowed = true := by
  rw [findLast?, List.find?_isSome]
  simp only [List.mem_reverse]

/-- Something is found by magnitude exactly if a value equals what is looked up. -/
theorem isSome_findByMagnitude?_iff
    (comparable : ∀ allowed ∈ values, isComparable allowed = true) :
    (findByMagnitude? values value).isSome = true ↔
      ∃ allowed ∈ values, allowed.same value = true := by
  constructor
  · intro found
    obtain ⟨allowed, found⟩ := Option.isSome_iff_exists.mp found
    obtain ⟨listed, equal⟩ := mem_of_findByMagnitude? found
    exact ⟨allowed, listed, equal⟩
  · rintro ⟨allowed, listed, equal⟩
    have scalar : isComposite value = false := by
      cases composite : isComposite value with
      | false => rfl
      | true =>
          rw [same_eq_false_of_isComposite (comparable allowed listed) composite] at equal
          contradiction
    have plain : isComposite allowed = false := by
      simpa using (Bool.and_eq_true_iff.mp (comparable allowed listed)).1
    unfold findByMagnitude?
    simp only [scalar, Bool.false_eq_true, if_false, Option.isSome_or, Bool.or_eq_true,
      isSome_findLast?_iff, Bool.and_eq_true]
    -- a word, a text or a truth value is found among the simple ones, and all others before
    by_cases simple : isWordValue allowed = true ∨ isText allowed = true
    · refine .inr (.inr ⟨allowed, listed, ?_, equal⟩)
      exact .inl simple
    · obtain ⟨noWord, noText⟩ := not_or.mp simple
      exact .inl ⟨allowed, listed, by simp [noWord, noText, plain], equal⟩

/-- What is found by type is found by magnitude too. -/
theorem same_of_findWithType?
    {found : Value}
    (withType : findWithType? values value = some found) :
    found.same value = true ∧ isOversized values value = false := by
  obtain ⟨-, same⟩ := mem_of_findWithType? withType
  have comparable : (∀ whole, value = .int whole → isWord whole = true) ∧
      isComparable value = true := by
    unfold findWithType? at withType
    split at withType
    · next flag => exact ⟨by simp, by cases flag <;> decide⟩
    · next whole =>
        split at withType
        · next word =>
            refine ⟨fun other same => ?_, ?_⟩
            · obtain rfl := Value.int.inj same
              exact word
            · rw [isComparable, same_of_numeral? rfl]
              simp [isComposite, Value.numeral?, Numeral.same, Numeral.compare?]
        · contradiction
    · simp [isComparable, isComposite, Value.same]
    · contradiction
  refine ⟨?_, ?_⟩
  · rw [← same_congr_left comparable.2 same]
    exact (Bool.and_eq_true_iff.mp comparable.2).2
  · cases value with
    | int whole => simp [isOversized, comparable.1 whole rfl]
    | _ => rfl

/-- Among comparable values one is found that equals what is looked up, if that fits a word. -/
theorem findMember_isOk_iff
    (comparable : ∀ allowed ∈ values, isComparable allowed = true) :
    (∃ found, findMember values value = .ok found) ↔
      (∃ allowed ∈ values, allowed.same value = true) ∧ isOversized values value = false := by
  have scalars : values.any isComposite = false := by
    rw [List.any_eq_false]
    intro allowed listed
    have plain := (Bool.and_eq_true_iff.mp (comparable allowed listed)).1
    simpa using plain
  have allowedEq : allowedValues values = distinctValues values := by
    rw [allowedValues, if_neg (by simp [scalars])]
  have distinct : ∀ allowed ∈ distinctValues values, isComparable allowed = true :=
    fun allowed listed => comparable allowed (mem_of_mem_distinctValues listed)
  have found_iff : (∃ allowed ∈ distinctValues values, allowed.same value = true) ↔
      ∃ allowed ∈ values, allowed.same value = true := by
    constructor
    · rintro ⟨allowed, listed, equal⟩
      exact ⟨allowed, mem_of_mem_distinctValues listed, equal⟩
    · rintro ⟨allowed, listed, equal⟩
      obtain ⟨other, there, same⟩ := exists_distinct comparable listed
      exact ⟨other, there, same_congr_left (distinct other there) same value ▸ equal⟩
  have words : (distinctValues values).any isWordValue = values.any isWordValue := by
    rw [Bool.eq_iff_iff, List.any_eq_true, List.any_eq_true]
    constructor
    · rintro ⟨allowed, listed, isWord⟩
      exact ⟨allowed, mem_of_mem_distinctValues listed, isWord⟩
    · rintro ⟨allowed, listed, isWord⟩
      obtain ⟨other, there, same⟩ := exists_distinct comparable listed
      exact ⟨other, there, isWordValue_congr same ▸ isWord⟩
  have oversized : isOversized (distinctValues values) value = isOversized values value := by
    cases value with
    | int whole => rw [isOversized, isOversized, words]
    | _ => rfl
  rw [findMember_eq, allowedEq]
  cases withType : findWithType? (distinctValues values) value with
  | some found =>
      obtain ⟨equal, fits⟩ := same_of_findWithType? withType
      refine ⟨fun _ => ⟨?_, oversized ▸ fits⟩, fun _ => ⟨found, rfl⟩⟩
      exact ⟨found, mem_of_mem_distinctValues (mem_of_findWithType? withType).1, equal⟩
  | none =>
      have byMagnitude : (findByMagnitude? (distinctValues values) value).isSome = true ↔
          ∃ allowed ∈ values, allowed.same value = true :=
        (isSome_findByMagnitude?_iff distinct).trans found_iff
      rw [← byMagnitude, oversized]
      cases isOversized values value with
      | true => simp
      | false =>
          cases findByMagnitude? (distinctValues values) value with
          | none => simp
          | some found => simp

/-- Which values are found depends on the allowed ones up to equal ones of their types. -/
theorem findMember_isOk_congr
    (comparable : ∀ allowed ∈ values, isComparable allowed = true)
    (othersComparable : ∀ allowed ∈ others, isComparable allowed = true)
    (forth : AllAmong values others)
    (back : AllAmong others values) :
    (∃ found, findMember values value = .ok found) ↔
      ∃ found, findMember others value = .ok found := by
  have words : values.any isWordValue = others.any isWordValue := by
    rw [Bool.eq_iff_iff]
    exact ⟨any_isWordValue_of_allAmong forth, any_isWordValue_of_allAmong back⟩
  have oversized : isOversized values value = isOversized others value := by
    cases value with
    | int whole => rw [isOversized, isOversized, words]
    | _ => rfl
  rw [findMember_isOk_iff comparable, findMember_isOk_iff othersComparable, oversized]
  exact and_congr_left fun _ => ⟨exists_same_of_allAmong comparable forth,
    exists_same_of_allAmong othersComparable back⟩

end Comparable

end Schema
end RoutineGate
