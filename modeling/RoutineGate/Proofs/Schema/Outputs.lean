import RoutineGate.Proofs.Schema.Filling
import RoutineGate.Proofs.Schema.Locations
import RoutineGate.Proofs.Schema.Rendering

/-!
# Outputs at a location

What a schema passes on of a value holds, at a location within it, what the schema of the value
there passes on.
-/

namespace RoutineGate
namespace Schema

/-- The value that a location within another value leads to. -/
def valueAt? : List Place → Value → Option Value
  | [], value => some value
  | .index position :: location, .list values => values[position]?.bind (valueAt? location)
  | .key key :: location, .record entries => (entries.lookup key).bind (valueAt? location)
  | _, _ => none

/-! ## Null -/

section Null

variable {value : Value} {after : Fit}

theorem runSteps_eq_null
    {steps : List (Step Value)}
    (run : runSteps steps value = .ok .null) :
    value = .null := by
  induction steps generalizing value with
  | nil => exact Except.ok.inj run
  | cons step steps inductionHypothesis =>
      rw [runSteps] at run
      split at run
      · next changed ran =>
          obtain rfl := inductionHypothesis run
          unfold Step.run at ran
          split at ran
          · split at ran
            · have same := Except.ok.inj ran
              cases value <;> first | rfl | exact absurd same (by simp [Rule.change])
            · exact absurd ran (by simp)
          · exact absurd ran (by simp)
      · exact absurd run (by simp)

theorem exists_of_acceptScalar_null
    {Result : Type}
    {traits : Traits Value}
    {fit : Fit}
    {toValue : Result → Value}
    {reading : Reading Result}
    (accepted : acceptScalar traits fit toValue reading = .ok (.value .null, after)) :
    ∃ read, toValue read = .null := by
  cases reading with
  | error violation => exact absurd accepted (by simp [acceptScalar])
  | ok read =>
      simp only [acceptScalar] at accepted
      split at accepted
      · next found run =>
          obtain ⟨same, -⟩ := Prod.mk.inj (Except.ok.inj accepted)
          obtain rfl := Instance.value.inj same
          exact ⟨read.1, runSteps_eq_null run⟩
      · exact absurd accepted (by simp)

/-- Among the members only null is found as null. -/
theorem eq_null_of_acceptMember
    {fit : Fit}
    {allowed : List Value}
    (accepted : acceptMember fit (findMember allowed value) = .ok (.value .null, after)) :
    value = .null := by
  cases lookup : findMember allowed value with
  | error violation =>
      rw [lookup] at accepted
      exact absurd accepted (by simp [acceptMember])
  | ok found =>
      rw [lookup] at accepted
      obtain ⟨same, -⟩ := Prod.mk.inj (Except.ok.inj accepted)
      obtain rfl := Instance.value.inj same
      obtain ⟨-, same | same⟩ := mem_of_findMember lookup
      · have equal := (Bool.and_eq_true_iff.mp same).2
        cases value <;> first | rfl | exact absurd equal (by simp [Value.same, Value.numeral?])
      · cases value <;> first | rfl | exact absurd same (by simp [Value.same, Value.numeral?])

/-- A value is null if it is whenever the schema does not accept it as null by itself. -/
theorem eq_null_of_given
    (schema : Schema Value)
    (otherwise : schema.takesNull value = false → value = .null) :
    value = .null := by
  cases given : schema.takesNull value with
  | true => exact (takesNull_iff.mp given).2
  | false => exact otherwise given

/-- Only null is accepted as null. -/
theorem eq_null_of_validate
    {schema : Schema Value}
    (wellFormed : schema.WellFormed)
    {way : List Nat}
    {fit : Fit}
    (validated : validate way schema fit value = .ok (.value .null, after)) :
    value = .null := by
  induction wellFormed generalizing way fit after value with
  | @any traits =>
      refine eq_null_of_given (.any traits) fun given => ?_
      rw [validate_any given] at validated
      exact Instance.value.inj (Prod.mk.inj (Except.ok.inj validated)).1
  | @string traits coerce =>
      refine eq_null_of_given (.string traits coerce) fun given => ?_
      rw [validate_string given] at validated
      obtain ⟨read, same⟩ := exists_of_acceptScalar_null validated
      exact absurd same (by simp)
  | @number traits integer coerce =>
      refine eq_null_of_given (.number traits integer coerce) fun given => ?_
      cases integer with
      | true =>
          rw [validate_integer given] at validated
          obtain ⟨read, same⟩ := exists_of_acceptScalar_null validated
          exact absurd same (by simp)
      | false =>
          rw [validate_number given] at validated
          obtain ⟨read, same⟩ := exists_of_acceptScalar_null validated
          cases numeral : integralNumeral read <;>
            exact absurd same (by simp [numeral, Value.ofNumeral])
  | @boolean traits coerce =>
      refine eq_null_of_given (.boolean traits coerce) fun given => ?_
      rw [validate_boolean given] at validated
      obtain ⟨read, same⟩ := exists_of_acceptScalar_null validated
      exact absurd same (by simp)
  | @literal traits allowed =>
      refine eq_null_of_given (.literal traits allowed) fun given => ?_
      rw [validate_literal given] at validated
      exact eq_null_of_acceptMember validated
  | @enumeration traits allowed =>
      refine eq_null_of_given (.enumeration traits allowed) fun given => ?_
      rw [validate_enumeration given] at validated
      exact eq_null_of_acceptMember validated
  | @array traits item =>
      refine eq_null_of_given (.array traits item) fun given => ?_
      by_cases isList : ∃ values, value = .list values
      · obtain ⟨values, rfl⟩ := isList
        rw [validate_list] at validated
        obtain ⟨parts, fit, -, built⟩ := assemble_eq_ok_iff.mp validated
        exact absurd (eq_list_of_buildList built) (by simp)
      · rw [validate_array_of_ne_list given (not_exists.mp isList)] at validated
        exact absurd validated (by simp)
  | @object traits fields =>
      refine eq_null_of_given (.object traits fields) fun given => ?_
      by_cases isRecord : ∃ entries, value = .record entries
      · obtain ⟨entries, rfl⟩ := isRecord
        rw [validate_record] at validated
        obtain ⟨parts, fit, -, built⟩ := assemble_eq_ok_iff.mp validated
        exact absurd built (by simp [buildRecord])
      · rw [validate_object_of_ne_record given (not_exists.mp isRecord)] at validated
        exact absurd validated (by simp)
  | @union traits options _ _ _ inductionHypothesis =>
      refine eq_null_of_given (.union traits options) fun given => ?_
      obtain ⟨index, option, before, middle, here, -, validated⟩ :=
        isTaken_of_validate given validated
      exact inductionHypothesis option (List.mem_of_getElem? here) validated
  | @custom traits name inner _ _ inductionHypothesis =>
      refine eq_null_of_given (.custom traits name inner) fun given => ?_
      rw [validate_custom given] at validated
      exact inductionHypothesis validated

end Null

/-! ## Parts at a location -/

section Parts

variable {way : List Nat} {location : List Place}

/-- The part of a field that is sent is dumped under its key. -/
theorem TakesFields.exists_dump
    {entries : List (String × Value)}
    {position : Nat}
    {fields : List (String × Schema Value)}
    {parts : List (String × Instance)}
    (taken : TakesFields way entries position fields parts)
    (distinct : (fields.map Prod.fst).Nodup)
    {key : String}
    {field : Schema Value}
    {value : Value}
    (declared : (key, field) ∈ fields)
    (sent : entries.lookup key = some value) :
    ∃ below before accepted after, validate below field before value = .ok (accepted, after) ∧
      ∀ mode outputs, dumpFields mode way position fields parts = some outputs →
        ∃ output, dump mode below field accepted = some output ∧
          outputs.lookup key = some output := by
  induction taken with
  | nil => exact absurd declared List.not_mem_nil
  | @sent position other field' value' fit after accepted fields parts present validated rest
      inductionHypothesis =>
      obtain ⟨undeclared, others⟩ := List.nodup_cons.mp distinct
      have step : ∀ mode, dumpFields mode way position ((other, field') :: fields)
          ((other, accepted) :: parts) = consDump other
            (dump mode (position :: way) field' accepted)
            (dumpFields mode way (position + 1) fields parts) := by
        intro mode
        rw [dumpFields, List.lookup_cons_self, dumpFields_cons undeclared]
      obtain same | later := List.mem_cons.mp declared
      · obtain ⟨rfl, rfl⟩ := Prod.mk.inj same
        obtain rfl := Option.some.inj (present.symm.trans sent)
        refine ⟨position :: way, fit, accepted, after, validated, fun mode outputs dumped => ?_⟩
        rw [step] at dumped
        obtain ⟨output, rest, here, there, rfl⟩ := consDump_eq_some dumped
        exact ⟨output, here, List.lookup_cons_self⟩
      · obtain ⟨below, before, part, last, validated, dumps⟩ := inductionHypothesis others later
        refine ⟨below, before, part, last, validated, fun mode outputs dumped => ?_⟩
        rw [step] at dumped
        obtain ⟨first, rest, -, there, rfl⟩ := consDump_eq_some dumped
        obtain ⟨output, here, found⟩ := dumps mode rest there
        have different : (key == other) = false := by
          simpa using ne_of_mem_of_not_mem (List.mem_map_of_mem later) undeclared
        exact ⟨output, here, by rw [List.lookup_cons, different]; exact found⟩
  | @absent position other field' fields parts absent optional rest inductionHypothesis =>
      obtain ⟨undeclared, others⟩ := List.nodup_cons.mp distinct
      obtain same | later := List.mem_cons.mp declared
      · obtain ⟨rfl, rfl⟩ := Prod.mk.inj same
        exact absurd (absent.symm.trans sent) (by simp)
      · obtain ⟨below, before, part, last, validated, dumps⟩ := inductionHypothesis others later
        refine ⟨below, before, part, last, validated, fun mode outputs dumped => ?_⟩
        rw [dumpFields, rest.lookup_eq_none undeclared] at dumped
        exact dumps mode outputs dumped

/--
What is passed on of a value that is accepted holds, at a location, what the schema there has
accepted and dumped of the value there, with the defaults that it fills in.
-/
theorem LeadsTo.exists_output
    {schema target : Schema Value}
    {value found : Value}
    (leads : LeadsTo location schema value target found)
    (wellFormed : schema.WellFormed)
    {fit after : Fit}
    {accepted : Instance}
    (validated : validate way schema fit value = .ok (accepted, after)) :
    ∃ below before part last, validate below target before found = .ok (part, last) ∧
      ∀ mode output, dump mode way schema accepted = some output →
        ∃ given, dump mode below target part = some given ∧
          valueAt? location (fill schema output) = some (fill target given) := by
  induction leads generalizing way fit after accepted with
  | here =>
      exact ⟨way, fit, accepted, after, validated, fun _ output dumped => ⟨output, dumped, rfl⟩⟩
  | @item location traits item target values position value found sent leads
      inductionHypothesis =>
      cases wellFormed with
      | array _ itemWellFormed =>
          rw [validate_list] at validated
          obtain ⟨parts, middle, collected, built⟩ := assemble_eq_ok_iff.mp validated
          obtain rfl := eq_list_of_buildList built
          have items := forall₂_of_collectItems (fun _ _ _ => issues_ne_nil_of_refused) collected
          obtain ⟨part, there, before, last, validated⟩ := exists_getElem?_of_forall₂ items sent
          obtain ⟨below, other, inner, final, innerValidated, dumps⟩ :=
            inductionHypothesis itemWellFormed validated
          refine ⟨below, other, inner, final, innerValidated, fun mode output dumped => ?_⟩
          rw [dump_list] at dumped
          obtain ⟨outputs, dumpedItems, rfl⟩ := Option.map_eq_some_iff.mp dumped
          obtain ⟨partOutput, here, dumpedPart⟩ :=
            exists_getElem?_of_forall₂ (forall₂_of_dumpItems dumpedItems) there
          obtain ⟨given, dumpedInner, same⟩ := dumps mode partOutput dumpedPart
          refine ⟨given, dumpedInner, ?_⟩
          rw [fill, valueAt?, List.getElem?_map, here]
          exact same
  | @field location traits fields entries key field target value found declared sent leads
      inductionHypothesis =>
      cases wellFormed with
      | object _ distinct fieldsWellFormed =>
          rw [validate_record] at validated
          obtain ⟨parts, middle, collected, built⟩ := assemble_eq_ok_iff.mp validated
          obtain ⟨rfl, -⟩ := Prod.mk.inj (Except.ok.inj built)
          obtain ⟨place, before, part, last, validated, dumpsPart⟩ :=
            (takesFields_of_validateFields collected).exists_dump distinct declared sent
          obtain ⟨below, other, inner, final, innerValidated, dumps⟩ :=
            inductionHypothesis (fieldsWellFormed (key, field) declared) validated
          refine ⟨below, other, inner, final, innerValidated, fun mode output dumped => ?_⟩
          rw [dump_record] at dumped
          obtain ⟨outputs, dumpedFields, rfl⟩ := Option.map_eq_some_iff.mp dumped
          obtain ⟨partOutput, dumpedPart, here⟩ := dumpsPart mode outputs dumpedFields
          obtain ⟨given, dumpedInner, same⟩ := dumps mode partOutput dumpedPart
          refine ⟨given, dumpedInner, ?_⟩
          rw [fill, valueAt?, lookup_fillFields distinct declared, here]
          exact same
  | @custom location traits name inner target value found given leads inductionHypothesis =>
      cases wellFormed with
      | custom _ innerWellFormed =>
          rw [validate_custom given] at validated
          obtain ⟨below, other, part, final, partValidated, dumps⟩ :=
            inductionHypothesis innerWellFormed validated
          refine ⟨below, other, part, final, partValidated, fun mode output dumped => ?_⟩
          refine dumps mode output ?_
          unfold dump at dumped
          split at dumped
          · next null =>
              -- only null is accepted as null, and the registered schema does not accept it here
              obtain ⟨allowed, isNull⟩ := Bool.and_eq_true_iff.mp null
              obtain rfl := Instance.eq_null_of_isNull isNull
              have taken := takesNull_iff.mpr
                ⟨allowed, eq_null_of_validate innerWellFormed validated⟩
              exact absurd (taken.symm.trans given) (by simp)
          · exact dumped

end Parts

end Schema
end RoutineGate
