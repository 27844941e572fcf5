import Mathlib.Data.List.Nodup
import RoutineGate.Proofs.Schema.Verdict
import RoutineGate.Proofs.Traversal

/-!
# Accepted parts

A list is accepted item by item and a record field by field.  What is accepted without an
issue has an accepted part for each item that arrives, and for each field that is sent.  A
fault of a part is a fault of the whole.
-/

namespace RoutineGate
namespace Schema

section Collecting

variable {Part : Type} {fit after : Fit} {parts : List Part}

/-- What is built of parts has no issues and no fault among its parts. -/
theorem assemble_eq_ok_iff
    {build : List Part → Fit → Outcome}
    {collected : Except Fault (Collected Part)}
    {result : Instance × Fit} :
    assemble build collected = .ok result ↔
      ∃ parts fit, collected = .ok ⟨[], parts, fit⟩ ∧ build parts fit = .ok result := by
  constructor
  · intro assembled
    obtain fault | ⟨issues, parts, fit⟩ := collected
    · simp [assemble] at assembled
    · cases issues with
      | nil => exact ⟨parts, fit, rfl, assembled⟩
      | cons issue issues => simp [assemble] at assembled
  · rintro ⟨parts, fit, rfl, built⟩
    exact built

theorem eq_list_of_buildList
    {traits : Traits Value}
    {items : List Instance}
    {accepted : Instance}
    (built : buildList traits items fit = .ok (accepted, after)) :
    accepted = .list items := by
  unfold buildList at built
  split at built
  · exact (Prod.mk.inj (Except.ok.inj built)).1.symm
  · exact absurd built (by simp)

/-- Without an issue, the first part is accepted and so are the others. -/
theorem exists_of_collectPart
    {place : Place}
    {toPart : Instance → Part}
    {rest : Fit → Except Fault (Collected Part)}
    {outcome : Outcome}
    (refusals : ∀ issues, outcome = .error (.issues issues) → issues ≠ [])
    (collected : collectPart place toPart fit rest outcome = .ok ⟨[], parts, after⟩) :
    ∃ accepted middle others, outcome = .ok (accepted, middle) ∧
      rest middle = .ok ⟨[], others, after⟩ ∧ parts = toPart accepted :: others := by
  cases outcome with
  | ok result =>
      obtain ⟨accepted, middle⟩ := result
      obtain ⟨⟨issues, others, last⟩, rested, same⟩ := map_eq_ok_iff.mp collected
      simp only [Collected.addPart, Collected.mk.injEq] at same
      obtain ⟨rfl, rfl, rfl⟩ := same
      exact ⟨accepted, middle, others, rfl, rested, rfl⟩
  | error refusal =>
      cases refusal with
      | fault fault => simp [collectPart] at collected
      | issues issues =>
          obtain ⟨found, -, same⟩ := map_eq_ok_iff.mp collected
          simp only [Collected.addIssues, Collected.mk.injEq, List.append_eq_nil_iff,
            List.map_eq_nil_iff] at same
          exact absurd same.1.1 (refusals issues rfl)

/-- Without an issue, each item is accepted. -/
theorem forall₂_of_collectItems
    {check : Fit → Value → Outcome}
    {position : Nat}
    {items : List Value}
    {parts : List Instance}
    (refusals : ∀ fit item issues, check fit item = .error (.issues issues) → issues ≠ [])
    (collected : collectItems check position fit items = .ok ⟨[], parts, after⟩) :
    List.Forall₂ (fun item part => ∃ before after, check before item = .ok (part, after))
      items parts := by
  induction items generalizing position fit parts with
  | nil =>
      simp only [collectItems, Except.ok.injEq, Collected.mk.injEq, true_and] at collected
      obtain ⟨rfl, -⟩ := collected
      exact .nil
  | cons item items inductionHypothesis =>
      obtain ⟨accepted, middle, others, checked, rest, rfl⟩ :=
        exists_of_collectPart (refusals fit item) collected
      exact .cons ⟨fit, middle, checked⟩ (inductionHypothesis rest)

end Collecting

/-! ## Fields of a record -/

/-- The accepted parts of a record, by the fields from some position on. -/
inductive TakesFields (way : List Nat) (entries : List (String × Value)) :
    Nat → List (String × Schema Value) → List (String × Instance) → Prop
  | nil {position : Nat} :
      TakesFields way entries position [] []
  | sent {position : Nat} {key : String} {field : Schema Value} {value : Value}
      {fit after : Fit} {accepted : Instance} {fields : List (String × Schema Value)}
      {parts : List (String × Instance)}
      (present : entries.lookup key = some value)
      (validated : validate (position :: way) field fit value = .ok (accepted, after))
      (rest : TakesFields way entries (position + 1) fields parts) :
      TakesFields way entries position ((key, field) :: fields) ((key, accepted) :: parts)
  | absent {position : Nat} {key : String} {field : Schema Value}
      {fields : List (String × Schema Value)} {parts : List (String × Instance)}
      (absent : entries.lookup key = none)
      (optional : field.isRequired = false)
      (rest : TakesFields way entries (position + 1) fields parts) :
      TakesFields way entries position ((key, field) :: fields) parts

section Fields

variable {way : List Nat} {entries : List (String × Value)} {position : Nat}
variable {fields : List (String × Schema Value)} {parts : List (String × Instance)}

/-- Without an issue, each field that is sent is accepted, and no other one is required. -/
theorem takesFields_of_validateFields
    {fit after : Fit}
    (validated : validateFields way position fields entries fit = .ok ⟨[], parts, after⟩) :
    TakesFields way entries position fields parts := by
  induction fields generalizing position fit parts with
  | nil =>
      simp only [validateFields, Except.ok.injEq, Collected.mk.injEq, true_and] at validated
      obtain ⟨rfl, -⟩ := validated
      exact .nil
  | cons field fields inductionHypothesis =>
      obtain ⟨key, field⟩ := field
      rw [validateFields_cons] at validated
      cases present : entries.lookup key with
      | some value =>
          rw [present] at validated
          obtain ⟨accepted, middle, others, checked, rest, rfl⟩ :=
            exists_of_collectPart (fun _ => issues_ne_nil_of_refused) validated
          exact .sent present checked (inductionHypothesis rest)
      | none =>
          simp only [present] at validated
          split at validated
          · obtain ⟨found, -, same⟩ := map_eq_ok_iff.mp validated
            simp [Collected.addIssues] at same
          · next optional =>
              exact .absent present (eq_false_of_ne_true optional)
                (inductionHypothesis validated)

/-- The keys of the accepted parts are the keys of fields. -/
theorem TakesFields.lookup_eq_none
    (taken : TakesFields way entries position fields parts)
    {key : String}
    (undeclared : key ∉ fields.map Prod.fst) :
    parts.lookup key = none := by
  induction taken with
  | nil => rfl
  | @sent position other field value fit after accepted fields parts present validated rest
      inductionHypothesis =>
      obtain ⟨apart, others⟩ := List.ne_and_not_mem_of_not_mem_cons undeclared
      have different : (key == other) = false := by simpa using apart
      rw [List.lookup_cons, different]
      exact inductionHypothesis others
  | absent absent optional rest inductionHypothesis =>
      exact inductionHypothesis (List.not_mem_of_not_mem_cons undeclared)

/-- A dump by fields depends on the entries under their keys only. -/
theorem dumpFields_congr
    {mode : Match}
    {others : List (String × Instance)}
    (agree : ∀ key ∈ fields.map Prod.fst, parts.lookup key = others.lookup key) :
    dumpFields mode way position fields parts = dumpFields mode way position fields others := by
  induction fields generalizing position with
  | nil => rfl
  | cons field fields inductionHypothesis =>
      obtain ⟨key, field⟩ := field
      obtain ⟨first, rest⟩ := List.forall_mem_cons.mp agree
      rw [dumpFields, dumpFields, inductionHypothesis rest, first]

/-- Another entry does not matter for a dump by fields with other keys. -/
theorem dumpFields_cons
    {mode : Match}
    {key : String}
    (undeclared : key ∉ fields.map Prod.fst)
    (accepted : Instance) :
    dumpFields mode way position fields ((key, accepted) :: parts) =
      dumpFields mode way position fields parts := by
  refine dumpFields_congr fun other declared => ?_
  have different : (other == key) = false := by
    simpa using ne_of_mem_of_not_mem declared undeclared
  rw [List.lookup_cons, different]

end Fields

/-! ## Faults of parts -/

section Faults

variable {Part : Type} {fault : Fault}

/-- What is assembled ends with a fault of the parts, or with one of what is built of them. -/
theorem assemble_eq_fault_iff
    {build : List Part → Fit → Outcome}
    {collected : Except Fault (Collected Part)} :
    assemble build collected = .error (.fault fault) ↔
      collected = .error fault ∨
        ∃ parts fit, collected = .ok ⟨[], parts, fit⟩ ∧
          build parts fit = .error (.fault fault) := by
  obtain other | ⟨issues, parts, fit⟩ := collected
  · simp [assemble]
  · cases issues with
    | nil => simp [assemble]
    | cons issue issues => simp [assemble]

/-- Collecting ends with the fault of the part, or with one of the parts after it. -/
theorem collectPart_eq_fault
    {place : Place}
    {toPart : Instance → Part}
    {fit : Fit}
    {rest : Fit → Except Fault (Collected Part)}
    {outcome : Outcome}
    (failed : collectPart place toPart fit rest outcome = .error fault) :
    outcome = .error (.fault fault) ∨ ∃ after, rest after = .error fault := by
  cases outcome with
  | ok result => exact .inr ⟨result.2, map_eq_error_iff.mp failed⟩
  | error refusal =>
      cases refusal with
      | issues issues => exact .inr ⟨fit, map_eq_error_iff.mp failed⟩
      | fault other =>
          obtain rfl := Except.error.inj failed
          exact .inl rfl

/-- Collecting ends with a fault if one of the parts does. -/
theorem exists_collectPart_eq_fault
    {place : Place}
    {toPart : Instance → Part}
    {fit : Fit}
    {rest : Fit → Except Fault (Collected Part)}
    {outcome : Outcome}
    (failed : (∃ other, outcome = .error (.fault other)) ∨
      ∀ after, ∃ other, rest after = .error other) :
    ∃ other, collectPart place toPart fit rest outcome = .error other := by
  obtain ⟨other, rfl⟩ | later := failed
  · exact ⟨other, rfl⟩
  · cases outcome with
    | ok result =>
        obtain ⟨other, failed⟩ := later result.2
        exact ⟨other, map_eq_error_iff.mpr failed⟩
    | error refusal =>
        cases refusal with
        | issues issues =>
            obtain ⟨other, failed⟩ := later fit
            exact ⟨other, map_eq_error_iff.mpr failed⟩
        | fault other => exact ⟨other, rfl⟩

theorem exists_of_collectItems
    {check : Fit → Value → Outcome}
    {position : Nat}
    {fit : Fit}
    {items : List Value}
    (failed : collectItems check position fit items = .error fault) :
    ∃ item ∈ items, ∃ before, check before item = .error (.fault fault) := by
  induction items generalizing position fit with
  | nil => exact absurd failed (by simp [collectItems])
  | cons item items inductionHypothesis =>
      obtain here | ⟨after, later⟩ := collectPart_eq_fault failed
      · exact ⟨item, List.mem_cons_self, fit, here⟩
      · obtain ⟨other, listed, stops⟩ := inductionHypothesis later
        exact ⟨other, List.mem_cons_of_mem item listed, stops⟩

theorem exists_collectItems_eq_fault
    {check : Fit → Value → Outcome}
    {items : List Value}
    {item : Value}
    (listed : item ∈ items)
    (failed : ∀ fit, ∃ fault, check fit item = .error (.fault fault))
    (position : Nat)
    (fit : Fit) :
    ∃ other, collectItems check position fit items = .error other := by
  induction items generalizing position fit with
  | nil => exact absurd listed List.not_mem_nil
  | cons first items inductionHypothesis =>
      refine exists_collectPart_eq_fault ?_
      obtain rfl | later := List.mem_cons.mp listed
      · exact .inl (failed fit)
      · exact .inr (inductionHypothesis later (position + 1))

/-- Items that are all accepted are collected without an issue. -/
theorem exists_collectItems_eq_ok
    {check : Fit → Value → Outcome}
    {items : List Value}
    (accepted : ∀ item ∈ items, ∀ fit, ∃ part after, check fit item = .ok (part, after))
    (position : Nat)
    (fit : Fit) :
    ∃ parts after, collectItems check position fit items = .ok ⟨[], parts, after⟩ ∧
      parts.length = items.length := by
  induction items generalizing position fit with
  | nil => exact ⟨[], fit, rfl, rfl⟩
  | cons item items inductionHypothesis =>
      obtain ⟨first, others⟩ := List.forall_mem_cons.mp accepted
      obtain ⟨part, middle, checked⟩ := first fit
      obtain ⟨parts, after, collected, length⟩ := inductionHypothesis others (position + 1) middle
      refine ⟨part :: parts, after, ?_, by simp [length]⟩
      rw [collectItems, checked]
      simp only [collectPart, collected, Except.map, Collected.addPart, id]

variable {way : List Nat} {entries : List (String × Value)} {position : Nat} {fit : Fit}
variable {fields : List (String × Schema Value)}

theorem exists_of_validateFields
    (failed : validateFields way position fields entries fit = .error fault) :
    ∃ key field value, (key, field) ∈ fields ∧ entries.lookup key = some value ∧
      ∃ below before, validate below field before value = .error (.fault fault) := by
  induction fields generalizing position fit with
  | nil => exact absurd failed (by simp [validateFields])
  | cons field fields inductionHypothesis =>
      obtain ⟨key, field⟩ := field
      have later : ∀ {after}, validateFields way (position + 1) fields entries after =
          .error fault → ∃ other field' value, (other, field') ∈ (key, field) :: fields ∧
            entries.lookup other = some value ∧
            ∃ below before, validate below field' before value = .error (.fault fault) := by
        intro after rest
        obtain ⟨other, field', value, declared, sent, stops⟩ := inductionHypothesis rest
        exact ⟨other, field', value, List.mem_cons_of_mem _ declared, sent, stops⟩
      rw [validateFields_cons] at failed
      cases sent : entries.lookup key with
      | some value =>
          rw [sent] at failed
          obtain here | ⟨after, rest⟩ := collectPart_eq_fault failed
          · exact ⟨key, field, value, List.mem_cons_self, sent, _, fit, here⟩
          · exact later rest
      | none =>
          simp only [sent] at failed
          split at failed
          · exact later (map_eq_error_iff.mp failed)
          · exact later failed

theorem exists_validateFields_eq_fault
    {key : String}
    {field : Schema Value}
    {value : Value}
    (declared : (key, field) ∈ fields)
    (sent : entries.lookup key = some value)
    (failed : field.Faults value)
    (position : Nat)
    (fit : Fit) :
    ∃ other, validateFields way position fields entries fit = .error other := by
  induction fields generalizing position fit with
  | nil => exact absurd declared List.not_mem_nil
  | cons first fields inductionHypothesis =>
      obtain ⟨other, field'⟩ := first
      obtain same | later := List.mem_cons.mp declared
      · obtain ⟨rfl, rfl⟩ := Prod.mk.inj same
        rw [validateFields_cons, sent]
        exact exists_collectPart_eq_fault (.inl (failed _ fit))
      · have rest := inductionHypothesis later (position + 1)
        rw [validateFields_cons]
        cases entries.lookup other with
        | some value => exact exists_collectPart_eq_fault (.inr rest)
        | none =>
            obtain ⟨fault, rest⟩ := rest fit
            refine ⟨fault, ?_⟩
            dsimp only
            split
            · exact map_eq_error_iff.mpr rest
            · exact rest

/-- A fault of an item is one of the list. -/
theorem Faults.list
    {item : Schema Value}
    {values : List Value}
    {value : Value}
    (failed : item.Faults value)
    (listed : value ∈ values)
    (traits : Traits Value) :
    (Schema.array traits item).Faults (.list values) := by
  intro way fit
  obtain ⟨other, collected⟩ := exists_collectItems_eq_fault listed (failed (0 :: way)) 0 fit
  refine ⟨other, ?_⟩
  rw [validate_list]
  exact assemble_eq_fault_iff.mpr (.inl collected)

/-- A fault of a field that is sent is one of the record. -/
theorem Faults.record
    {key : String}
    {field : Schema Value}
    {value : Value}
    (failed : field.Faults value)
    (declared : (key, field) ∈ fields)
    (sent : entries.lookup key = some value)
    (traits : Traits Value) :
    (Schema.object traits fields).Faults (.record entries) := by
  intro way fit
  obtain ⟨other, validated⟩ : ∃ other,
      validateFields way 0 fields entries (fit.lower .lax) = .error other :=
    exists_validateFields_eq_fault declared sent failed 0 (fit.lower .lax)
  refine ⟨other, ?_⟩
  rw [validate_record]
  exact assemble_eq_fault_iff.mpr (.inl validated)

/-- A fault of a registered schema is one of its uses. -/
theorem Faults.custom
    {traits : Traits Value}
    {name : String}
    {inner : Schema Value}
    {value : Value}
    (failed : inner.Faults value)
    (given : (Schema.custom traits name inner).takesNull value = false) :
    (Schema.custom traits name inner).Faults value := by
  intro way fit
  rw [validate_custom given]
  exact failed way fit

end Faults

end Schema
end RoutineGate
