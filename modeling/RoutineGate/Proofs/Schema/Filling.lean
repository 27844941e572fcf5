import RoutineGate.Proofs.Request.Fields
import RoutineGate.Proofs.Schema.Membership
import RoutineGate.Proofs.Schema.Parts
import RoutineGate.Proofs.Schema.WellFormed
import RoutineGate.Schema.Defaults

/-!
# What a schema passes on

A record is passed on with the declared keys that are sent, in the order of their
declaration, and after them with the defaults of those that are left out.  This holds of each
record that a schema without unions describes, however deep it is in lists, records and
registered schemas, and in the defaults themselves.
-/

namespace RoutineGate
namespace Schema

mutual

/-- Whether there is no union within a schema. -/
def isUnionFree : Schema Value → Bool
  | .array _ item => item.isUnionFree
  | .object _ fields => areUnionFree fields
  | .union .. => false
  | .custom _ _ inner => inner.isUnionFree
  | _ => true

/-- Whether there is no union within the fields of a record. -/
def areUnionFree : List (String × Schema Value) → Bool
  | [] => true
  | (_, field) :: fields => field.isUnionFree && areUnionFree fields

end

/-- Whether a schema has no parts. -/
def isLeaf : Schema Value → Bool
  | .array .. => false
  | .object .. => false
  | .union .. => false
  | .custom .. => false
  | _ => true

/-- Whether the defaults of a schema have a place within a value. -/
def fills : Schema Value → Value → Bool
  | .array .., .list _ => true
  | .object .., .record _ => true
  | .custom .., _ => true
  | _, _ => false

/-- The keys of the fields that are sent. -/
def sentKeys (fields : List (String × Schema Value)) (entries : List (String × Value)) :
    List String :=
  (fields.filter fun field => (entries.lookup field.1).isSome).map Prod.fst

/-- The keys of the fields that are left out and have a default. -/
def filledKeys (fields : List (String × Schema Value)) (entries : List (String × Value)) :
    List String :=
  (fields.filter fun field =>
    (entries.lookup field.1).isNone && field.2.effectiveDefault.isSome).map Prod.fst

/-- A value with the defaults that a schema declares within it. -/
inductive Completes : Schema Value → Value → Value → Prop
  | same {schema : Schema Value} {value : Value}
      (apart : schema.fills value = false) :
      Completes schema value value
  | list {traits : Traits Value} {item : Schema Value} {given outputs : List Value}
      (length : outputs.length = given.length)
      (items : ∀ (position : Nat) (value output : Value),
        given[position]? = some value → outputs[position]? = some output →
        Completes item value output) :
      Completes (.array traits item) (.list given) (.list outputs)
  | record {traits : Traits Value} {fields : List (String × Schema Value)}
      {given outputs : List (String × Value)}
      (keys : outputs.map Prod.fst = given.map Prod.fst ++ filledKeys fields given)
      (undeclared : ∀ key ∉ fields.map Prod.fst, outputs.lookup key = given.lookup key)
      (declared : ∀ key field value output, (key, field) ∈ fields →
        (given.lookup key).or field.effectiveDefault = some value →
        outputs.lookup key = some output → Completes field value output) :
      Completes (.object traits fields) (.record given) (.record outputs)
  | custom {traits : Traits Value} {name : String} {inner : Schema Value} {given output : Value}
      (completes : Completes inner given output) :
      Completes (.custom traits name inner) given output

/-- What a schema without unions passes on of a value that it accepts. -/
inductive PassesOn : Schema Value → Value → Value → Prop
  | null {schema : Schema Value}
      (allowed : schema.acceptsNullHere = true) :
      PassesOn schema .null .null
  | leaf {schema : Schema Value} {value output : Value} {accepted : Instance} {fit : Fit}
      (isLeaf : schema.isLeaf = true)
      (validated : validate [] schema {} value = .ok (accepted, fit))
      (dumped : dump .assured [] schema accepted = some output) :
      PassesOn schema value output
  | list {traits : Traits Value} {item : Schema Value} {values outputs : List Value}
      (length : outputs.length = values.length)
      (items : ∀ (position : Nat) (value output : Value),
        values[position]? = some value → outputs[position]? = some output →
        PassesOn item value output) :
      PassesOn (.array traits item) (.list values) (.list outputs)
  | record {traits : Traits Value} {fields : List (String × Schema Value)}
      {entries outputs : List (String × Value)}
      (keys : outputs.map Prod.fst = sentKeys fields entries ++ filledKeys fields entries)
      (sent : ∀ key field value output, (key, field) ∈ fields →
        entries.lookup key = some value →
        outputs.lookup key = some output → PassesOn field value output)
      (nulls : ∀ key ∈ fields.map Prod.fst,
        entries.lookup key = some .null → outputs.lookup key = some .null)
      (filled : ∀ key field default output, (key, field) ∈ fields →
        entries.lookup key = none → field.effectiveDefault = some default →
        outputs.lookup key = some output → Completes field default output) :
      PassesOn (.object traits fields) (.record entries) (.record outputs)
  | custom {traits : Traits Value} {name : String} {inner : Schema Value} {value output : Value}
      (passed : PassesOn inner value output) :
      PassesOn (.custom traits name inner) value output

/-! ## Filling in defaults -/

/-- Something is found under a key exactly if the key is there. -/
theorem isSome_lookup_iff
    {Datum : Type}
    {key : String}
    {entries : List (String × Datum)} :
    (entries.lookup key).isSome = true ↔ key ∈ entries.map Prod.fst := by
  simp only [List.lookup_isSome_iff, List.mem_map, beq_iff_eq, @eq_comm _ key]

section Filling

variable {fields : List (String × Schema Value)} {entries : List (String × Value)}

/-- Entries after those of the first field are filled in. -/
def fillField (key : String) (field : Schema Value) (entries : List (String × Value)) :
    List (String × Value) :=
  match (entries.lookup key).or field.effectiveDefault with
  | some value => Value.put key (fill field value) entries
  | none => entries

theorem fillFields_cons
    (key : String)
    (field : Schema Value)
    (fields : List (String × Schema Value))
    (entries : List (String × Value)) :
    fillFields ((key, field) :: fields) entries =
      fillFields fields (fillField key field entries) := by
  rw [fillFields, fillField]
  cases entries.lookup key with
  | some value => rfl
  | none => rfl

theorem lookup_fillField_self
    (key : String)
    (field : Schema Value)
    (entries : List (String × Value)) :
    (fillField key field entries).lookup key =
      ((entries.lookup key).or field.effectiveDefault).map (fill field) := by
  unfold fillField
  split
  · next value found => rw [Value.lookup_put_self, found, Option.map_some]
  · next missing =>
      obtain ⟨absent, -⟩ := Option.or_eq_none_iff.mp missing
      rw [missing, absent, Option.map_none]

theorem lookup_fillField_of_ne
    {key other : String}
    (different : other ≠ key)
    (field : Schema Value)
    (entries : List (String × Value)) :
    (fillField key field entries).lookup other = entries.lookup other := by
  unfold fillField
  split
  · exact Value.lookup_put_of_ne different _ entries
  · rfl

theorem keys_fillField
    (key : String)
    (field : Schema Value)
    (entries : List (String × Value)) :
    (fillField key field entries).map Prod.fst =
      entries.map Prod.fst ++ filledKeys [(key, field)] entries := by
  have listed : (entries.lookup key).isSome = true ↔ key ∈ entries.map Prod.fst :=
    isSome_lookup_iff
  unfold fillField filledKeys
  cases present : entries.lookup key with
  | some value =>
      rw [present] at listed
      simp [Value.keys_put, listed.mp rfl, present]
  | none =>
      rw [present] at listed
      have absent : key ∉ entries.map Prod.fst := mt listed.mpr (by simp)
      cases default : field.effectiveDefault with
      | some default => simp [Value.keys_put, absent, present, default]
      | none => simp [present, default]

/-- Keys that no field has keep their values. -/
theorem lookup_fillFields_of_not_mem
    {key : String}
    (undeclared : key ∉ fields.map Prod.fst) :
    (fillFields fields entries).lookup key = entries.lookup key := by
  induction fields generalizing entries with
  | nil => rw [fillFields]
  | cons field fields inductionHypothesis =>
      obtain ⟨other, field⟩ := field
      obtain ⟨apart, rest⟩ := List.ne_and_not_mem_of_not_mem_cons undeclared
      rw [fillFields_cons, inductionHypothesis rest, lookup_fillField_of_ne apart]

/-- The key of a field holds the value that is there, or else the default, filled in. -/
theorem lookup_fillFields
    (distinct : (fields.map Prod.fst).Nodup)
    {key : String}
    {field : Schema Value}
    (declared : (key, field) ∈ fields) :
    (fillFields fields entries).lookup key =
      ((entries.lookup key).or field.effectiveDefault).map (fill field) := by
  induction fields generalizing entries with
  | nil => exact absurd declared List.not_mem_nil
  | cons first fields inductionHypothesis =>
      obtain ⟨other, other'⟩ := first
      obtain ⟨absent, rest⟩ := List.nodup_cons.mp distinct
      rw [fillFields_cons]
      obtain same | later := List.mem_cons.mp declared
      · obtain ⟨rfl, rfl⟩ := Prod.mk.inj same
        rw [lookup_fillFields_of_not_mem absent, lookup_fillField_self]
      · have different : key ≠ other :=
          ne_of_mem_of_not_mem (List.mem_map_of_mem later) absent
        rw [inductionHypothesis rest later, lookup_fillField_of_ne different]

/-- Defaults come after the keys that are there, in the order of the fields. -/
theorem keys_fillFields
    (distinct : (fields.map Prod.fst).Nodup) :
    (fillFields fields entries).map Prod.fst =
      entries.map Prod.fst ++ filledKeys fields entries := by
  induction fields generalizing entries with
  | nil => simp [fillFields, filledKeys]
  | cons first fields inductionHypothesis =>
      obtain ⟨key, field⟩ := first
      obtain ⟨absent, rest⟩ := List.nodup_cons.mp distinct
      have others : filledKeys fields (fillField key field entries) =
          filledKeys fields entries := by
        refine congrArg (List.map Prod.fst) (List.filter_congr fun other listed => ?_)
        have different : other.1 ≠ key :=
          ne_of_mem_of_not_mem (List.mem_map_of_mem listed) absent
        rw [lookup_fillField_of_ne different]
      have split : filledKeys ((key, field) :: fields) entries =
          filledKeys [(key, field)] entries ++ filledKeys fields entries := by
        simp only [filledKeys, ← List.map_append, ← List.filter_append, List.singleton_append]
      rw [fillFields_cons, inductionHypothesis rest, keys_fillField, others, split,
        List.append_assoc]

/-- Filling in gives a value with the defaults that a schema declares within it. -/
theorem completes_fill
    {schema : Schema Value}
    (wellFormed : schema.WellFormed)
    (value : Value) :
    Completes schema value (fill schema value) := by
  induction wellFormed generalizing value with
  | any | string | number | boolean | literal | enumeration | union => exact .same rfl
  | array _ _ inductionHypothesis =>
      cases value with
      | list items =>
          refine .list (List.length_map _) fun position value output found filled => ?_
          rw [List.getElem?_map, found, Option.map_some] at filled
          obtain rfl := Option.some.inj filled
          exact inductionHypothesis value
      | _ => exact .same rfl
  | @object traits fields _ distinct _ inductionHypothesis =>
      cases value with
      | record entries =>
          refine .record (keys_fillFields distinct)
            (fun _ => lookup_fillFields_of_not_mem) ?_
          intro key field value output declared found filled
          rw [lookup_fillFields distinct declared, found, Option.map_some] at filled
          obtain rfl := Option.some.inj filled
          exact inductionHypothesis (key, field) declared value
      | _ => exact .same rfl
  | custom _ _ inductionHypothesis => exact .custom (inductionHypothesis value)

end Filling

/-! ## Dumping what is accepted -/

/-- What a scalar is accepted as does not depend on the fit of what comes before. -/
theorem acceptScalar_eq_ok
    {Result : Type}
    {traits : Traits Value}
    {toValue : Result → Value}
    {reading : Reading Result}
    {fit after : Fit}
    {accepted : Instance}
    (taken : acceptScalar traits fit toValue reading = .ok (accepted, after))
    (otherFit : Fit) :
    ∃ found other, accepted = .value found ∧
      acceptScalar traits otherFit toValue reading = .ok (.value found, other) := by
  cases reading with
  | error violation => simp [acceptScalar] at taken
  | ok read =>
      simp only [acceptScalar] at taken ⊢
      split at taken
      · obtain ⟨rfl, -⟩ := Prod.mk.inj (Except.ok.inj taken)
        exact ⟨_, _, rfl, rfl⟩
      · exact absurd taken (by simp)

theorem acceptMember_eq_ok
    {found : Except Violation Value}
    {fit after : Fit}
    {accepted : Instance}
    (taken : acceptMember fit found = .ok (accepted, after))
    (otherFit : Fit) :
    ∃ found' other, accepted = .value found' ∧
      acceptMember otherFit found = .ok (.value found', other) := by
  cases found with
  | error violation => simp [acceptMember] at taken
  | ok found =>
      obtain ⟨rfl, -⟩ := Prod.mk.inj (Except.ok.inj taken)
      exact ⟨_, _, rfl, rfl⟩

/-- A schema without parts accepts a value as one without parts, in the same way everywhere. -/
theorem validate_leaf
    {schema : Schema Value}
    (isLeaf : schema.isLeaf = true)
    {way : List Nat}
    {fit after : Fit}
    {value : Value}
    {accepted : Instance}
    (validated : validate way schema fit value = .ok (accepted, after)) :
    ∃ found other, accepted = .value found ∧
      validate [] schema {} value = .ok (.value found, other) := by
  cases given : schema.takesNull value with
  | true =>
      rw [validate_of_takesNull given] at validated ⊢
      obtain ⟨rfl, -⟩ := Prod.mk.inj (Except.ok.inj validated)
      exact ⟨_, _, rfl, rfl⟩
  | false =>
      cases schema with
      | any =>
          rw [validate_any given] at validated ⊢
          obtain ⟨rfl, -⟩ := Prod.mk.inj (Except.ok.inj validated)
          exact ⟨_, _, rfl, rfl⟩
      | string =>
          rw [validate_string given] at validated ⊢
          exact acceptScalar_eq_ok validated {}
      | number traits integer =>
          cases integer with
          | true =>
              rw [validate_integer given] at validated ⊢
              exact acceptScalar_eq_ok validated {}
          | false =>
              rw [validate_number given] at validated ⊢
              exact acceptScalar_eq_ok validated {}
      | boolean =>
          rw [validate_boolean given] at validated ⊢
          exact acceptScalar_eq_ok validated {}
      | literal =>
          rw [validate_literal given] at validated ⊢
          exact acceptMember_eq_ok validated {}
      | enumeration =>
          rw [validate_enumeration given] at validated ⊢
          exact acceptMember_eq_ok validated {}
      | _ => exact absurd isLeaf (by simp [Schema.isLeaf])

/-- A schema without parts dumps every instance, in the same way everywhere. -/
theorem exists_dump_leaf
    {schema : Schema Value}
    (isLeaf : schema.isLeaf = true)
    (way : List Nat)
    (accepted : Instance) :
    ∃ dumped, dump .assured way schema accepted = some dumped ∧
      dump .assured [] schema accepted = some dumped := by
  unfold dump
  by_cases null : schema.acceptsNullHere && accepted.isNull
  · rw [if_pos null, if_pos null]
    exact ⟨_, rfl, rfl⟩
  · rw [if_neg null, if_neg null]
    cases schema with
    | any => exact ⟨_, rfl, rfl⟩
    | string | boolean =>
        cases accepted with
        | value value => cases value <;> exact ⟨_, rfl, rfl⟩
        | _ => exact ⟨_, rfl, rfl⟩
    | number traits integer coerce =>
        cases accepted with
        | value value => cases integer <;> cases value <;> exact ⟨_, rfl, rfl⟩
        | _ => exact ⟨_, rfl, rfl⟩
    | literal | enumeration =>
        cases accepted with
        | value value => exact ⟨_, rfl, rfl⟩
        | _ => exact ⟨_, rfl, rfl⟩
    | _ => exact absurd isLeaf (by simp [Schema.isLeaf])

/-- A schema without parts has no defaults within. -/
theorem fill_leaf
    {schema : Schema Value}
    (isLeaf : schema.isLeaf = true)
    (value : Value) :
    fill schema value = value := by
  cases schema with
  | array | object | union | custom => exact absurd isLeaf (by simp [Schema.isLeaf])
  | _ => rfl

theorem Instance.eq_null_of_isNull
    {accepted : Instance}
    (isNull : accepted.isNull = true) :
    accepted = .value .null := by
  unfold Instance.isNull at isNull
  split at isNull
  · rfl
  · contradiction

theorem forall_isUnionFree
    {fields : List (String × Schema Value)}
    (free : areUnionFree fields = true) :
    ∀ field ∈ fields, field.2.isUnionFree = true := by
  induction fields with
  | nil => simp
  | cons field fields inductionHypothesis =>
      obtain ⟨first, rest⟩ := Bool.and_eq_true_iff.mp free
      exact List.forall_mem_cons.mpr ⟨first, inductionHypothesis rest⟩

/-- Nothing is filled into null. -/
theorem fill_null : (schema : Schema Value) → fill schema .null = .null
  | .custom _ _ inner => fill_null inner
  | .any .. | .string .. | .number .. | .boolean .. | .literal .. | .enumeration ..
  | .array .. | .object .. | .union .. => rfl

/-- Without unions, null is dumped as null. -/
theorem dump_null :
    (schema : Schema Value) → schema.isUnionFree = true → (way : List Nat) →
      dump .assured way schema (.value .null) = some .null
  | .custom traits name inner, free, way => by
      unfold dump
      split
      · rfl
      · exact dump_null inner free way
  | .any .., _, way | .string .., _, way | .boolean .., _, way | .literal .., _, way
  | .enumeration .., _, way | .array .., _, way | .object .., _, way => by
      unfold dump
      split <;> rfl
  | .number traits integer coerce, _, way => by
      unfold dump
      cases integer <;> split <;> rfl

/-- A schema without parts accepts null as null only. -/
theorem eq_null_of_validate_leaf
    {schema : Schema Value}
    (isLeaf : schema.isLeaf = true)
    {accepted : Instance}
    {fit : Fit}
    (validated : validate [] schema {} .null = .ok (accepted, fit)) :
    accepted = .value .null := by
  have member : ∀ {values : List Value},
      acceptMember {} (findMember values .null) = .ok (accepted, fit) →
        accepted = .value .null := by
    intro values taken
    cases found : findMember values .null with
    | error violation => simp [found, acceptMember] at taken
    | ok value =>
        rw [found] at taken
        obtain ⟨rfl, -⟩ := Prod.mk.inj (Except.ok.inj taken)
        rw [eq_null_of_findMember found]
  cases given : schema.takesNull .null with
  | true =>
      rw [validate_of_takesNull given] at validated
      exact (Prod.mk.inj (Except.ok.inj validated)).1.symm
  | false =>
      cases schema with
      | any =>
          rw [validate_any given] at validated
          exact (Prod.mk.inj (Except.ok.inj validated)).1.symm
      | string traits coerce =>
          rw [validate_string given] at validated
          cases coerce <;> simp [coerceText, readText, acceptScalar] at validated
      | number traits integer =>
          cases integer with
          | true =>
              rw [validate_integer given] at validated
              simp [readInteger, acceptScalar] at validated
          | false =>
              rw [validate_number given] at validated
              simp [readNumber, acceptScalar] at validated
      | boolean =>
          rw [validate_boolean given] at validated
          simp [readBoolean, acceptScalar] at validated
      | literal =>
          rw [validate_literal given] at validated
          exact member validated
      | enumeration =>
          rw [validate_enumeration given] at validated
          exact member validated
      | _ => exact absurd isLeaf (by simp [Schema.isLeaf])

/-- Null is passed on as null. -/
theorem PassesOn.eq_null
    {schema : Schema Value}
    {output : Value} :
    PassesOn schema .null output → output = .null
  | .null _ => rfl
  | .leaf isLeaf validated dumped => by
      obtain rfl := eq_null_of_validate_leaf isLeaf validated
      have free : schema.isUnionFree = true := by
        cases schema <;> first | rfl | exact absurd isLeaf (by simp [Schema.isLeaf])
      exact Option.some.inj (dumped.symm.trans (dump_null schema free []))
  | .custom passed => passed.eq_null

/-- Whatever a schema accepts it dumps, and with defaults that is what it passes on. -/
def PassesOnAccepted (schema : Schema Value) : Prop :=
  ∀ way fit value accepted after, validate way schema fit value = .ok (accepted, after) →
    ∃ dumped, dump .assured way schema accepted = some dumped ∧
      PassesOn schema value (fill schema dumped)

section Records

variable {way : List Nat} {entries : List (String × Value)} {position : Nat}
variable {fields : List (String × Schema Value)} {parts : List (String × Instance)}

theorem passesOnAccepted_leaf
    {schema : Schema Value}
    (isLeaf : schema.isLeaf = true) :
    schema.PassesOnAccepted := by
  intro way fit value accepted after validated
  obtain ⟨found, other, rfl, alone⟩ := validate_leaf isLeaf validated
  obtain ⟨dumped, there, here⟩ := exists_dump_leaf isLeaf way (.value found)
  refine ⟨dumped, there, ?_⟩
  rw [fill_leaf isLeaf]
  exact .leaf isLeaf alone here

/-- A schema accepts null by itself, or a value in the way of its kind. -/
theorem passesOnAccepted_of_given
    {schema : Schema Value}
    (otherwise : ∀ way fit value accepted after, schema.takesNull value = false →
      validate way schema fit value = .ok (accepted, after) →
        ∃ dumped, dump .assured way schema accepted = some dumped ∧
          PassesOn schema value (fill schema dumped)) :
    schema.PassesOnAccepted := by
  intro way fit value accepted after validated
  cases given : schema.takesNull value with
  | false => exact otherwise way fit value accepted after given validated
  | true =>
      rw [validate_of_takesNull given] at validated
      obtain ⟨rfl, -⟩ := Prod.mk.inj (Except.ok.inj validated)
      obtain ⟨allowed, rfl⟩ := takesNull_iff.mp given
      refine ⟨.null, dump_of_takesNull given .assured way, ?_⟩
      rw [fill_null]
      exact .null allowed

/-- The dump of a record has the fields that are sent. -/
theorem exists_dumpFields
    (taken : TakesFields way entries position fields parts)
    (distinct : (fields.map Prod.fst).Nodup)
    (passesOn : ∀ field ∈ fields, field.2.PassesOnAccepted) :
    ∃ dumped, dumpFields .assured way position fields parts = some dumped ∧
      dumped.map Prod.fst = sentKeys fields entries ∧
      ∀ key field value, (key, field) ∈ fields → entries.lookup key = some value →
        ∃ output, dumped.lookup key = some output ∧ PassesOn field value (fill field output) := by
  induction taken with
  | nil => exact ⟨[], rfl, rfl, by simp⟩
  | @sent position key field value fit after accepted fields parts present validated rest
      inductionHypothesis =>
      obtain ⟨undeclared, others⟩ := List.nodup_cons.mp distinct
      obtain ⟨first, rest⟩ := List.forall_mem_cons.mp passesOn
      obtain ⟨output, dumped, passed⟩ := first _ _ _ _ _ validated
      obtain ⟨outputs, dumpedRest, keys, sent⟩ := inductionHypothesis others rest
      refine ⟨(key, output) :: outputs, ?_, ?_, ?_⟩
      · rw [dumpFields, List.lookup_cons_self, dumpFields_cons undeclared, dumpedRest]
        simp only [dumped, consDump]
      · simp [sentKeys, present, keys]
      · intro other field' value' declared found
        obtain same | later := List.mem_cons.mp declared
        · obtain ⟨rfl, rfl⟩ := Prod.mk.inj same
          obtain rfl := Option.some.inj (present.symm.trans found)
          exact ⟨output, List.lookup_cons_self, passed⟩
        · have different : (other == key) = false := by
            simpa using ne_of_mem_of_not_mem (List.mem_map_of_mem later) undeclared
          rw [List.lookup_cons, different]
          exact sent other field' value' later found
  | @absent position key field fields parts absent optional rest inductionHypothesis =>
      obtain ⟨undeclared, others⟩ := List.nodup_cons.mp distinct
      obtain ⟨outputs, dumpedRest, keys, sent⟩ :=
        inductionHypothesis others (List.forall_mem_cons.mp passesOn).2
      refine ⟨outputs, ?_, ?_, ?_⟩
      · rw [dumpFields, rest.lookup_eq_none undeclared]
        exact dumpedRest
      · simp [sentKeys, absent, keys]
      · intro other field' value' declared found
        obtain same | later := List.mem_cons.mp declared
        · obtain ⟨rfl, rfl⟩ := Prod.mk.inj same
          exact absurd (absent.symm.trans found) (by simp)
        · exact sent other field' value' later found

/-- The accepted fields of a record are passed on, with the defaults of the others. -/
theorem passesOn_fillFields
    {traits : Traits Value}
    (taken : TakesFields way entries 0 fields parts)
    (distinct : (fields.map Prod.fst).Nodup)
    (wellFormed : ∀ field ∈ fields, field.2.WellFormed)
    (passesOn : ∀ field ∈ fields, field.2.PassesOnAccepted) :
    ∃ dumped, dumpFields .assured way 0 fields parts = some dumped ∧
      PassesOn (.object traits fields) (.record entries) (.record (fillFields fields dumped)) := by
  obtain ⟨dumped, dumps, keys, sent⟩ := exists_dumpFields taken distinct passesOn
  have absent : ∀ key, entries.lookup key = none → dumped.lookup key = none := by
    intro key missing
    rw [← Option.not_isSome_iff_eq_none, isSome_lookup_iff, keys, sentKeys, List.mem_map]
    rintro ⟨field, listed, rfl⟩
    have present := (List.mem_filter.mp listed).2
    rw [missing] at present
    contradiction
  have filled : filledKeys fields dumped = filledKeys fields entries := by
    refine congrArg (List.map Prod.fst) (List.filter_congr fun field listed => ?_)
    cases present : entries.lookup field.1 with
    | none => rw [absent field.1 present]
    | some value =>
        obtain ⟨output, found, -⟩ := sent field.1 field.2 value listed present
        rw [found]
        rfl
  refine ⟨dumped, dumps, .record ?_ ?_ ?_ ?_⟩
  · rw [keys_fillFields distinct, keys, filled]
  · intro key field value output declared present found
    obtain ⟨dump, there, passed⟩ := sent key field value declared present
    rw [lookup_fillFields distinct declared, there, Option.some_or, Option.map_some] at found
    rwa [← Option.some.inj found]
  · intro key listed present
    obtain ⟨⟨key, field⟩, declared, rfl⟩ := List.mem_map.mp listed
    obtain ⟨dump, there, passed⟩ := sent key field .null declared present
    rw [lookup_fillFields distinct declared, there, Option.some_or, Option.map_some,
      passed.eq_null]
  · intro key field default output declared missing given found
    rw [lookup_fillFields distinct declared, absent key missing, given, Option.none_or,
      Option.map_some] at found
    rw [← Option.some.inj found]
    exact completes_fill (wellFormed (key, field) declared) default

end Records

/-- The accepted items of a list are passed on, in their order. -/
theorem exists_dumpItems
    {item : Schema Value}
    (passesOn : item.PassesOnAccepted)
    {way : List Nat}
    {values : List Value}
    {parts : List Instance}
    (accepted : List.Forall₂
      (fun value part => ∃ before after, validate way item before value = .ok (part, after))
      values parts) :
    ∃ outputs, Instance.dumpItems (dump .assured way item) parts = some outputs ∧
      outputs.length = values.length ∧
      ∀ (position : Nat) (value output : Value),
        values[position]? = some value → outputs[position]? = some output →
          PassesOn item value (fill item output) := by
  induction accepted with
  | nil => exact ⟨[], rfl, rfl, by simp⟩
  | @cons value part values parts validated rest inductionHypothesis =>
      obtain ⟨before, after, validated⟩ := validated
      obtain ⟨output, dumped, passed⟩ := passesOn _ _ _ _ _ validated
      obtain ⟨outputs, dumpedRest, length, items⟩ := inductionHypothesis
      refine ⟨output :: outputs, ?_, by simp [length], ?_⟩
      · rw [Instance.dumpItems, dumped, dumpedRest]
      · intro position other found there here
        cases position with
        | zero =>
            obtain rfl := Option.some.inj there
            obtain rfl := Option.some.inj here
            exact passed
        | succ position => exact items position other found there here

/-- What a well-formed schema without unions accepts it passes on, field by field. -/
theorem passesOnAccepted_of_wellFormed
    {schema : Schema Value}
    (wellFormed : schema.WellFormed)
    (free : schema.isUnionFree = true) :
    schema.PassesOnAccepted := by
  induction wellFormed with
  | any | string | number | boolean | literal | enumeration => exact passesOnAccepted_leaf rfl
  | @array traits item _ _ inductionHypothesis =>
      refine passesOnAccepted_of_given fun way fit value accepted after given validated => ?_
      by_cases isList : ∃ values, value = .list values
      · obtain ⟨values, rfl⟩ := isList
        rw [validate_list] at validated
        obtain ⟨parts, middle, collected, built⟩ := assemble_eq_ok_iff.mp validated
        have items := forall₂_of_collectItems (fun _ _ _ => issues_ne_nil_of_refused) collected
        obtain ⟨outputs, dumped, length, passed⟩ :=
          exists_dumpItems (inductionHypothesis free) items
        obtain rfl := eq_list_of_buildList built
        refine ⟨.list outputs, ?_, .list ?_ ?_⟩
        · rw [dump_list, dumped, Option.map_some]
        · rw [List.length_map, length]
        · intro position value output there here
          rw [List.getElem?_map, Option.map_eq_some_iff] at here
          obtain ⟨dumped, found, rfl⟩ := here
          exact passed position value dumped there found
      · rw [validate_array_of_ne_list given (not_exists.mp isList)] at validated
        exact absurd validated (by simp)
  | @object traits fields _ distinct wellFormed inductionHypothesis =>
      have each := forall_isUnionFree free
      refine passesOnAccepted_of_given fun way fit value accepted after given validated => ?_
      by_cases isRecord : ∃ entries, value = .record entries
      · obtain ⟨entries, rfl⟩ := isRecord
        rw [validate_record] at validated
        obtain ⟨parts, middle, collected, built⟩ := assemble_eq_ok_iff.mp validated
        have taken := takesFields_of_validateFields collected
        obtain ⟨dumped, dumps, passed⟩ := passesOn_fillFields taken distinct wellFormed
          fun field listed => inductionHypothesis field listed (each field listed)
        obtain ⟨rfl, -⟩ := Prod.mk.inj (Except.ok.inj built)
        refine ⟨.record dumped, ?_, passed⟩
        rw [dump_record, dumps, Option.map_some]
      · rw [validate_object_of_ne_record given (not_exists.mp isRecord)] at validated
        exact absurd validated (by simp)
  | union => exact absurd free (by simp [isUnionFree])
  | @custom traits name inner _ _ inductionHypothesis =>
      refine passesOnAccepted_of_given fun way fit value accepted after given validated => ?_
      rw [validate_custom given] at validated
      obtain ⟨dumped, dumps, passed⟩ := inductionHypothesis free way fit value accepted after
        validated
      refine ⟨dumped, ?_, .custom passed⟩
      unfold dump
      split
      · next absent =>
          obtain rfl := Instance.eq_null_of_isNull (Bool.and_eq_true_iff.mp absent).2
          rw [← dumps, dump_null inner free]
      · exact dumps

/-- A model passes on the dump of its accepted parts, with defaults. -/
theorem exists_of_validateModel
    {model : String}
    {fields : List (String × Schema Value)}
    {value output : Value}
    (validated : validateModel model fields value = .ok output) :
    ∃ entries parts, value = .record entries ∧ TakesFields [] entries 0 fields parts ∧
      output = .record (fillFields fields ((dumpFields .assured [] 0 fields parts).getD [])) := by
  cases value with
  | record entries =>
      rw [validateModel_record, validate_record] at validated
      split at validated
      · next accepted fit assembled =>
          obtain ⟨parts, last, collected, built⟩ := assemble_eq_ok_iff.mp assembled
          obtain rfl := Except.ok.inj validated
          obtain ⟨rfl, -⟩ := Prod.mk.inj (Except.ok.inj built)
          exact ⟨entries, parts, rfl, takesFields_of_validateFields collected, rfl⟩
      · exact absurd validated (by simp)
  | _ => exact absurd validated (by simp [validateModel])

end Schema

namespace Request

open Documentation (ParamDirective)

/--
In a compiled section without unions, each record that is accepted is passed on with exactly
the declared keys that are sent and the defaults of those that are left out, at every depth.
-/
theorem passesOn_of_validate
    {procedure : String}
    {scope : Expression.Scope}
    {directives : List ParamDirective}
    {schema : RequestSchema}
    (registered : scope.validators.WellFormed)
    (compiled : compileSchema procedure scope directives = .ok schema)
    {place : Section}
    {fields : Fields}
    (carried : schema.fields? place = some fields)
    (free : Schema.areUnionFree fields = true)
    {raw output : Value}
    (accepted : schema.validate place raw = .ok output) :
    Schema.PassesOn (.object {} fields) raw output := by
  obtain ⟨distinct, wellFormed⟩ := wellFormed_of_compileSchema registered compiled carried
  rw [validate_of_fields? carried] at accepted
  obtain ⟨entries, parts, rfl, taken, rfl⟩ := Schema.exists_of_validateModel accepted
  obtain ⟨dumped, dumps, passed⟩ := Schema.passesOn_fillFields taken distinct wellFormed
    fun field listed => Schema.passesOnAccepted_of_wellFormed (wellFormed field listed)
      (Schema.forall_isUnionFree free field listed)
  rwa [dumps, Option.getD_some]

/-- A list of records, each with an optional note and a place with a default of its own. -/
def visits : ParamDirective where
  name := "visits"
  key := "visits"
  source := "body"
  expression := "z.array(z.object(\x7bnote: z.string().optional()\x7d)" ++
    ".extend(\x7bplace: z.object(\x7bfloor: z.number().default(0)\x7d).default(\x7b\x7d)\x7d))"

/-- Two visits, one of them with a key that is not declared. -/
def twoVisits : Value :=
  .record [("visits", .list [
    .record [("note", .text "late"), ("other", .null)],
    .record [("place", .record [])]])]

theorem passesOn_of_validate_visits :
    ∃ schema fields output, compileSchema "p" .empty [visits] = .ok schema ∧
      schema.fields? .body = some fields ∧ schema.validate .body twoVisits = .ok output ∧
      Schema.PassesOn (.object {} fields) twoVisits output := by
  have observed : (compileSchema "p" .empty [visits]).toOption.map (fun schema =>
      ((schema.fields? .body).map Schema.areUnionFree,
        (schema.validate .body twoVisits).toOption.map fun _ => ())) =
      some (some true, some ()) := by
    decide +kernel
  obtain ⟨schema, compiled, same⟩ := exists_ok_of_toOption_map observed
  obtain ⟨carried, validated⟩ := Prod.mk.inj same
  obtain ⟨fields, carried, free⟩ := Option.map_eq_some_iff.mp carried
  obtain ⟨output, accepted, -⟩ := exists_ok_of_toOption_map validated
  exact ⟨schema, fields, output, compiled, carried, accepted,
    passesOn_of_validate Expression.Validators.wellFormed_empty compiled carried free accepted⟩

end Request
end RoutineGate
