import Mathlib.Data.List.Nodup
import RoutineGate.Proofs.Schema.Filling

/-!
# Filling in defaults again

Defaults are filled in below each other, and defaults are filled in themselves.  What comes of it
is complete: filling in once more changes nothing.  It only adds keys to records, and the order of
the fields decides no more than the order of the added keys.
-/

namespace RoutineGate

namespace Value

/-- A value with keys added to the records in it, each of them at the end. -/
inductive Extends : Value → Value → Prop
  | same (value : Value) : Extends value value
  | list {given outputs : List Value}
      (length : outputs.length = given.length)
      (items : ∀ (position : Nat) (value output : Value),
        given[position]? = some value → outputs[position]? = some output → Extends value output) :
      Extends (.list given) (.list outputs)
  | record {given outputs : List (String × Value)}
      (keys : given.map Prod.fst <+: outputs.map Prod.fst)
      (entries : ∀ key value output,
        given.lookup key = some value → outputs.lookup key = some output → Extends value output) :
      Extends (.record given) (.record outputs)

/-- Values that differ in the order of the keys of records only. -/
inductive SameUpToOrder : Value → Value → Prop
  | same (value : Value) : SameUpToOrder value value
  | list {items others : List Value}
      (length : others.length = items.length)
      (each : ∀ (position : Nat) (item other : Value),
        items[position]? = some item → others[position]? = some other →
        SameUpToOrder item other) :
      SameUpToOrder (.list items) (.list others)
  | record {entries others : List (String × Value)}
      (keys : (others.map Prod.fst).Perm (entries.map Prod.fst))
      (each : ∀ key value other,
        entries.lookup key = some value → others.lookup key = some other →
        SameUpToOrder value other) :
      SameUpToOrder (.record entries) (.record others)

/-- Setting what is there already changes nothing. -/
theorem put_of_lookup
    {Datum : Type}
    {key : String}
    {datum : Datum}
    {entries : List (String × Datum)}
    (found : entries.lookup key = some datum) :
    put key datum entries = entries := by
  induction entries with
  | nil => exact absurd found (by simp)
  | cons entry entries inductionHypothesis =>
      obtain ⟨other, old⟩ := entry
      rw [put]
      by_cases same : other = key
      · subst same
        rw [List.lookup_cons_self] at found
        rw [if_pos rfl, Option.some.inj found]
      · have apart : (key == other) = false := by simpa using Ne.symm same
        rw [List.lookup_cons, apart] at found
        rw [if_neg same, inductionHypothesis found]

end Value

namespace Schema

/-- No record in which defaults are filled in has two fields with one key. -/
inductive HasDistinctKeys : Schema Value → Prop
  | leaf {schema : Schema Value}
      (isLeaf : schema.isLeaf = true) :
      HasDistinctKeys schema
  | array {traits : Traits Value} {item : Schema Value}
      (distinct : HasDistinctKeys item) :
      HasDistinctKeys (.array traits item)
  | object {traits : Traits Value} {fields : List (String × Schema Value)}
      (keys : (fields.map Prod.fst).Nodup)
      (distinct : ∀ field ∈ fields, HasDistinctKeys field.2) :
      HasDistinctKeys (.object traits fields)
  | union {traits : Traits Value} {options : List (Schema Value)} :
      HasDistinctKeys (.union traits options)
  | custom {traits : Traits Value} {name : String} {inner : Schema Value}
      (distinct : HasDistinctKeys inner) :
      HasDistinctKeys (.custom traits name inner)

/-- Schemas that differ in the order of the fields of records only. -/
inductive Reorders : Schema Value → Schema Value → Prop
  | same (schema : Schema Value) : Reorders schema schema
  | array {traits : Traits Value} {item other : Schema Value}
      (reorders : Reorders item other) :
      Reorders (.array traits item) (.array traits other)
  | object {traits : Traits Value} {fields others : List (String × Schema Value)}
      (keys : (others.map Prod.fst).Perm (fields.map Prod.fst))
      (reorders : ∀ key field other, (key, field) ∈ fields → (key, other) ∈ others →
        Reorders field other) :
      Reorders (.object traits fields) (.object traits others)
  | custom {traits : Traits Value} {name : String} {inner other : Schema Value}
      (reorders : Reorders inner other) :
      Reorders (.custom traits name inner) (.custom traits name other)

theorem WellFormed.hasDistinctKeys
    {schema : Schema Value}
    (wellFormed : schema.WellFormed) :
    schema.HasDistinctKeys := by
  induction wellFormed with
  | any | string | number | boolean | literal | enumeration => exact .leaf rfl
  | array _ _ inductionHypothesis => exact .array inductionHypothesis
  | object _ keys _ inductionHypothesis => exact .object keys inductionHypothesis
  | union => exact .union
  | custom _ _ inductionHypothesis => exact .custom inductionHypothesis

theorem exists_field
    {fields : List (String × Schema Value)}
    {key : String}
    (declared : key ∈ fields.map Prod.fst) :
    ∃ field, (key, field) ∈ fields := by
  obtain ⟨⟨_, field⟩, listed, rfl⟩ := List.mem_map.mp declared
  exact ⟨field, listed⟩

/-! ## Filling in twice -/

/-- Entries that each field leaves as they are stay so. -/
theorem fillFields_eq_self
    {fields : List (String × Schema Value)}
    {entries : List (String × Value)}
    (filled : ∀ field ∈ fields, fillField field.1 field.2 entries = entries) :
    fillFields fields entries = entries := by
  induction fields with
  | nil => rw [fillFields]
  | cons first fields inductionHypothesis =>
      obtain ⟨kept, others⟩ := List.forall_mem_cons.mp filled
      rw [fillFields_cons, kept, inductionHypothesis others]

/-- Filled in entries are left as they are by each field that fills nothing in twice. -/
theorem fillFields_fillFields
    {fields : List (String × Schema Value)}
    (keys : (fields.map Prod.fst).Nodup)
    (stable : ∀ field ∈ fields, ∀ value, fill field.2 (fill field.2 value) = fill field.2 value)
    (entries : List (String × Value)) :
    fillFields fields (fillFields fields entries) = fillFields fields entries := by
  refine fillFields_eq_self fun ⟨key, field⟩ declared => ?_
  have found : (fillFields fields entries).lookup key = _ := lookup_fillFields keys declared
  rw [fillField]
  cases given : (entries.lookup key).or field.effectiveDefault with
  | none =>
      obtain ⟨-, noDefault⟩ := Option.or_eq_none_iff.mp given
      rw [found, given, noDefault, Option.map_none, Option.or_none]
  | some value =>
      rw [given, Option.map_some] at found
      simp only [found, Option.some_or, stable (key, field) declared value]
      exact Value.put_of_lookup found

/-- Filling in defaults once more changes nothing. -/
theorem fill_fill
    {schema : Schema Value}
    (distinct : schema.HasDistinctKeys)
    (value : Value) :
    fill schema (fill schema value) = fill schema value := by
  induction distinct generalizing value with
  | leaf isLeaf => rw [fill_leaf isLeaf, fill_leaf isLeaf]
  | array _ inductionHypothesis =>
      cases value with
      | list items =>
          simp only [fill, List.map_map]
          exact congrArg Value.list (List.map_congr_left fun item _ => inductionHypothesis item)
      | _ => rfl
  | object keys _ inductionHypothesis =>
      cases value with
      | record entries =>
          simp only [fill, fillFields_fillFields keys inductionHypothesis]
      | _ => rfl
  | union => rfl
  | custom _ inductionHypothesis => exact inductionHypothesis value

/-! ## What is added -/

/-- Filling in defaults only adds keys to records. -/
theorem extends_fill
    {schema : Schema Value}
    (distinct : schema.HasDistinctKeys)
    (value : Value) :
    value.Extends (fill schema value) := by
  induction distinct generalizing value with
  | leaf isLeaf =>
      rw [fill_leaf isLeaf]
      exact .same value
  | array _ inductionHypothesis =>
      cases value with
      | list items =>
          refine .list (List.length_map _) fun position value output found filled => ?_
          rw [List.getElem?_map, found, Option.map_some] at filled
          rw [← Option.some.inj filled]
          exact inductionHypothesis value
      | _ => exact .same _
  | @object traits fields keys _ inductionHypothesis =>
      cases value with
      | record entries =>
          refine .record (by simp [keys_fillFields keys]) fun key value output found filled => ?_
          by_cases declared : key ∈ fields.map Prod.fst
          · obtain ⟨field, listed⟩ := exists_field declared
            rw [lookup_fillFields keys listed, found, Option.some_or, Option.map_some] at filled
            rw [← Option.some.inj filled]
            exact inductionHypothesis (key, field) listed value
          · rw [lookup_fillFields_of_not_mem declared, found] at filled
            rw [← Option.some.inj filled]
            exact .same value
      | _ => exact .same _
  | union => exact .same value
  | custom _ inductionHypothesis => exact inductionHypothesis value

/-! ## The order of fields -/

theorem Reorders.effectiveDefault_eq
    {schema other : Schema Value}
    (reorders : schema.Reorders other) :
    other.effectiveDefault = schema.effectiveDefault := by
  induction reorders with
  | same => rfl
  | array => rfl
  | object => rfl
  | custom _ inductionHypothesis => rw [effectiveDefault, effectiveDefault, inductionHypothesis]

theorem mem_filledKeys_iff
    {fields : List (String × Schema Value)}
    {entries : List (String × Value)}
    {key : String} :
    key ∈ filledKeys fields entries ↔
      entries.lookup key = none ∧
        ∃ field, (key, field) ∈ fields ∧ field.effectiveDefault.isSome = true := by
  rw [filledKeys, List.mem_map]
  simp only [List.mem_filter, Bool.and_eq_true, Option.isNone_iff_eq_none]
  constructor
  · rintro ⟨⟨key, field⟩, ⟨declared, absent, given⟩, rfl⟩
    exact ⟨absent, field, declared, given⟩
  · rintro ⟨absent, field, declared, given⟩
    exact ⟨(key, field), ⟨declared, absent, given⟩, rfl⟩

theorem nodup_filledKeys
    {fields : List (String × Schema Value)}
    (keys : (fields.map Prod.fst).Nodup)
    (entries : List (String × Value)) :
    (filledKeys fields entries).Nodup :=
  keys.sublist (List.filter_sublist.map Prod.fst)

section Reordered

variable {fields others : List (String × Schema Value)}

/-- Of two fields with one key, one has a default exactly if the other has. -/
theorem mem_filledKeys_of_reordered
    (permuted : (others.map Prod.fst).Perm (fields.map Prod.fst))
    (defaults : ∀ key field other, (key, field) ∈ fields → (key, other) ∈ others →
      other.effectiveDefault = field.effectiveDefault)
    {entries : List (String × Value)}
    {key : String}
    (filled : key ∈ filledKeys others entries) :
    key ∈ filledKeys fields entries := by
  obtain ⟨absent, other, listed, given⟩ := mem_filledKeys_iff.mp filled
  obtain ⟨field, declared⟩ := exists_field (permuted.mem_iff.mp (List.mem_map_of_mem listed))
  rw [defaults key field other declared listed] at given
  exact mem_filledKeys_iff.mpr ⟨absent, field, declared, given⟩

theorem filledKeys_perm
    (keys : (fields.map Prod.fst).Nodup)
    (permuted : (others.map Prod.fst).Perm (fields.map Prod.fst))
    (defaults : ∀ key field other, (key, field) ∈ fields → (key, other) ∈ others →
      other.effectiveDefault = field.effectiveDefault)
    (entries : List (String × Value)) :
    (filledKeys others entries).Perm (filledKeys fields entries) := by
  have otherKeys : (others.map Prod.fst).Nodup := permuted.nodup_iff.mpr keys
  refine (List.perm_ext_iff_of_nodup (nodup_filledKeys otherKeys entries)
    (nodup_filledKeys keys entries)).mpr fun key => ⟨?_, ?_⟩
  · exact mem_filledKeys_of_reordered permuted defaults
  · exact mem_filledKeys_of_reordered permuted.symm fun key other field listed declared =>
      (defaults key field other declared listed).symm

/-- Records that are filled in by reordered fields are the same, up to the order of their keys. -/
theorem sameUpToOrder_fillFields
    (keys : (fields.map Prod.fst).Nodup)
    (permuted : (others.map Prod.fst).Perm (fields.map Prod.fst))
    (reorders : ∀ key field other, (key, field) ∈ fields → (key, other) ∈ others →
      field.Reorders other)
    (each : ∀ key field other, (key, field) ∈ fields → (key, other) ∈ others →
      ∀ value, (fill field value).SameUpToOrder (fill other value))
    (entries : List (String × Value)) :
    (Value.record (fillFields fields entries)).SameUpToOrder
      (.record (fillFields others entries)) := by
  have otherKeys : (others.map Prod.fst).Nodup := permuted.nodup_iff.mpr keys
  have defaults := fun key field other declared listed =>
    (reorders key field other declared listed).effectiveDefault_eq
  refine .record ?_ fun key left right found there => ?_
  · rw [keys_fillFields keys, keys_fillFields otherKeys]
    exact (filledKeys_perm keys permuted defaults entries).append_left _
  · by_cases declared : key ∈ fields.map Prod.fst
    · obtain ⟨other, listed⟩ := exists_field (permuted.mem_iff.mpr declared)
      obtain ⟨field, declared⟩ := exists_field declared
      rw [lookup_fillFields keys declared, Option.map_eq_some_iff] at found
      rw [lookup_fillFields otherKeys listed, defaults key field other declared listed,
        Option.map_eq_some_iff] at there
      obtain ⟨value, found, rfl⟩ := found
      obtain ⟨_, there, rfl⟩ := there
      obtain rfl := Option.some.inj (found.symm.trans there)
      exact each key field other declared listed value
    · have undeclared : key ∉ others.map Prod.fst := mt permuted.mem_iff.mp declared
      rw [lookup_fillFields_of_not_mem declared] at found
      rw [lookup_fillFields_of_not_mem undeclared, found] at there
      rw [Option.some.inj there]
      exact .same right

end Reordered

/-- The order of fields decides no more than the order of the keys that are added. -/
theorem sameUpToOrder_fill
    {schema : Schema Value}
    (distinct : schema.HasDistinctKeys)
    {other : Schema Value}
    (reorders : schema.Reorders other)
    (value : Value) :
    (fill schema value).SameUpToOrder (fill other value) := by
  induction reorders generalizing value with
  | same => exact .same _
  | array _ inductionHypothesis =>
      cases distinct with
      | leaf isLeaf => exact absurd isLeaf (by simp [Schema.isLeaf])
      | array distinct =>
          cases value with
          | list items =>
              refine .list (by simp) fun position left right found there => ?_
              simp only [List.getElem?_map, Option.map_eq_some_iff] at found there
              obtain ⟨item, found, rfl⟩ := found
              obtain ⟨_, there, rfl⟩ := there
              obtain rfl := Option.some.inj (found.symm.trans there)
              exact inductionHypothesis distinct item
          | _ => exact .same _
  | @object traits fields others permuted reorders inductionHypothesis =>
      cases distinct with
      | leaf isLeaf => exact absurd isLeaf (by simp [Schema.isLeaf])
      | object keys distinct =>
          cases value with
          | record entries =>
              exact sameUpToOrder_fillFields keys permuted reorders
                (fun key field other declared listed value =>
                  inductionHypothesis key field other declared listed
                    (distinct (key, field) declared) value) entries
          | _ => exact .same _
  | custom _ inductionHypothesis =>
      cases distinct with
      | leaf isLeaf => exact absurd isLeaf (by simp [Schema.isLeaf])
      | custom distinct => exact inductionHypothesis distinct value

/--
Defaults are filled in by one pass, which removes and changes nothing that is there and which does
not depend on the order of the fields.
-/
theorem stable_fill
    {schema : Schema Value}
    (distinct : schema.HasDistinctKeys)
    (value : Value) :
    fill schema (fill schema value) = fill schema value ∧
      value.Extends (fill schema value) ∧
      ∀ other, schema.Reorders other → (fill schema value).SameUpToOrder (fill other value) :=
  ⟨fill_fill distinct value, extends_fill distinct value,
    fun _ reorders => sameUpToOrder_fill distinct reorders value⟩

/-- A number of nights. -/
def nights : Schema Value := .number { default := some (.int 1) } true false

/-- A place that is registered, with a default that has one in turn. -/
def place : Schema Value :=
  .custom {} "Place" (.object { default := some (.record []) }
    [("floor", .number { default := some (.int 0) } true false)])

/-- Rooms, each with a place and a number of nights. -/
def rooms : Schema Value :=
  .array {} (.object {} [("nights", nights), ("place", place)])

/-- The same, with the place first. -/
def placedRooms : Schema Value :=
  .array {} (.object {} [("place", place), ("nights", nights)])

theorem hasDistinctKeys_rooms : rooms.HasDistinctKeys := by
  refine .array (.object (by decide) fun field listed => ?_)
  obtain rfl | rfl := List.mem_pair.mp listed
  · exact .leaf rfl
  · exact .custom (.object (by decide) fun field listed => List.mem_singleton.mp listed ▸ .leaf rfl)

theorem reorders_placedRooms : rooms.Reorders placedRooms := by
  refine .array (.object (.swap _ _ _) fun key field other declared listed => ?_)
  simp only [List.mem_cons, Prod.mk.injEq, List.not_mem_nil, or_false] at declared listed
  obtain ⟨rfl, rfl⟩ | ⟨rfl, rfl⟩ := declared <;> obtain ⟨same, rfl⟩ | ⟨same, rfl⟩ := listed
  · exact absurd same (by decide)
  · exact .same nights
  · exact .same place
  · exact absurd same (by decide)

theorem stable_fill_rooms :
    rooms.HasDistinctKeys ∧
      fill rooms (.list [.record [("beds", .int 2)]]) =
        .list [.record [("beds", .int 2), ("nights", .int 1),
          ("place", .record [("floor", .int 0)])]] ∧
      fill rooms (fill rooms (.list [.record [("beds", .int 2)]])) =
        fill rooms (.list [.record [("beds", .int 2)]]) ∧
      (fill rooms (.list [.record [("beds", .int 2)]])).SameUpToOrder
        (fill placedRooms (.list [.record [("beds", .int 2)]])) := by
  obtain ⟨again, -, reordered⟩ :=
    stable_fill hasDistinctKeys_rooms (.list [.record [("beds", .int 2)]])
  exact ⟨hasDistinctKeys_rooms, rfl, again, reordered placedRooms reorders_placedRooms⟩

end Schema

namespace Request

open Documentation (ParamDirective)

/-- What a compiled section passes on has all its defaults, those within alternatives apart. -/
theorem fill_of_validate
    {procedure : String}
    {scope : Expression.Scope}
    {directives : List ParamDirective}
    {schema : RequestSchema}
    (registered : scope.validators.WellFormed)
    (compiled : compileSchema procedure scope directives = .ok schema)
    {place : Section}
    {fields : Fields}
    (carried : schema.fields? place = some fields)
    {raw output : Value}
    (accepted : schema.validate place raw = .ok output) :
    Schema.fill (.object {} fields) output = output := by
  obtain ⟨distinct, wellFormed⟩ := wellFormed_of_compileSchema registered compiled carried
  rw [validate_of_fields? carried] at accepted
  obtain ⟨entries, parts, rfl, taken, rfl⟩ := Schema.exists_of_validateModel accepted
  have keys : Schema.HasDistinctKeys (.object {} fields) :=
    .object distinct fun field listed => (wellFormed field listed).hasDistinctKeys
  exact Schema.fill_fill keys (.record _)

end Request
end RoutineGate
