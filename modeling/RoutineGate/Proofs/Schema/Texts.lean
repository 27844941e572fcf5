import RoutineGate.Proofs.Schema.Outputs

/-!
# Lists of texts

A list of texts without further conditions is accepted and passed on as it is, and a single text
is no such list.  What is passed on never depends on the schema of another field: a schema that
is known to match dumps every instance.
-/

namespace RoutineGate
namespace Schema

/-! ## Dumps of what is known to match -/

/-- Of the options of a union only ones that are there are kept. -/
theorem exists_getElem?_of_mem_distinctPositions
    {seen : List Shape}
    {position kept : Nat}
    {options : List (Schema Value)}
    (listed : kept ∈ distinctPositions seen position options) :
    ∃ index option, kept = position + index ∧ options[index]? = some option := by
  induction options generalizing seen position with
  | nil => exact absurd listed List.not_mem_nil
  | cons option options inductionHypothesis =>
      have later {seen : List Shape}
          (listed : kept ∈ distinctPositions seen (position + 1) options) :
          ∃ index found, kept = position + index ∧ (option :: options)[index]? = some found := by
        obtain ⟨index, found, rfl, here⟩ := inductionHypothesis listed
        exact ⟨index + 1, found, Nat.add_right_comm .., here⟩
      have own : kept = position → ∃ index found, kept = position + index ∧
          (option :: options)[index]? = some found :=
        fun same => ⟨0, option, same, rfl⟩
      rw [distinctPositions] at listed
      split at listed
      · split at listed
        · exact later listed
        · exact (List.mem_cons.mp listed).elim own later
      · exact (List.mem_cons.mp listed).elim own later

/-- All items are dumped if each of them is. -/
theorem exists_dumpItems_of_forall
    {dumpItem : Instance → Option Value}
    (each : ∀ item, ∃ output, dumpItem item = some output)
    (items : List Instance) :
    ∃ outputs, Instance.dumpItems dumpItem items = some outputs := by
  induction items with
  | nil => exact ⟨[], rfl⟩
  | cons item items inductionHypothesis =>
      obtain ⟨output, here⟩ := each item
      obtain ⟨outputs, rest⟩ := inductionHypothesis
      exact ⟨output :: outputs, by rw [Instance.dumpItems, here, rest]⟩

theorem exists_dump_of_isLeaf
    {schema : Schema Value}
    (isLeaf : schema.isLeaf = true)
    (way : List Nat)
    (accepted : Instance) :
    ∃ output, dump .assured way schema accepted = some output := by
  obtain ⟨output, dumped, -⟩ := exists_dump_leaf isLeaf way accepted
  exact ⟨output, dumped⟩

mutual

/-- A schema that is known to match dumps every instance. -/
theorem exists_dump :
    (schema : Schema Value) → (way : List Nat) → (accepted : Instance) →
      ∃ output, dump .assured way schema accepted = some output
  | .array traits item, way, accepted => by
      unfold dump
      split
      · exact ⟨_, rfl⟩
      · cases accepted with
        | list items =>
            obtain ⟨outputs, dumped⟩ :=
              exists_dumpItems_of_forall (exists_dump item (0 :: way)) items
            exact ⟨.list outputs, congrArg (Option.map Value.list) dumped⟩
        | _ => exact ⟨_, rfl⟩
  | .object traits fields, way, accepted => by
      unfold dump
      split
      · exact ⟨_, rfl⟩
      · cases accepted with
        | record origin entries dumped =>
            obtain ⟨outputs, dumped⟩ := exists_dumpFields_assured fields way 0 entries
            dsimp only
            split
            · exact ⟨.record outputs, congrArg (Option.map Value.record) dumped⟩
            · exact ⟨_, rfl⟩
        | _ => exact ⟨_, rfl⟩
  | .union traits options, way, accepted => by
      unfold dump
      split
      · exact ⟨_, rfl⟩
      · dsimp only
        split
        · next single =>
            obtain ⟨kept, only⟩ := List.length_eq_one_iff.mp single
            have listed : kept ∈ alternatives options := only ▸ List.mem_singleton_self kept
            obtain ⟨index, option, rfl, here⟩ := exists_getElem?_of_mem_distinctPositions listed
            obtain ⟨output, dumped⟩ := exists_dump_of_mem options option
              (List.mem_of_getElem? here) ((0 + index) :: way) accepted
            exact exists_dumpFirst here listed dumped
        · have plain : accepted.unmatched .assured = some accepted.plain := if_pos rfl
          rw [plain, Option.or_some]
          exact ⟨_, rfl⟩
  | .custom traits name inner, way, accepted => by
      unfold dump
      split
      · exact ⟨_, rfl⟩
      · exact exists_dump inner way accepted
  | .any .., way, accepted | .string .., way, accepted | .number .., way, accepted
  | .boolean .., way, accepted | .literal .., way, accepted | .enumeration .., way, accepted =>
      exists_dump_of_isLeaf rfl way accepted

/-- Fields that are known to match dump all entries. -/
theorem exists_dumpFields_assured :
    (fields : List (String × Schema Value)) → (way : List Nat) → (position : Nat) →
      (entries : List (String × Instance)) →
        ∃ outputs, dumpFields .assured way position fields entries = some outputs
  | [], way, position, entries => ⟨[], rfl⟩
  | (key, field) :: fields, way, position, entries => by
      obtain ⟨outputs, rest⟩ := exists_dumpFields_assured fields way (position + 1) entries
      rw [dumpFields, rest]
      cases entries.lookup key with
      | none => exact ⟨outputs, rfl⟩
      | some accepted =>
          obtain ⟨output, here⟩ := exists_dump field (position :: way) accepted
          exact ⟨(key, output) :: outputs, by simp only [here, consDump]⟩

theorem exists_dump_of_mem :
    (options : List (Schema Value)) → (option : Schema Value) → option ∈ options →
      (way : List Nat) → (accepted : Instance) →
        ∃ output, dump .assured way option accepted = some output
  | [], option, listed, _, _ => absurd listed List.not_mem_nil
  | first :: options, option, listed, way, accepted => by
      obtain same | later := List.mem_cons.mp listed
      · rw [same]
        exact exists_dump first way accepted
      · exact exists_dump_of_mem options option later way accepted

end

/-! ## Texts -/

/-- A list of any texts. -/
def texts : Schema Value :=
  .array {} (.string {} false)

/-- A list with a text for each value. -/
def textList (values : List String) : Value :=
  .list (values.map .text)

/-- The instance of a list of texts. -/
def textParts (values : List String) : List Instance :=
  values.map fun value => .value (.text value)

theorem validate_text
    (way : List Nat)
    (fit : Fit)
    (value : String) :
    validate way (.string {} false) fit (.text value) =
      .ok (.value (.text value), fit.lower .exact) := by
  rw [validate_string rfl]
  rfl

theorem exists_collectItems_textList
    (way : List Nat)
    (position : Nat)
    (fit : Fit)
    (values : List String) :
    ∃ after, collectItems (validate way (.string {} false)) position fit (values.map .text) =
      .ok ⟨[], textParts values, after⟩ := by
  induction values generalizing position fit with
  | nil => exact ⟨fit, rfl⟩
  | cons value values inductionHypothesis =>
      obtain ⟨after, rest⟩ := inductionHypothesis (position + 1) (fit.lower .exact)
      refine ⟨after, ?_⟩
      rw [List.map_cons, collectItems, validate_text, collectPart, rest]
      rfl

/-- A list of texts is accepted. -/
theorem exists_validate_texts
    (way : List Nat)
    (fit : Fit)
    (values : List String) :
    ∃ after, validate way texts fit (textList values) =
      .ok (.list (textParts values), after) := by
  obtain ⟨after, collected⟩ := exists_collectItems_textList (0 :: way) 0 fit values
  refine ⟨after, ?_⟩
  rw [texts, textList, validate_list, collected]
  rfl

theorem dumpItems_textParts
    (mode : Match)
    (way : List Nat)
    (values : List String) :
    Instance.dumpItems (dump mode way (.string {} false)) (textParts values) =
      some (values.map .text) := by
  induction values with
  | nil => rfl
  | cons value values inductionHypothesis =>
      have own : dump mode way (.string {} false) (.value (.text value)) = some (.text value) := by
        unfold dump
        rfl
      rw [textParts, List.map_cons, Instance.dumpItems, own, ← textParts, inductionHypothesis]
      rfl

/-- The texts of a list are dumped in their order. -/
theorem dump_texts
    (mode : Match)
    (way : List Nat)
    (values : List String) :
    dump mode way texts (.list (textParts values)) = some (textList values) := by
  rw [texts, dump_list, dumpItems_textParts]
  rfl

/-- Nothing is filled into a list of texts. -/
theorem fill_texts (values : List String) : fill texts (textList values) = textList values := by
  rw [texts, textList, fill, List.map_map]
  rfl

/-- A single text is no list. -/
theorem validate_texts_text
    (way : List Nat)
    (fit : Fit)
    (value : String) :
    validate way texts fit (.text value) = .error (.ofViolation .notList) :=
  validate_array_of_ne_list rfl (by simp) way fit

/-- A model passes on what it accepts as a list of texts as it is. -/
theorem lookup_of_validateModel_texts
    {model : String}
    {fields : List (String × Schema Value)}
    {entries outputs : List (String × Value)}
    (validated : validateModel model fields (.record entries) = .ok (.record outputs))
    (distinct : (fields.map Prod.fst).Nodup)
    {key : String}
    {values : List String}
    (declared : (key, texts) ∈ fields)
    (sent : entries.lookup key = some (textList values)) :
    outputs.lookup key = some (textList values) := by
  obtain ⟨given, parts, same, taken, output⟩ := exists_of_validateModel validated
  obtain rfl := Value.record.inj same
  obtain rfl := Value.record.inj output
  obtain ⟨dumped, dumps⟩ := exists_dumpFields_assured fields [] 0 parts
  obtain ⟨below, before, accepted, after, own, found⟩ :=
    taken.exists_dump distinct declared sent
  obtain ⟨last, alone⟩ := exists_validate_texts below before values
  obtain ⟨rfl, -⟩ := Prod.mk.inj (Except.ok.inj (own.symm.trans alone))
  obtain ⟨output, here, there⟩ := found .assured dumped dumps
  rw [dump_texts] at here
  obtain rfl := Option.some.inj here
  rw [dumps, Option.getD_some, lookup_fillFields distinct declared, there, Option.some_or,
    Option.map_some, fill_texts]

end Schema
end RoutineGate
