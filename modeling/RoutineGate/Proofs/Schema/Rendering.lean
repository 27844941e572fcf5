import RoutineGate.Proofs.Schema.Filling
import RoutineGate.Proofs.Schema.Options

/-!
# Dumps render what is accepted

A union dumps what one of its options accepts by any option that matches it.  Whichever it
is, the dump renders the same content: its texts, lists and records, with integers possibly as
floating point numbers.  For this, a record may be dumped only by the fields that have
accepted it, which the way to the schema that did guarantees.
-/

namespace RoutineGate
namespace Schema

/--
A value renders another one: an integer may become a floating point number, and null one that
is infinite or undefined.
-/
inductive Renders : Value → Value → Prop
  | same (value : Value) :
      Renders value value
  | number (whole : Int) :
      Renders (.int whole) (.float (Binary64.ofInt whole))
  | endless {decimal : Binary64}
      (isEndless : decimal.isFinite = false) :
      Renders .null (.float decimal)
  | list {values outputs : List Value}
      (items : List.Forall₂ Renders values outputs) :
      Renders (.list values) (.list outputs)
  | record {entries outputs : List (String × Value)}
      (keys : outputs.map Prod.fst = entries.map Prod.fst)
      (values : List.Forall₂ Renders (entries.map Prod.snd) (outputs.map Prod.snd)) :
      Renders (.record entries) (.record outputs)

/-- An instance whose records come from schemas below a way and are dumped as they are. -/
inductive Instance.IsBelow (way : List Nat) : Instance → Prop
  | value (value : Value) :
      IsBelow way (.value value)
  | list {items : List Instance}
      (each : ∀ item ∈ items, IsBelow way item) :
      IsBelow way (.list items)
  | record {origin : List Nat} {entries : List (String × Instance)}
      {dumped : List (String × Value)}
      (below : way <:+ origin)
      (each : ∀ entry ∈ entries, IsBelow way entry.2)
      (renders : Renders (.record (Instance.entryContents entries)) (.record dumped)) :
      IsBelow way (.record origin entries dumped)

/-- No schema is below two ways. -/
def Apart (way other : List Nat) : Prop :=
  ∀ origin, way <:+ origin → ¬other <:+ origin

section Ways

variable {way other : List Nat}

theorem Instance.IsBelow.of_cons
    {position : Nat}
    {accepted : Instance}
    (below : accepted.IsBelow (position :: way)) :
    accepted.IsBelow way := by
  induction below with
  | value value => exact .value value
  | list _ inductionHypothesis => exact .list inductionHypothesis
  | record suffix _ renders inductionHypothesis =>
      exact .record ((List.suffix_cons position way).trans suffix) inductionHypothesis renders

theorem Apart.cons
    (apart : Apart way other)
    (position : Nat) :
    Apart (position :: way) other :=
  fun origin below => apart origin ((List.suffix_cons position way).trans below)

theorem apart_of_ne
    {first second : Nat}
    (different : first ≠ second) :
    Apart (first :: way) (second :: way) := by
  intro origin below otherBelow
  have same : first :: way = second :: way :=
    (List.suffix_of_suffix_length_le below otherBelow (by simp)).eq_of_length (by simp)
  exact different (List.cons.inj same).1

end Ways

/-- Without a schema, an instance is dumped as its content. -/
theorem renders_plain
    {way : List Nat}
    {accepted : Instance}
    (below : accepted.IsBelow way) :
    Renders accepted.content accepted.plain := by
  induction below with
  | value value => exact .same _
  | @list items each inductionHypothesis =>
      refine .list ?_
      have plains : ∀ items : List Instance,
          Instance.plainAll items = items.map Instance.plain := by
        intro items
        induction items with
        | nil => rfl
        | cons item items others => rw [Instance.plainAll, others, List.map_cons]
      rw [Instance.contents_eq_map, plains, List.forall₂_map_left_iff, List.forall₂_map_right_iff,
        List.forall₂_same]
      exact inductionHypothesis
  | record _ _ renders => exact renders

/-! ## Dumps by schemas without parts -/

section Leaves

variable {schema : Schema Value} {way : List Nat} {accepted : Instance} {mode : Match}
variable {output : Value}

theorem renders_of_unmatched
    (plain : Renders accepted.content accepted.plain)
    (dumped : accepted.unmatched mode = some output) :
    Renders accepted.content output := by
  unfold Instance.unmatched at dumped
  split at dumped
  · exact Option.some.inj dumped ▸ plain
  · contradiction

theorem renders_of_isNull
    (isNull : accepted.isNull = true)
    (dumped : some Value.null = some output) :
    Renders accepted.content output := by
  obtain rfl := Instance.eq_null_of_isNull isNull
  exact Option.some.inj dumped ▸ .same _

theorem renders_of_dumpNumber
    {value : Value}
    (dumped : dumpNumber mode value = some output) :
    Renders (Instance.value value).content output := by
  unfold dumpNumber at dumped
  split at dumped
  · next decimal =>
      obtain rfl := Option.some.inj dumped
      simp only [Instance.content, plainValue]
      split
      · exact .same _
      · next isEndless => exact .endless (eq_false_of_ne_true isEndless)
  · next whole =>
      split at dumped
      · contradiction
      · exact Option.some.inj dumped ▸ .number whole
  · exact renders_of_unmatched (.same _) dumped

theorem renders_of_dumpMember
    {values : List Value}
    (plain : Renders accepted.content accepted.plain)
    (dumped : dumpMember mode values accepted = some output) :
    Renders accepted.content output := by
  unfold dumpMember at dumped
  split at dumped
  · split at dumped
    · exact Option.some.inj dumped ▸ .same _
    · contradiction
  · exact renders_of_unmatched plain dumped

/-- A schema without parts renders whatever it dumps. -/
theorem renders_of_dump_leaf
    (isLeaf : schema.isLeaf = true)
    (plain : Renders accepted.content accepted.plain)
    (dumped : dump mode way schema accepted = some output) :
    Renders accepted.content output := by
  unfold dump at dumped
  split at dumped
  · next null => exact renders_of_isNull (Bool.and_eq_true_iff.mp null).2 dumped
  · cases schema with
    | any => exact Option.some.inj dumped ▸ plain
    | string | boolean =>
        dsimp only at dumped
        split at dumped
        · exact Option.some.inj dumped ▸ .same _
        · exact renders_of_unmatched plain dumped
    | number traits integer coerce =>
        dsimp only at dumped
        split at dumped
        · split at dumped
          · split at dumped
            · exact Option.some.inj dumped ▸ .same _
            · exact renders_of_unmatched plain dumped
          · exact renders_of_dumpNumber dumped
        · exact renders_of_unmatched plain dumped
    | literal | enumeration => exact renders_of_dumpMember plain dumped
    | _ => exact absurd isLeaf (by simp [Schema.isLeaf])

end Leaves

/-! ## Dumps by other schemas than the one that accepted -/

theorem forall₂_of_dumpItems
    {dumpItem : Instance → Option Value}
    {items : List Instance}
    {outputs : List Value}
    (dumped : Instance.dumpItems dumpItem items = some outputs) :
    List.Forall₂ (fun item output => dumpItem item = some output) items outputs := by
  induction items generalizing outputs with
  | nil =>
      obtain rfl := Option.some.inj dumped
      exact .nil
  | cons item items inductionHypothesis =>
      rw [Instance.dumpItems] at dumped
      split at dumped
      · next first rest here later =>
          obtain rfl := Option.some.inj dumped
          exact .cons here (inductionHypothesis later)
      · contradiction

/-- A list is rendered if each item is. -/
theorem renders_of_dumpItems
    {dumpItem : Instance → Option Value}
    {items : List Instance}
    {outputs : List Value}
    (dumped : Instance.dumpItems dumpItem items = some outputs)
    (renders : ∀ item ∈ items, ∀ output, dumpItem item = some output →
      Renders item.content output) :
    Renders (Instance.list items).content (.list outputs) := by
  refine .list ?_
  rw [Instance.contents_eq_map, List.forall₂_map_left_iff]
  exact forall₂_imp_of_mem (forall₂_of_dumpItems dumped) fun item listed output _ =>
    renders item listed output

theorem exists_of_dumpFirst
    {mode : Match}
    {way kept : List Nat}
    {position : Nat}
    {options : List (Schema Value)}
    {accepted : Instance}
    {output : Value}
    (dumped : dumpFirst mode way kept position options accepted = some output) :
    ∃ index option, options[index]? = some option ∧ position + index ∈ kept ∧
      dump mode ((position + index) :: way) option accepted = some output := by
  induction options generalizing position with
  | nil => exact absurd dumped (by simp [dumpFirst])
  | cons option options inductionHypothesis =>
      have later : dumpFirst mode way kept (position + 1) options accepted = some output →
          ∃ index found, (option :: options)[index]? = some found ∧ position + index ∈ kept ∧
            dump mode ((position + index) :: way) found accepted = some output := by
        intro rest
        obtain ⟨index, found, here, listed, dumped⟩ := inductionHypothesis rest
        rw [Nat.add_right_comm, Nat.add_assoc] at listed dumped
        exact ⟨index + 1, found, here, listed, dumped⟩
      rw [dumpFirst] at dumped
      split at dumped
      · next listed =>
          obtain here | ⟨-, rest⟩ := Option.or_eq_some_iff.mp dumped
          · exact ⟨0, option, rfl, List.contains_iff_mem.mp listed, here⟩
          · exact later rest
      · exact later dumped

/-- Something is dumped if one of the options that are kept dumps it. -/
theorem exists_dumpFirst
    {mode : Match}
    {way kept : List Nat}
    {position index : Nat}
    {options : List (Schema Value)}
    {option : Schema Value}
    {accepted : Instance}
    {output : Value}
    (here : options[index]? = some option)
    (listed : position + index ∈ kept)
    (dumped : dump mode ((position + index) :: way) option accepted = some output) :
    ∃ found, dumpFirst mode way kept position options accepted = some found := by
  induction options generalizing position index with
  | nil => exact absurd here (by simp)
  | cons first options inductionHypothesis =>
      rw [dumpFirst]
      cases index with
      | zero =>
          obtain rfl := Option.some.inj here
          rw [Nat.add_zero] at listed dumped
          rw [if_pos (List.contains_iff_mem.mpr listed), dumped]
          exact ⟨output, rfl⟩
      | succ index =>
          obtain ⟨found, rest⟩ := inductionHypothesis here
            (by rwa [Nat.add_right_comm, Nat.add_assoc] : position + 1 + index ∈ kept)
            (by rwa [Nat.add_right_comm, Nat.add_assoc])
          rw [rest]
          split
          · cases dump mode (position :: way) first accepted with
            | none => exact ⟨found, rfl⟩
            | some other => exact ⟨other, rfl⟩
          · exact ⟨found, rfl⟩

/-- A union dumps an instance by one of its options, or as it is. -/
theorem cases_of_dump_union
    {traits : Traits Value}
    {options : List (Schema Value)}
    {mode : Match}
    {way : List Nat}
    {accepted : Instance}
    {output : Value}
    (dumped : dump mode way (.union traits options) accepted = some output) :
    accepted.isNull = true ∧ some Value.null = some output ∨
      accepted.unmatched mode = some output ∨
      ∃ mode position option, options[position]? = some option ∧
        dump mode (position :: way) option accepted = some output := by
  have first : ∀ {mode}, dumpFirst mode way (alternatives options) 0 options accepted =
      some output → ∃ mode position option, options[position]? = some option ∧
        dump mode (position :: way) option accepted = some output := by
    intro mode found
    obtain ⟨index, option, here, -, dumped⟩ := exists_of_dumpFirst found
    rw [Nat.zero_add] at dumped
    exact ⟨mode, index, option, here, dumped⟩
  unfold dump at dumped
  split at dumped
  · next null => exact .inl ⟨(Bool.and_eq_true_iff.mp null).2, dumped⟩
  · dsimp only at dumped
    split at dumped
    · exact .inr (.inr (first dumped))
    · obtain either | ⟨-, plain⟩ := Option.or_eq_some_iff.mp dumped
      · obtain strictly | ⟨-, loosely⟩ := Option.or_eq_some_iff.mp either
        · exact .inr (.inr (first strictly))
        · split at loosely
          · exact .inr (.inr (first loosely))
          · contradiction
      · exact .inr (.inl plain)

mutual

/-- A schema renders whatever it dumps of an instance that comes from elsewhere. -/
theorem renders_of_dump_of_apart :
    (schema : Schema Value) → {way other : List Nat} → Apart way other →
      {accepted : Instance} → accepted.IsBelow other → {mode : Match} → {output : Value} →
        dump mode way schema accepted = some output → Renders accepted.content output
  | .array traits item, way, other, apart, accepted, below, mode, output, dumped => by
      unfold dump at dumped
      split at dumped
      · next null => exact renders_of_isNull (Bool.and_eq_true_iff.mp null).2 dumped
      · cases below with
        | list items =>
            obtain ⟨outputs, dumpedItems, rfl⟩ := Option.map_eq_some_iff.mp dumped
            refine renders_of_dumpItems dumpedItems fun part listed output dumped => ?_
            exact renders_of_dump_of_apart item (apart.cons 0) (items part listed) dumped
        | value value => exact renders_of_unmatched (.same _) dumped
        | record suffix entries renders => exact renders_of_unmatched renders dumped
  | .object traits fields, way, other, apart, accepted, below, mode, output, dumped => by
      have plain := renders_plain below
      unfold dump at dumped
      split at dumped
      · next null => exact renders_of_isNull (Bool.and_eq_true_iff.mp null).2 dumped
      · cases below with
        | record suffix entries renders =>
            dsimp only at dumped
            split at dumped
            · next same => exact absurd suffix (apart _ (same ▸ List.suffix_refl _))
            · exact renders_of_unmatched plain dumped
        | value value => exact renders_of_unmatched plain dumped
        | list items => exact renders_of_unmatched plain dumped
  | .union traits options, way, other, apart, accepted, below, mode, output, dumped => by
      obtain ⟨isNull, null⟩ | plain | ⟨mode, position, option, here, dumped⟩ :=
        cases_of_dump_union dumped
      · exact renders_of_isNull isNull null
      · exact renders_of_unmatched (renders_plain below) plain
      · exact renders_of_mem_of_apart options option (List.mem_of_getElem? here)
          (apart.cons position) below dumped
  | .custom traits name inner, way, other, apart, accepted, below, mode, output, dumped => by
      unfold dump at dumped
      split at dumped
      · next null => exact renders_of_isNull (Bool.and_eq_true_iff.mp null).2 dumped
      · exact renders_of_dump_of_apart inner apart below dumped
  | .any .., way, other, apart, accepted, below, mode, output, dumped
  | .string .., way, other, apart, accepted, below, mode, output, dumped
  | .number .., way, other, apart, accepted, below, mode, output, dumped
  | .boolean .., way, other, apart, accepted, below, mode, output, dumped
  | .literal .., way, other, apart, accepted, below, mode, output, dumped
  | .enumeration .., way, other, apart, accepted, below, mode, output, dumped =>
      renders_of_dump_leaf rfl (renders_plain below) dumped

theorem renders_of_mem_of_apart :
    (options : List (Schema Value)) → (option : Schema Value) → option ∈ options →
      {way other : List Nat} → Apart way other →
        {accepted : Instance} → accepted.IsBelow other → {mode : Match} → {output : Value} →
          dump mode way option accepted = some output → Renders accepted.content output
  | [], option, listed, _, _, _, _, _, _, _, _ => absurd listed List.not_mem_nil
  | first :: options, option, listed, way, other, apart, accepted, below, mode, output,
      dumped => by
      obtain same | later := List.mem_cons.mp listed
      · rw [same] at dumped
        exact renders_of_dump_of_apart first apart below dumped
      · exact renders_of_mem_of_apart options option later apart below dumped

end

/-! ## Dumps by the schema that accepted -/

/--
An instance comes from schemas below a way, and a schema dumps it, surely if it is known to
match, and always as its content.
-/
structure DumpsContent (way : List Nat) (schema : Schema Value) (accepted : Instance) : Prop where
  below : accepted.IsBelow way
  assured : ∃ output, dump .assured way schema accepted = some output
  renders : ∀ mode output, dump mode way schema accepted = some output →
    Renders accepted.content output

/-- Whatever a schema accepts it dumps as its content. -/
def DumpsAccepted (schema : Schema Value) : Prop :=
  ∀ way fit value accepted after, validate way schema fit value = .ok (accepted, after) →
    DumpsContent way schema accepted

section Records

variable {way : List Nat} {entries : List (String × Value)} {position : Nat}
variable {fields : List (String × Schema Value)} {parts : List (String × Instance)}

theorem consDump_eq_some
    {key : String}
    {dumped : Option Value}
    {rest : Option (List (String × Value))}
    {outputs : List (String × Value)}
    (consed : consDump key dumped rest = some outputs) :
    ∃ first later, dumped = some first ∧ rest = some later ∧ outputs = (key, first) :: later := by
  unfold consDump at consed
  split at consed
  · next first later =>
      exact ⟨first, later, rfl, rfl, (Option.some.inj consed).symm⟩
  · contradiction

/-- The accepted fields of a record are dumped as their contents. -/
theorem dumpsContent_of_takesFields
    (taken : TakesFields way entries position fields parts)
    (distinct : (fields.map Prod.fst).Nodup)
    (each : ∀ field ∈ fields, field.2.DumpsAccepted) :
    (∀ part ∈ parts, part.2.IsBelow way) ∧
    (∃ outputs, dumpFields .assured way position fields parts = some outputs) ∧
    ∀ mode outputs, dumpFields mode way position fields parts = some outputs →
      outputs.map Prod.fst = (Instance.entryContents parts).map Prod.fst ∧
      List.Forall₂ Renders ((Instance.entryContents parts).map Prod.snd)
        (outputs.map Prod.snd) := by
  induction taken with
  | nil =>
      refine ⟨by simp, ⟨[], rfl⟩, fun mode outputs dumped => ?_⟩
      obtain rfl := Option.some.inj dumped
      exact ⟨rfl, .nil⟩
  | @sent position key field value fit after accepted fields parts present validated rest
      inductionHypothesis =>
      obtain ⟨undeclared, others⟩ := List.nodup_cons.mp distinct
      obtain ⟨first, later⟩ := List.forall_mem_cons.mp each
      have own := first _ _ _ _ _ validated
      obtain ⟨below, ⟨outputs, dumpedRest⟩, renders⟩ := inductionHypothesis others later
      have step : ∀ mode, dumpFields mode way position ((key, field) :: fields)
          ((key, accepted) :: parts) = consDump key (dump mode (position :: way) field accepted)
            (dumpFields mode way (position + 1) fields parts) := by
        intro mode
        rw [dumpFields, List.lookup_cons_self, dumpFields_cons undeclared]
      refine ⟨List.forall_mem_cons.mpr ⟨own.below.of_cons, below⟩, ?_, ?_⟩
      · obtain ⟨output, dumped⟩ := own.assured
        exact ⟨(key, output) :: outputs, by rw [step, dumped, dumpedRest]; rfl⟩
      · intro mode outputs dumped
        rw [step] at dumped
        obtain ⟨output, rest, here, there, rfl⟩ := consDump_eq_some dumped
        obtain ⟨keys, values⟩ := renders mode rest there
        refine ⟨?_, .cons (own.renders mode output here) values⟩
        rw [List.map_cons, keys, Instance.entryContents, List.map_cons]
  | @absent position key field fields parts absent optional rest inductionHypothesis =>
      obtain ⟨undeclared, others⟩ := List.nodup_cons.mp distinct
      have same : ∀ mode, dumpFields mode way position ((key, field) :: fields) parts =
          dumpFields mode way (position + 1) fields parts := by
        intro mode
        rw [dumpFields, rest.lookup_eq_none undeclared]
      obtain ⟨below, assured, renders⟩ :=
        inductionHypothesis others (List.forall_mem_cons.mp each).2
      refine ⟨below, ?_, fun mode outputs dumped => renders mode outputs ?_⟩
      · simpa only [same] using assured
      · rwa [← same]

end Records

theorem dumpsAccepted_leaf
    {schema : Schema Value}
    (isLeaf : schema.isLeaf = true) :
    schema.DumpsAccepted := by
  intro way fit value accepted after validated
  obtain ⟨found, -, rfl, -⟩ := validate_leaf isLeaf validated
  obtain ⟨output, dumped, -⟩ := exists_dump_leaf isLeaf way (.value found)
  exact ⟨.value found, ⟨output, dumped⟩, fun mode output dumped =>
    renders_of_dump_leaf isLeaf (.same _) dumped⟩

theorem dumpsContent_null
    {schema : Schema Value}
    {value : Value}
    (taken : schema.takesNull value = true)
    (way : List Nat) :
    DumpsContent way schema (.value .null) := by
  refine ⟨.value .null, ⟨.null, dump_of_takesNull taken .assured way⟩, fun mode output found => ?_⟩
  rw [dump_of_takesNull taken] at found
  exact Option.some.inj found ▸ .same _

/-- A schema dumps what it accepts by its kind, apart from null. -/
theorem dumpsAccepted_of_nonNull
    {schema : Schema Value}
    (otherwise : ∀ way fit value accepted after, schema.takesNull value = false →
      validate way schema fit value = .ok (accepted, after) →
        DumpsContent way schema accepted) :
    schema.DumpsAccepted := by
  intro way fit value accepted after validated
  cases given : schema.takesNull value with
  | false => exact otherwise way fit value accepted after given validated
  | true =>
      rw [validate_of_takesNull given] at validated
      obtain ⟨rfl, -⟩ := Prod.mk.inj (Except.ok.inj validated)
      exact dumpsContent_null given way

section Parts

variable {traits : Traits Value} {way : List Nat}

/-- A list is dumped as its content if its items are. -/
theorem dumpsContent_list
    {item : Schema Value}
    {parts : List Instance}
    (each : ∀ part ∈ parts, DumpsContent (0 :: way) item part) :
    DumpsContent way (.array traits item) (.list parts) := by
  refine ⟨.list fun part listed => (each part listed).below.of_cons, ?_, ?_⟩
  · obtain ⟨outputs, dumped⟩ : ∃ outputs,
        Instance.dumpItems (dump .assured (0 :: way) item) parts = some outputs := by
      induction parts with
      | nil => exact ⟨[], rfl⟩
      | cons part parts inductionHypothesis =>
          obtain ⟨first, later⟩ := List.forall_mem_cons.mp each
          obtain ⟨output, dumped⟩ := first.assured
          obtain ⟨outputs, rest⟩ := inductionHypothesis later
          exact ⟨output :: outputs, by rw [Instance.dumpItems, dumped, rest]⟩
    exact ⟨.list outputs, by rw [dump_list, dumped, Option.map_some]⟩
  · intro mode output dumped
    rw [dump_list] at dumped
    obtain ⟨outputs, items, rfl⟩ := Option.map_eq_some_iff.mp dumped
    exact renders_of_dumpItems items fun part listed output =>
      (each part listed).renders mode output

/-- A record is dumped as its content by the fields that have accepted it. -/
theorem dumpsContent_record
    {fields : List (String × Schema Value)}
    {entries : List (String × Value)}
    {parts : List (String × Instance)}
    {fit : Fit}
    {result : Instance × Fit}
    (taken : TakesFields way entries 0 fields parts)
    (distinct : (fields.map Prod.fst).Nodup)
    (each : ∀ field ∈ fields, field.2.DumpsAccepted)
    (built : buildRecord way fields parts fit = .ok result) :
    DumpsContent way (.object traits fields) result.1 := by
  obtain ⟨below, ⟨outputs, dumped⟩, renders⟩ := dumpsContent_of_takesFields taken distinct each
  obtain rfl := Except.ok.inj built
  have rendered : ∀ mode outputs, dumpFields mode way 0 fields parts = some outputs →
      Renders (.record (Instance.entryContents parts)) (.record outputs) := by
    intro mode outputs found
    obtain ⟨keys, values⟩ := renders mode outputs found
    exact .record keys values
  refine ⟨?_, ⟨.record outputs, by rw [dump_record, dumped, Option.map_some]⟩, ?_⟩
  · refine .record (List.suffix_refl way) below ?_
    rw [dumped, Option.getD_some]
    exact rendered .assured outputs dumped
  · intro mode output found
    rw [dump_record] at found
    obtain ⟨outputs, fieldsDumped, rfl⟩ := Option.map_eq_some_iff.mp found
    exact rendered mode outputs fieldsDumped

/-- A union dumps what one of its options accepts as its content. -/
theorem dumpsContent_union
    {options : List (Schema Value)}
    {accepted : Instance}
    {position : Nat}
    {option : Schema Value}
    (here : options[position]? = some option)
    (kept : position ∈ alternatives options)
    (own : DumpsContent (position :: way) option accepted) :
    DumpsContent way (.union traits options) accepted := by
  refine ⟨own.below.of_cons, ?_, ?_⟩
  · unfold dump
    split
    · exact ⟨_, rfl⟩
    · dsimp only
      split
      · obtain ⟨output, dumped⟩ := own.assured
        exact exists_dumpFirst here (by rwa [Nat.zero_add]) (by rw [Nat.zero_add, dumped])
      · have plain : accepted.unmatched .assured = some accepted.plain := if_pos rfl
        rw [plain, Option.or_some]
        exact ⟨_, rfl⟩
  · intro mode output dumped
    obtain ⟨isNull, null⟩ | plain | ⟨mode, other, found, there, dumped⟩ :=
      cases_of_dump_union dumped
    · exact renders_of_isNull isNull null
    · exact renders_of_unmatched (renders_plain own.below) plain
    · by_cases same : other = position
      · subst same
        obtain rfl := Option.some.inj (here.symm.trans there)
        exact own.renders mode output dumped
      · exact renders_of_dump_of_apart found (apart_of_ne same) own.below dumped

end Parts

/-- A well-formed schema dumps what it accepts as its content. -/
theorem dumpsAccepted_of_wellFormed
    {schema : Schema Value}
    (wellFormed : schema.WellFormed) :
    schema.DumpsAccepted := by
  induction wellFormed with
  | any | string | number | boolean | literal | enumeration => exact dumpsAccepted_leaf rfl
  | @array traits item _ _ inductionHypothesis =>
      refine dumpsAccepted_of_nonNull fun way fit value accepted after given validated => ?_
      by_cases isList : ∃ values, value = .list values
      · obtain ⟨values, rfl⟩ := isList
        rw [validate_list] at validated
        obtain ⟨parts, middle, collected, built⟩ := assemble_eq_ok_iff.mp validated
        have items := forall₂_of_collectItems (fun _ _ _ => issues_ne_nil_of_refused) collected
        obtain rfl := eq_list_of_buildList built
        refine dumpsContent_list fun part listed => ?_
        obtain ⟨value, -, before, last, validated⟩ := exists_of_forall₂ items.flip listed
        exact inductionHypothesis _ _ _ _ _ validated
      · rw [validate_array_of_ne_list given (not_exists.mp isList)] at validated
        exact absurd validated (by simp)
  | @object traits fields _ distinct _ inductionHypothesis =>
      refine dumpsAccepted_of_nonNull fun way fit value accepted after given validated => ?_
      by_cases isRecord : ∃ entries, value = .record entries
      · obtain ⟨entries, rfl⟩ := isRecord
        rw [validate_record] at validated
        obtain ⟨parts, middle, collected, built⟩ := assemble_eq_ok_iff.mp validated
        exact dumpsContent_record (takesFields_of_validateFields collected) distinct
          inductionHypothesis built
      · rw [validate_object_of_ne_record given (not_exists.mp isRecord)] at validated
        exact absurd validated (by simp)
  | @union traits options _ _ _ inductionHypothesis =>
      refine dumpsAccepted_of_nonNull fun way fit value accepted after given validated => ?_
      obtain ⟨position, option, before, middle, here, kept, validated⟩ :=
        isTaken_of_validate given validated
      rw [Nat.zero_add] at kept validated
      exact dumpsContent_union here kept
        (inductionHypothesis option (List.mem_of_getElem? here) _ _ _ _ _ validated)
  | @custom traits name inner _ _ inductionHypothesis =>
      refine dumpsAccepted_of_nonNull fun way fit value accepted after given validated => ?_
      rw [validate_custom given] at validated
      have own := inductionHypothesis _ _ _ _ _ validated
      refine ⟨own.below, ?_, ?_⟩
      · unfold dump
        split
        · exact ⟨_, rfl⟩
        · exact own.assured
      · intro mode output dumped
        unfold dump at dumped
        split at dumped
        · next null => exact renders_of_isNull (Bool.and_eq_true_iff.mp null).2 dumped
        · exact own.renders mode output dumped

end Schema
end RoutineGate
