import RoutineGate.Call.Answer
import RoutineGate.Proofs.Text.Splitting
import RoutineGate.Proofs.Traversal

/-!
# Answers to sets of rows

Sets of rows always have an answer, as long as the status that a row tells can be read.  If the
first row of all is marked, its set tells the status and how the other sets are shaped, one by
one; if not, all sets are passed on as they are.
-/

namespace RoutineGate
namespace Call

/-- The values of a row by column. -/
abbrev Row := List (String × Value)

abbrev RowSet := List Row

/-- A set of rows as a value. -/
def RowSet.toValue (rows : RowSet) : Value :=
  .list (rows.map .record)

/-- What a call gives: sets of rows, and maybe its status after them. -/
def resultsOf (sets : List RowSet) (status? : Option (Int × Option Int)) : List Value :=
  sets.map RowSet.toValue ++
    (status?.map fun status => Value.status status.1 status.2).toList

/-! ## What a row tells -/

namespace Row

/-- Whether a column of a row holds anything that counts as true. -/
def affirms (row : Row) (name : String) : Bool :=
  (Envelope.column row name).isTruthy

/-- The status column of a row holds a number other than zero. -/
def TellsStatus (row : Row) (status : Int) : Prop :=
  row.affirms "status" ∧ (Envelope.column row "status").toInteger = .ok status ∧ status ≠ 0

/-- The status that a row stands for: the one that it tells, or else that of its failure. -/
structure Means (row : Row) (status : Int) : Prop where
  told : ∀ number, row.TellsStatus number → status = number
  untold : (∀ number, ¬row.TellsStatus number) → status = if row.affirms "error" then 400 else 200

/-- The descriptors in a row are the pieces of its schema between commas, without blanks. -/
inductive Describes (row : Row) : List String → Prop
  | nothing
      (absent : row.affirms "schema" = false ∨ (Envelope.column row "schema").plain = "") :
      Describes row []
  | pieces {pieces : List (List Char)}
      (affirmed : row.affirms "schema")
      (nonempty : (Envelope.column row "schema").plain ≠ "")
      (joined : (Envelope.column row "schema").plain.toList = Text.joinWith [','] pieces)
      (present : pieces ≠ [])
      (apart : ∀ piece ∈ pieces, ',' ∉ piece) :
      Describes row (pieces.map fun piece => String.ofList (Text.trim piece))

/-- The message of a row as a text, or null. -/
def message (row : Row) : Value :=
  ((Envelope.column row "message").nonNull?.map fun value => .text value.plain).getD .null

/-- What the answer to a failure without descriptors shows. -/
def failure (row : Row) : Value :=
  .record [("error", .bool true), ("success", .bool (row.affirms "success")),
    ("message", row.message)]

end Row

/-! ## What the answer is -/

/-- The first row of the first of several sets. -/
def firstRow? (sets : List RowSet) : Option Row :=
  sets.head?.bind List.head?

/-- The first row of all, if it is marked as that of an envelope. -/
def envelope? (sets : List RowSet) : Option Row :=
  (firstRow? sets).bind fun row => if row.affirms markColumn then some row else none

/-- What a descriptor makes of a set that may be missing. -/
def entryOf (descriptor : String) (set? : Option RowSet) : Value :=
  if descriptor = "object" then ((set?.bind List.head?).map Value.record).getD .null
  else RowSet.toValue (set?.getD [])

/-- Descriptors shape the sets at their own positions. -/
def entriesOf (descriptors : List String) (sets : List RowSet) : List Value :=
  descriptors.mapIdx fun position descriptor => entryOf descriptor sets[position]?

/-- What is shown of the sets after that of a row. -/
inductive Row.IsPayload (row : Row) (rest : List RowSet) : Value → Prop
  | failure
      (undescribed : row.Describes [])
      (fails : row.affirms "error") :
      IsPayload row rest row.failure
  | remaining
      (undescribed : row.Describes [])
      (succeeds : row.affirms "error" = false) :
      IsPayload row rest (.list (rest.map RowSet.toValue))
  | single {descriptor : String}
      (described : row.Describes [descriptor]) :
      IsPayload row rest (entryOf descriptor rest[0]?)
  | several {descriptors : List String}
      (described : row.Describes descriptors)
      (several : 1 < descriptors.length) :
      IsPayload row rest (.list (entriesOf descriptors rest))

/-- The answer to sets of rows. -/
inductive IsAnswer (sets : List RowSet) : Answer → Prop
  | unmarked
      (plain : envelope? sets = none) :
      IsAnswer sets ⟨200, .list (sets.map RowSet.toValue)⟩
  | enveloped {row : Row} {status : Int} {payload : Value}
      (marked : envelope? sets = some row)
      (means : row.Means status)
      (shown : row.IsPayload sets.tail payload) :
      IsAnswer sets ⟨status, payload⟩

/-! ## Reading the envelope -/

theorem dropStatus_resultsOf
    (sets : List RowSet)
    (status? : Option (Int × Option Int)) :
    dropStatus (resultsOf sets status?) = sets.map RowSet.toValue := by
  cases status? with
  | some status => exact dropStatus_append_status _ _ _
  | none =>
      simp only [resultsOf, Option.map_none, Option.toList_none, List.append_nil]
      unfold dropStatus
      split
      · next last =>
          obtain ⟨rows, -, isStatus⟩ := List.mem_map.mp (List.mem_of_getLast? last)
          exact absurd isStatus (by simp [RowSet.toValue])
      · rfl

/-- An envelope is taken off exactly if the first row of all is marked. -/
theorem takeEnvelope?_map_toValue (sets : List RowSet) :
    takeEnvelope? (sets.map RowSet.toValue) =
      (envelope? sets).map fun row => (row, sets.tail.map RowSet.toValue) := by
  cases sets with
  | nil => rfl
  | cons first sets =>
      cases first with
      | nil => rfl
      | cons row rows =>
          have affirmed : (Envelope.column row markColumn).isTruthy = row.affirms markColumn := rfl
          simp only [List.map_cons, RowSet.toValue, takeEnvelope?, envelope?, firstRow?,
            List.head?_cons, Option.bind_some, affirmed]
          split <;> rfl

variable {row : Row}

theorem firstRow?_of_envelope?
    {sets : List RowSet}
    (marked : envelope? sets = some row) :
    firstRow? sets = some row := by
  obtain ⟨first, found, same⟩ := Option.bind_eq_some_iff.mp marked
  split at same
  · rw [found, same]
  · exact absurd same (by simp)

/-- A status that can be read, if there is one, decides with the failure what the row means. -/
theorem exists_readStatus
    (readable : row.affirms "status" →
      ∃ number, (Envelope.column row "status").toInteger = .ok number) :
    ∃ told, Envelope.readStatus (Envelope.column row "status") = .ok told ∧
      ∀ number, row.TellsStatus number ↔ told = some number ∧ number ≠ 0 := by
  unfold Envelope.readStatus
  split
  · next affirmed =>
      obtain ⟨number, read⟩ := readable affirmed
      refine ⟨some number, by rw [read]; rfl, fun other => ?_⟩
      simp [Row.TellsStatus, Row.affirms, affirmed, read]
  · next absent =>
      exact ⟨none, rfl, fun other => by simp [Row.TellsStatus, Row.affirms, absent]⟩

theorem means_answerStatus
    {envelope : Envelope}
    (told : ∀ number, row.TellsStatus number ↔ envelope.status = some number ∧ number ≠ 0)
    (fails : envelope.error = row.affirms "error") :
    row.Means envelope.answerStatus := by
  constructor
  · intro number tells
    obtain ⟨status, nonzero⟩ := (told number).mp tells
    simp [Envelope.answerStatus, status, nonzero]
  · intro untold
    rw [← fails]
    cases status : envelope.status with
    | none => simp [Envelope.answerStatus, status]
    | some number =>
        have zero : number = 0 := by
          by_contra nonzero
          exact untold number ((told number).mpr ⟨status, nonzero⟩)
        simp [Envelope.answerStatus, status, zero]

/-- The descriptors of an envelope are the pieces of the schema in its row. -/
theorem describes_iff
    {envelope : Envelope}
    (schema : envelope.schema =
      if row.affirms "schema" then some (Envelope.column row "schema").plain else none)
    {descriptors : List String} :
    row.Describes descriptors ↔ descriptors = envelope.descriptors := by
  unfold Envelope.descriptors
  rw [schema]
  constructor
  · rintro (absent | ⟨affirmed, nonempty, joined, present, apart⟩)
    · obtain absent | empty := absent
      · simp [absent]
      · split <;> simp_all
    · simp only [affirmed, if_true, String.isEmpty_iff, nonempty, if_false]
      rw [joined, Text.splitAt_joinWith present apart]
  · rintro rfl
    by_cases affirmed : row.affirms "schema" = true
    · simp only [affirmed, if_true]
      split
      · next empty => exact .nothing (.inr (String.isEmpty_iff.mp empty))
      · next nonempty =>
          exact .pieces affirmed (mt String.isEmpty_iff.mpr nonempty)
            (Text.joinWith_splitAt ',' _).symm (Text.splitAt_ne_nil ',' _)
            fun piece listed => Text.notMem_of_mem_splitAt listed
    · simp only [affirmed]
      exact .nothing (.inl (by simpa using affirmed))

/-- What an envelope takes from its row. -/
structure Envelope.IsOf (envelope : Envelope) (row : Row) : Prop where
  means : row.Means envelope.answerStatus
  error : envelope.error = row.affirms "error"
  failure : envelope.error = true → envelope.failure = row.failure
  describes : ∀ descriptors, row.Describes descriptors ↔ descriptors = envelope.descriptors

/-- A row whose status can be read is read as an envelope. -/
theorem exists_ofRow
    (readable : row.affirms "status" →
      ∃ number, (Envelope.column row "status").toInteger = .ok number) :
    ∃ envelope, Envelope.ofRow row = .ok envelope ∧ envelope.IsOf row := by
  obtain ⟨told, read, tells⟩ := exists_readStatus readable
  refine ⟨_, by unfold Envelope.ofRow; rw [read]; rfl, ?_⟩
  exact {
    means := means_answerStatus tells rfl
    error := rfl
    failure := by
      intro fails
      dsimp only at fails
      simp only [Envelope.failure, Row.failure, Row.message, Option.map_map]
      rw [fails]
      rfl
    describes := fun _ => describes_iff rfl }

/-! ## Shaping the sets -/

theorem shape_map_toValue
    (descriptor : String)
    (set? : Option RowSet) :
    shape descriptor (set?.map RowSet.toValue) = .ok (entryOf descriptor set?) := by
  unfold shape entryOf objectDescriptor
  cases set? with
  | none => split <;> rfl
  | some rows =>
      split
      · cases rows <;> rfl
      · rfl

theorem entriesOf_cons
    (descriptor : String)
    (descriptors : List String)
    (sets : List RowSet) :
    entriesOf (descriptor :: descriptors) sets =
      entryOf descriptor sets[0]? :: entriesOf descriptors sets.tail := by
  simp only [entriesOf, List.mapIdx_cons, List.getElem?_tail]

/-- Sets of rows can be shaped by any descriptors, whether there are enough of them or not. -/
theorem shapeAll_map_toValue
    (descriptors : List String)
    (sets : List RowSet) :
    shapeAll descriptors (sets.map RowSet.toValue) = .ok (entriesOf descriptors sets) := by
  induction descriptors generalizing sets with
  | nil => rfl
  | cons descriptor descriptors inductionHypothesis =>
      have first : (sets.map RowSet.toValue).head? = sets[0]?.map RowSet.toValue := by
        rw [List.head?_map, List.head?_eq_getElem?]
      have others : (sets.map RowSet.toValue).tail = sets.tail.map RowSet.toValue :=
        List.map_tail.symm
      rw [shapeAll, first, others, shape_map_toValue, inductionHypothesis, entriesOf_cons]
      rfl

/-- Sets beyond the descriptors do not matter. -/
theorem entriesOf_take
    (descriptors : List String)
    (sets : List RowSet) :
    entriesOf descriptors (sets.take descriptors.length) = entriesOf descriptors sets := by
  refine List.ext_getElem? fun position => ?_
  simp only [entriesOf, List.getElem?_mapIdx]
  cases there : descriptors[position]? with
  | none => rfl
  | some descriptor =>
      have within : position < descriptors.length := (List.getElem?_eq_some_iff.mp there).1
      rw [List.getElem?_take_of_lt within]

/-- What an envelope shows of the sets after it. -/
def Envelope.payload (envelope : Envelope) (rest : List RowSet) : Value :=
  match envelope.descriptors with
  | [] => if envelope.error then envelope.failure else .list (rest.map RowSet.toValue)
  | descriptors => joinShaped (entriesOf descriptors rest)

/-- An envelope with descriptors shows only as many sets. -/
theorem Envelope.payload_take
    {envelope : Envelope}
    (described : envelope.descriptors ≠ [])
    (rest : List RowSet) :
    envelope.payload (rest.take envelope.descriptors.length) = envelope.payload rest := by
  unfold Envelope.payload
  split
  · next undescribed => exact absurd undescribed described
  · rw [entriesOf_take]

theorem demultiplex_resultsOf_of_marked
    {sets : List RowSet}
    {envelope : Envelope}
    (marked : envelope? sets = some row)
    (read : Envelope.ofRow row = .ok envelope)
    (status? : Option (Int × Option Int)) :
    demultiplex (resultsOf sets status?) =
      .ok ⟨envelope.answerStatus, envelope.payload sets.tail⟩ := by
  unfold demultiplex Envelope.payload
  dsimp only
  rw [dropStatus_resultsOf, takeEnvelope?_map_toValue, marked]
  simp only [Option.map_some, read, bind, Except.bind]
  cases envelope.descriptors with
  | nil => rfl
  | cons descriptor descriptors =>
      simp only [shapeAll_map_toValue]
      rfl

/-- The payload of an envelope is what its row asks for. -/
theorem Envelope.IsOf.isPayload
    {envelope : Envelope}
    (isOf : envelope.IsOf row)
    (rest : List RowSet) :
    row.IsPayload rest (envelope.payload rest) := by
  have described := (isOf.describes _).mpr rfl
  unfold Envelope.payload
  match names : envelope.descriptors with
  | [] =>
      rw [names] at described
      dsimp only
      split
      · next fails =>
          rw [isOf.failure fails]
          exact .failure described (isOf.error ▸ fails)
      · next succeeds => exact .remaining described (by simpa [← isOf.error] using succeeds)
  | [descriptor] =>
      rw [names] at described
      exact .single described
  | first :: second :: descriptors =>
      rw [names] at described
      dsimp only
      have several : row.IsPayload rest (.list (entriesOf (first :: second :: descriptors) rest)) :=
        .several described (by simp)
      rw [entriesOf_cons, entriesOf_cons] at several ⊢
      exact several

/--
Sets of rows have an answer, if the status that the first row of all may tell can be read.  What
follows the sets, and with descriptors the sets beyond these, do not matter for it.
-/
theorem exists_isAnswer
    (sets : List RowSet)
    (readable : ∀ row, firstRow? sets = some row → row.affirms "status" →
      ∃ number, (Envelope.column row "status").toInteger = .ok number) :
    ∃ answer, IsAnswer sets answer ∧
      (∀ status?, demultiplex (resultsOf sets status?) = .ok answer) ∧
      ∀ row descriptors, envelope? sets = some row → row.Describes descriptors →
        descriptors ≠ [] → ∀ status?,
          demultiplex (resultsOf (sets.take (descriptors.length + 1)) status?) = .ok answer := by
  cases marked : envelope? sets with
  | none =>
      refine ⟨_, .unmarked marked, fun status? => ?_, fun row _ other => ?_⟩
      · unfold demultiplex
        dsimp only
        rw [dropStatus_resultsOf, takeEnvelope?_map_toValue, marked]
        rfl
      · exact absurd other (by simp)
  | some row =>
      obtain ⟨envelope, read, isOf⟩ := exists_ofRow (readable row (firstRow?_of_envelope? marked))
      refine ⟨_, .enveloped marked isOf.means (isOf.isPayload _),
        demultiplex_resultsOf_of_marked marked read, ?_⟩
      rintro other descriptors same described nonempty status?
      obtain rfl := Option.some.inj same
      obtain rfl := (isOf.describes descriptors).mp described
      cases sets with
      | nil => exact absurd marked (by simp [envelope?, firstRow?])
      | cons first rest =>
          have stillMarked :
              envelope? (first :: rest.take envelope.descriptors.length) = some row := marked
          rw [List.take_succ_cons, demultiplex_resultsOf_of_marked stillMarked read,
            List.tail_cons, List.tail_cons, Envelope.payload_take nonempty]

/-- An envelope with the status `"0"`, a set for the first of two descriptors, and no other one. -/
def failingSets : List RowSet :=
  [[[("#RESULT#", .int 1), ("status", .text "0"), ("error", .int 1),
      ("schema", .text "object, ")]],
    [[("id", .int 5)], [("id", .int 6)]]]

/-- A status that is zero counts as none, and the set of the second descriptor is missing. -/
theorem exists_isAnswer_failingSets :
    (∃ number, (Value.text "0").toInteger = .ok number) ∧
    IsAnswer failingSets ⟨400, .list [.record [("id", .int 5)], .list []]⟩ ∧
    ∀ status?, demultiplex (resultsOf failingSets status?) =
      .ok ⟨400, .list [.record [("id", .int 5)], .list []]⟩ := by
  have readZero : (Value.text "0").toInteger = .ok 0 := by decide
  have answer : demultiplex (resultsOf failingSets none) =
      .ok ⟨400, .list [.record [("id", .int 5)], .list []]⟩ := by
    rfl
  obtain ⟨found, isAnswer, answered, -⟩ := exists_isAnswer failingSets (by
    rintro row same -
    obtain rfl := Option.some.inj same
    exact ⟨0, readZero⟩)
  obtain rfl := Except.ok.inj ((answered none).symm.trans answer)
  exact ⟨⟨0, readZero⟩, isAnswer, answered⟩

end Call
end RoutineGate
