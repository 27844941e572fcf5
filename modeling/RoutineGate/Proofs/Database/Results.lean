import RoutineGate.Call.Answer
import RoutineGate.Database.Connection
import RoutineGate.Proofs.Traversal

/-!
# What a call returns

A call returns the sets of rows of its results in their order, and then a status.  Its answer
is decided by the sets of rows: results that only count, and what the status tells, do not
matter.
-/

namespace RoutineGate

/-! ## The sets of rows -/

namespace Database

variable {results : List StatementResult} {lastInsertId : Option Int}

/-- From a cursor on, the sets of rows are added in order, and then one status. -/
theorem Cursor.exists_collect_eq
    (cursor : Cursor)
    (collected : List Value) :
    ∃ affectedRows, cursor.collect lastInsertId collected results =
      collected ++ (cursor.current :: results).filterMap rowSet? ++
        [.status affectedRows lastInsertId] := by
  induction results generalizing cursor collected with
  | nil =>
      refine ⟨cursor.rowCount, ?_⟩
      rw [collect]
      cases here : rowSet? cursor.current <;> simp [here]
  | cons result results inductionHypothesis =>
      obtain ⟨affectedRows, continued⟩ := inductionHypothesis (cursor.moveTo result)
        (collected ++ (rowSet? cursor.current).toList)
      refine ⟨affectedRows, ?_⟩
      rw [collect, continued]
      cases here : rowSet? cursor.current <;> simp [moveTo, here]

/-- The returned values are the sets of rows in order, and then one status. -/
theorem exists_returnedValues_eq
    (results : List StatementResult)
    (lastInsertId : Option Int) :
    ∃ affectedRows, returnedValues results lastInsertId =
      results.filterMap rowSet? ++ [.status affectedRows lastInsertId] :=
  Cursor.start.exists_collect_eq []

end Database

/-! ## The answer -/

/-- A value is a status, or one is somewhere within it. -/
inductive Value.HoldsStatus : Value → Prop
  | status (affectedRows : Int) (lastInsertId : Option Int) :
      HoldsStatus (.status affectedRows lastInsertId)
  | item {items : List Value} {item : Value}
      (listed : item ∈ items)
      (holds : HoldsStatus item) :
      HoldsStatus (.list items)
  | entry {entries : List (String × Value)} {key : String} {value : Value}
      (listed : (key, value) ∈ entries)
      (holds : HoldsStatus value) :
      HoldsStatus (.record entries)

theorem Value.holdsStatus_list_iff
    {items : List Value} :
    (Value.list items).HoldsStatus ↔ ∃ item ∈ items, item.HoldsStatus := by
  constructor
  · rintro (_ | ⟨listed, holds⟩ | _)
    exact ⟨_, listed, holds⟩
  · rintro ⟨item, listed, holds⟩
    exact .item listed holds

namespace Call

/-- The status that follows the sets of rows does not matter for the answer. -/
theorem demultiplex_append_status
    (sets : List Value)
    (affectedRows otherRows : Int)
    (lastInsertId otherId : Option Int) :
    demultiplex (sets ++ [.status affectedRows lastInsertId]) =
      demultiplex (sets ++ [.status otherRows otherId]) := by
  unfold demultiplex
  rw [dropStatus_append_status, dropStatus_append_status]

/-- The first part of a value holds a status only if the value does. -/
theorem holdsStatus_of_firstPart
    {value first : Value}
    (done : firstPart value = .ok first)
    (holds : first.HoldsStatus) :
    value.HoldsStatus := by
  unfold firstPart at done
  split at done
  · obtain rfl := Except.ok.inj done
    exact .item List.mem_cons_self holds
  · obtain rfl := Except.ok.inj done
    cases holds
  · exact absurd done (by simp)
  · exact absurd done (by simp)

/-- A shaped set holds a status only if the set does. -/
theorem exists_holdsStatus_of_shape
    {descriptor : String}
    {set? : Option Value}
    {shaped : Value}
    (done : shape descriptor set? = .ok shaped)
    (holds : shaped.HoldsStatus) :
    ∃ set, set? = some set ∧ set.HoldsStatus := by
  have within : (set?.getD .null).HoldsStatus := by
    unfold shape at done
    dsimp only at done
    split at done
    · split at done
      · exact holdsStatus_of_firstPart done holds
      · obtain rfl := Except.ok.inj done
        cases holds
    · obtain rfl := Except.ok.inj done
      cases set : set?.getD .null with
      | null =>
          rw [set] at holds
          obtain ⟨item, listed, -⟩ := Value.holdsStatus_list_iff.mp holds
          exact absurd listed List.not_mem_nil
      | _ =>
          rw [set] at holds
          exact holds
  cases set? with
  | none => cases within
  | some set => exact ⟨set, rfl, within⟩

/-- Shaped sets hold a status only if one of the sets does. -/
theorem exists_holdsStatus_of_shapeAll
    {descriptors : List String}
    {sets shaped : List Value}
    (done : shapeAll descriptors sets = .ok shaped)
    {value : Value}
    (listed : value ∈ shaped)
    (holds : value.HoldsStatus) :
    ∃ set ∈ sets, set.HoldsStatus := by
  induction descriptors generalizing sets shaped with
  | nil =>
      obtain rfl := Except.ok.inj done
      exact absurd listed List.not_mem_nil
  | cons descriptor descriptors inductionHypothesis =>
      rw [shapeAll] at done
      obtain ⟨first, here, rest, others, same⟩ := by
        simpa only [bind_eq_ok_iff] using done
      obtain rfl : first :: rest = shaped := Except.ok.inj same
      obtain rfl | later := List.mem_cons.mp listed
      · obtain ⟨set, head, within⟩ := exists_holdsStatus_of_shape here holds
        exact ⟨set, List.mem_of_mem_head? head, within⟩
      · obtain ⟨set, member, within⟩ := inductionHypothesis others later
        exact ⟨set, List.mem_of_mem_tail member, within⟩

/-- The sets after an envelope are among those with it. -/
theorem takeEnvelope?_eq_some
    {sets rest : List Value}
    {row : List (String × Value)}
    (taken : takeEnvelope? sets = some (row, rest)) :
    ∃ first, sets = first :: rest := by
  unfold takeEnvelope? at taken
  split at taken
  · next row' rows sets =>
      split at taken
      · obtain ⟨-, rfl⟩ := Prod.mk.inj (Option.some.inj taken)
        exact ⟨_, rfl⟩
      · exact absurd taken (by simp)
  · exact absurd taken (by simp)

/-- A failure tells words and truth values. -/
theorem not_holdsStatus_failure (envelope : Envelope) : ¬envelope.failure.HoldsStatus := by
  unfold Envelope.failure
  rintro (_ | _ | ⟨listed, holds⟩)
  simp only [List.mem_cons, Prod.mk.injEq, List.not_mem_nil, or_false] at listed
  obtain ⟨-, rfl⟩ | ⟨-, rfl⟩ | ⟨-, rfl⟩ := listed
  · cases holds
  · cases holds
  · cases message : envelope.message with
    | none =>
        rw [message] at holds
        cases holds
    | some content =>
        rw [message] at holds
        cases holds

theorem exists_holdsStatus_of_joinShaped
    {shaped : List Value}
    (holds : (joinShaped shaped).HoldsStatus) :
    ∃ value ∈ shaped, value.HoldsStatus := by
  unfold joinShaped at holds
  split at holds
  · exact ⟨_, List.mem_singleton_self _, holds⟩
  · exact Value.holdsStatus_list_iff.mp holds

/-- A payload holds a status only if one of the sets does; the one after them is not in it. -/
theorem exists_holdsStatus_of_demultiplex
    {sets : List Value}
    {affectedRows : Int}
    {lastInsertId : Option Int}
    {answer : Answer}
    (answered : demultiplex (sets ++ [.status affectedRows lastInsertId]) = .ok answer)
    (holds : answer.payload.HoldsStatus) :
    ∃ set ∈ sets, set.HoldsStatus := by
  unfold demultiplex at answered
  rw [dropStatus_append_status] at answered
  dsimp only at answered
  split at answered
  · obtain rfl := Except.ok.inj answered
    exact Value.holdsStatus_list_iff.mp holds
  · next row rest taken =>
      obtain ⟨first, rfl⟩ := takeEnvelope?_eq_some taken
      obtain ⟨envelope, -, answered⟩ := bind_eq_ok_iff.mp answered
      have shapedAfter : ∀ {value}, (∃ set ∈ rest, set.HoldsStatus) →
          ∃ set ∈ value :: rest, set.HoldsStatus := by
        rintro value ⟨set, member, within⟩
        exact ⟨set, List.mem_cons_of_mem value member, within⟩
      split at answered
      · obtain rfl := Except.ok.inj answered
        dsimp only at holds
        split at holds
        · exact absurd holds (not_holdsStatus_failure envelope)
        · exact shapedAfter (Value.holdsStatus_list_iff.mp holds)
      · obtain ⟨shaped, done, answered⟩ := bind_eq_ok_iff.mp answered
        obtain rfl := Except.ok.inj answered
        obtain ⟨value, listed, within⟩ := exists_holdsStatus_of_joinShaped holds
        exact shapedAfter (exists_holdsStatus_of_shapeAll done listed within)

end Call

namespace Database

/--
A call returns the sets of rows among its results, in order, and one status.  Results with the
same sets of rows have the same answer, and the payload holds a status only if a row does.
-/
theorem answers_rowSets
    {World : Type}
    {connection : Connection World}
    {procedure : String}
    {arguments : List Value}
    {world after : World}
    {results : List StatementResult}
    {lastInsertId : Option Int}
    (ran : connection ⟨callStatement procedure arguments.length, arguments⟩ world =
      (.results results lastInsertId, after))
    (database start : String) :
    ∃ values,
      (ofConnection connection database start).call procedure arguments world =
        (.ok values, after) ∧
      (∃ affectedRows, values =
        results.filterMap rowSet? ++ [.status affectedRows lastInsertId]) ∧
      (∀ others otherId, others.filterMap rowSet? = results.filterMap rowSet? →
        Call.demultiplex (returnedValues others otherId) = Call.demultiplex values) ∧
      ∀ answer, Call.demultiplex values = .ok answer → answer.payload.HoldsStatus →
        ∃ set ∈ results.filterMap rowSet?, set.HoldsStatus := by
  obtain ⟨affectedRows, returned⟩ := exists_returnedValues_eq results lastInsertId
  refine ⟨returnedValues results lastInsertId, ?_, ⟨affectedRows, returned⟩, ?_, ?_⟩
  · simp only [ofConnection, bind, StateT.bind, ran]
    rfl
  · intro others otherId same
    obtain ⟨otherRows, otherReturned⟩ := exists_returnedValues_eq others otherId
    rw [returned, otherReturned, same]
    exact Call.demultiplex_append_status _ otherRows affectedRows otherId lastInsertId
  · intro answer answered holds
    rw [returned] at answered
    exact Call.exists_holdsStatus_of_demultiplex answered holds

/-- An envelope that asks for a record, a count, the set of rows for it, and another count. -/
def countedResults : List StatementResult :=
  [.rows [.record [("#RESULT#", .int 1), ("status", .int 201), ("schema", .text "object")]],
    .count 3, .rows [.record [("id", .int 5)]], .count 0]

/-- A connection that counts statements and gives counted results for each. -/
def countingConnection : Connection Nat :=
  fun _ statements => (.results countedResults (some 7), statements + 1)

/-- The answer to counted results is the one to their sets of rows. -/
theorem answers_rowSets_counted :
    ∃ values,
      (ofConnection countingConnection "d" "api_").call "api_post_x" [] 0 = (.ok values, 1) ∧
      (∃ affectedRows, values =
        [.list [.record [("#RESULT#", .int 1), ("status", .int 201),
          ("schema", .text "object")]], .list [.record [("id", .int 5)]],
          .status affectedRows (some 7)]) ∧
      Call.demultiplex (returnedValues [countedResults[0], countedResults[2]] none) =
        Call.demultiplex values := by
  have ran : countingConnection ⟨callStatement "api_post_x" ([] : List Value).length, []⟩ 0 =
      (.results countedResults (some 7), 1) := rfl
  obtain ⟨values, called, returned, answered, -⟩ := answers_rowSets ran "d" "api_"
  exact ⟨values, called, returned, answered _ none rfl⟩

end Database
end RoutineGate
