import RoutineGate.Value.Basic

/-!
# Payloads

A payload is what of a value goes into a response: the status of a call becomes a record,
and entries under keys that are reserved for bookkeeping are left out.
-/

namespace RoutineGate
namespace Json

/-- What reserved keys start with. -/
def reservedStart : String := "_sa"

def isReserved (key : String) : Bool :=
  reservedStart.toList.isPrefixOf key.toList

/-- The status of a call as a record. -/
def statusRecord (affectedRows : Int) (lastInsertId : Option Int) : Value :=
  .record [("affected_rows", .int affectedRows),
    ("last_insert_id", (lastInsertId.map .int).getD .null)]

mutual

def payload : Value → Value
  | .list items => .list (payloadItems items)
  | .record entries => .record (payloadEntries entries)
  | .status affectedRows lastInsertId => statusRecord affectedRows lastInsertId
  | value => value

def payloadItems : List Value → List Value
  | [] => []
  | item :: items => payload item :: payloadItems items

/-- The payloads of the entries of a record. -/
def payloadEntries : List (String × Value) → List (String × Value)
  | [] => []
  | (key, value) :: entries =>
      if isReserved key then payloadEntries entries
      else (key, payload value) :: payloadEntries entries

end

/-- No reserved key remains. -/
theorem isReserved_of_mem_payloadEntries
    {entries : List (String × Value)}
    {entry : String × Value}
    (kept : entry ∈ payloadEntries entries) :
    isReserved entry.1 = false := by
  induction entries with
  | nil => simp [payloadEntries] at kept
  | cons head entries inductionHypothesis =>
      obtain ⟨key, value⟩ := head
      simp only [payloadEntries] at kept
      split at kept
      · exact inductionHypothesis kept
      · next plain =>
          rcases List.mem_cons.1 kept with rfl | later
          · simpa using plain
          · exact inductionHypothesis later

end Json
end RoutineGate
