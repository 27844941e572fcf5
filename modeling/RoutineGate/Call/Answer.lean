import RoutineGate.Text.Blank
import RoutineGate.Text.Split
import RoutineGate.Value.Display
import RoutineGate.Value.Integer

/-!
# Answers of a call

A call gives several sets of rows and a status.  If the first row of the first set says
so, that set is an envelope: it is taken off, and its first row tells the status of the
answer and how the other sets are shaped.
-/

namespace RoutineGate
namespace Call

/-- What a call comes to. -/
structure Answer where
  status : Int
  payload : Value

/-- The column that marks an envelope. -/
def markColumn : String := "#RESULT#"

/-- The descriptor of a set of which only the first row counts. -/
def objectDescriptor : String := "object"

/-- What the first row of an envelope tells. -/
structure Envelope where
  status : Option Int := none
  error : Bool := false
  success : Bool := false
  message : Option String := none
  /-- The descriptors of the sets, between commas. -/
  schema : Option String := none
  deriving DecidableEq, Repr

namespace Envelope

/-- A column of a row; a missing one is null. -/
def column (row : List (String × Value)) (name : String) : Value :=
  (row.lookup name).getD .null

/-- The status that a column tells. -/
def readStatus (value : Value) : Except Fault (Option Int) :=
  if value.isTruthy then value.toInteger.map some else .ok none

/-- What a row tells. -/
def ofRow (row : List (String × Value)) : Except Fault Envelope := do
  let status ← readStatus (column row "status")
  let schema := column row "schema"
  return {
    status
    error := (column row "error").isTruthy
    success := (column row "success").isTruthy
    message := (column row "message").nonNull?.map Value.plain
    schema := if schema.isTruthy then some schema.plain else none
  }

/-- The descriptors of the sets. -/
def descriptors (envelope : Envelope) : List String :=
  match envelope.schema with
  | none => []
  | some schema =>
      if schema.isEmpty then []
      else
        (Text.splitAt ',' schema.toList).map fun piece => String.ofList (Text.trim piece)

/-- The payload of a failure. -/
def failure (envelope : Envelope) : Value :=
  .record [("error", .bool envelope.error), ("success", .bool envelope.success),
    ("message", (envelope.message.map .text).getD .null)]

/-- The status of the answer: the told one, or else whether the call has failed decides. -/
def answerStatus (envelope : Envelope) : Int :=
  match envelope.status with
  | some status =>
      if status ≠ 0 then status else if envelope.error then 400 else 200
  | none => if envelope.error then 400 else 200

end Envelope

/-- Takes off the status that a call ends with. -/
def dropStatus (results : List Value) : List Value :=
  match results.getLast? with
  | some (.status ..) => results.dropLast
  | _ => results

/-- The first row of an envelope, if the first of the sets is one, and the other sets. -/
def takeEnvelope? : List Value → Option (List (String × Value) × List Value)
  | .list (.record row :: _) :: sets =>
      if (Envelope.column row markColumn).isTruthy then some (row, sets) else none
  | _ => none

def firstPart : Value → Except Fault Value
  | .list (item :: _) => .ok item
  | .text content => .ok (.text (String.ofList (content.toList.take 1)))
  | .record _ => .error .missingIndex
  | value => .error (.notIndexable value.typeName)

def shape (descriptor : String) (set? : Option Value) : Except Fault Value :=
  let set := set?.getD .null
  if descriptor = objectDescriptor then
    if set.isTruthy then firstPart set else .ok .null
  else .ok (set.nonNull?.getD (.list []))

/-- Shapes sets by descriptors; a missing set is null. -/
def shapeAll : List String → List Value → Except Fault (List Value)
  | [], _ => .ok []
  | descriptor :: descriptors, sets => do
      let shaped ← shape descriptor sets.head?
      return shaped :: (← shapeAll descriptors sets.tail)

/-- The payload of shaped sets: a single one stands for itself. -/
def joinShaped : List Value → Value
  | [shaped] => shaped
  | shaped => .list shaped

/-- The answer to a call from its results. -/
def demultiplex (results : List Value) : Except Fault Answer :=
  let sets := dropStatus results
  match takeEnvelope? sets with
  | none => .ok { status := 200, payload := .list sets }
  | some (row, rest) => do
      let envelope ← Envelope.ofRow row
      let status := envelope.answerStatus
      match envelope.descriptors with
      | [] =>
          return { status, payload := if envelope.error then envelope.failure else .list rest }
      | descriptors =>
          return { status, payload := joinShaped (← shapeAll descriptors rest) }

@[simp] theorem dropStatus_append_status
    (sets : List Value)
    (affectedRows : Int)
    (lastInsertId : Option Int) :
    dropStatus (sets ++ [.status affectedRows lastInsertId]) = sets := by
  simp [dropStatus]

/-- As many sets are shaped as there are descriptors. -/
theorem length_of_shapeAll
    {descriptors : List String}
    {sets shaped : List Value}
    (done : shapeAll descriptors sets = .ok shaped) :
    shaped.length = descriptors.length := by
  induction descriptors generalizing sets shaped with
  | nil =>
      obtain rfl : [] = shaped := by simpa [shapeAll] using done
      rfl
  | cons descriptor descriptors inductionHypothesis =>
      simp only [shapeAll, bind, Except.bind, pure, Except.pure] at done
      split at done
      · simp at done
      · split at done
        · simp at done
        · next rest restDone =>
            obtain rfl : _ :: rest = shaped := by simpa using done
            simp [inductionHypothesis restDone]

end Call
end RoutineGate
