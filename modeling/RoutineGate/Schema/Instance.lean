import RoutineGate.Schema.Member

/-!
# Instances

An instance is an accepted value.  Records remember which object schema accepted them,
so that a union can tell which of its alternatives an instance belongs to.  The dump of
an instance is the value that is passed on: numbers that are no integers by schema are
floating point numbers again, and only what was sent is there.
-/

namespace RoutineGate
namespace Schema

/-- An accepted value. -/
inductive Instance where
  /-- A value without accepted parts. -/
  | value (value : Value)
  | list (items : List Instance)
  /--
  A record with its accepted entries, the way to the schema that accepted it, and its
  dump by that schema.
  -/
  | record (way : List Nat) (entries : List (String × Instance)) (dumped : List (String × Value))

instance : Inhabited Instance := ⟨.value .null⟩

mutual

/-- A value of any type as it is passed on: infinite and undefined numbers have no place. -/
def plainValue : Value → Value
  | .float decimal => if decimal.isFinite then .float decimal else .null
  | .list items => .list (plainItems items)
  | .record entries => .record (plainEntries entries)
  | .status affectedRows lastInsertId =>
      .record [("affected_rows", .int affectedRows),
        ("last_insert_id", match lastInsertId with
          | some identifier => .int identifier
          | none => .null)]
  | value => value

/-- The items of a list as they are passed on. -/
def plainItems : List Value → List Value
  | [] => []
  | item :: items => plainValue item :: plainItems items

/-- The entries of a record as they are passed on. -/
def plainEntries : List (String × Value) → List (String × Value)
  | [] => []
  | (key, value) :: entries => (key, plainValue value) :: plainEntries entries

end

/-- How closely an instance must match a schema that dumps it. -/
inductive Match where
  /-- The schema accepted the instance. -/
  | assured
  /-- The types must be the same. -/
  | strict
  /-- An integer may stand for a number. -/
  | lax
  deriving DecidableEq, Repr

namespace Instance

/-- Whether an instance is the absent value. -/
def isNull : Instance → Bool
  | .value .null => true
  | _ => false

mutual

/-- The dump of an instance without a schema. -/
def plain : Instance → Value
  | .value accepted => plainValue accepted
  | .list items => .list (plainAll items)
  | .record _ _ dumped => .record dumped

/-- The dumps of several instances without a schema. -/
def plainAll : List Instance → List Value
  | [] => []
  | item :: items => item.plain :: plainAll items

end

/-- What becomes of an instance that a schema does not describe. -/
def unmatched (mode : Match) (accepted : Instance) : Option Value :=
  if mode = .assured then some accepted.plain else none

/-- Dumps all items, or none. -/
def dumpItems (dumpItem : Instance → Option Value) : List Instance → Option (List Value)
  | [] => some []
  | item :: items =>
      match dumpItem item, dumpItems dumpItem items with
      | some dumped, some rest => some (dumped :: rest)
      | _, _ => none

end Instance

/-- The dump of a scalar by the schema of a number. -/
def dumpNumber (mode : Match) : Value → Option Value
  | .float decimal => some (.float decimal)
  | .int whole => if mode = .strict then none else some (.float (Binary64.ofInt whole))
  | value => Instance.unmatched mode (.value value)

/-- The dump of an instance by the schema of a literal or an enumeration. -/
def dumpMember (mode : Match) (values : List Value) (accepted : Instance) : Option Value :=
  match accepted with
  | .value value =>
      if mode = .assured ∨ isMember values value then some (plainValue value) else none
  | _ => accepted.unmatched mode

mutual

/-- Whether a schema accepts records somewhere below its unions and lists. -/
def hasRecords : Schema Value → Bool
  | .object .. => true
  | .array _ item => item.hasRecords
  | .custom _ _ inner => inner.hasRecords
  | .union _ options => anyHasRecords options
  | _ => false

/-- Whether one of several schemas accepts records. -/
def anyHasRecords : List (Schema Value) → Bool
  | [] => false
  | option :: options => option.hasRecords || anyHasRecords options

end

end Schema
end RoutineGate
