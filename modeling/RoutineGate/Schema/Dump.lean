import RoutineGate.Schema.Alternatives
import RoutineGate.Schema.Instance

/-!
# Dumping instances

A union dumps an instance by the first alternative that matches it strictly.  If records
are among the alternatives it then tries them again more loosely, and at last the instance
is dumped as it is.
-/

namespace RoutineGate
namespace Schema

/-- Puts a dumped value before others. -/
def consDump (key : String) (dumped : Option Value) (rest : Option (List (String × Value))) :
    Option (List (String × Value)) :=
  match dumped, rest with
  | some value, some entries => some ((key, value) :: entries)
  | _, _ => none

mutual

/-- The dump of an instance by a schema, if they match. -/
def dump (mode : Match) (way : List Nat) (schema : Schema Value) (accepted : Instance) :
    Option Value :=
  if schema.acceptsNullHere && accepted.isNull then some .null
  else
    match schema with
    | .any _ => some accepted.plain
    | .string .. =>
        match accepted with
        | .value (.text content) => some (.text content)
        | _ => accepted.unmatched mode
    | .number _ integer _ =>
        match accepted with
        | .value value =>
            if integer then
              match value with
              | .int whole => some (.int whole)
              | _ => accepted.unmatched mode
            else dumpNumber mode value
        | _ => accepted.unmatched mode
    | .boolean .. =>
        match accepted with
        | .value (.bool flag) => some (.bool flag)
        | _ => accepted.unmatched mode
    | .literal _ value => dumpMember mode [value] accepted
    | .enumeration _ values => dumpMember mode values accepted
    | .array _ item =>
        match accepted with
        | .list items => (Instance.dumpItems (dump mode (0 :: way) item) items).map .list
        | _ => accepted.unmatched mode
    | .object _ fields =>
        match accepted with
        | .record origin entries _ =>
            if origin = way then (dumpFields mode way 0 fields entries).map .record
            else accepted.unmatched mode
        | _ => accepted.unmatched mode
    | .union _ options =>
        let kept := alternatives options
        if kept.length = 1 then dumpFirst mode way kept 0 options accepted
        else
          let strictly := dumpFirst .strict way kept 0 options accepted
          let loosely :=
            if mode = .lax || (mode = .assured && anyHasRecords options) then
              dumpFirst .lax way kept 0 options accepted
            else none
          (strictly.or loosely).or (accepted.unmatched mode)
    | .custom _ _ inner => dump mode way inner accepted

/-- The dumps of the entries that fields describe, in the order of the fields. -/
def dumpFields (mode : Match) (way : List Nat) (position : Nat) :
    List (String × Schema Value) → List (String × Instance) →
      Option (List (String × Value))
  | [], _ => some []
  | (key, field) :: fields, entries =>
      let rest := dumpFields mode way (position + 1) fields entries
      match entries.lookup key with
      | some accepted => consDump key (dump mode (position :: way) field accepted) rest
      | none => rest

/-- The dump by the first of the options at some positions that matches. -/
def dumpFirst (mode : Match) (way kept : List Nat) (position : Nat) :
    List (Schema Value) → Instance → Option Value
  | [], _ => none
  | option :: options, accepted =>
      if kept.contains position then
        (dump mode (position :: way) option accepted).or
          (dumpFirst mode way kept (position + 1) options accepted)
      else dumpFirst mode way kept (position + 1) options accepted

end

end Schema
end RoutineGate
