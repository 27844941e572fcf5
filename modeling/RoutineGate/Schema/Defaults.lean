import RoutineGate.Schema.Validation

/-!
# Defaults

After validation the fields of records that were left out take their defaults, in lists
and below registered schemas too, and also within the defaults themselves.  Alternatives
of unions are left alone.
-/

namespace RoutineGate
namespace Schema

mutual

/-- Fills in the defaults of the records that a schema describes. -/
def fill : Schema Value → Value → Value
  | .array _ item, .list items => .list (items.map (fill item))
  | .object _ fields, .record entries => .record (fillFields fields entries)
  | .custom _ _ inner, value => fill inner value
  | _, value => value

/-- Fills in the defaults of fields; a field that is left out goes to the end. -/
def fillFields : List (String × Schema Value) → List (String × Value) → List (String × Value)
  | [], entries => entries
  | (key, field) :: fields, entries =>
      fillFields fields <|
        match entries.lookup key with
        | some value => Value.put key (fill field value) entries
        | none =>
            match field.effectiveDefault with
            | some default => Value.put key (fill field default) entries
            | none => entries

end

/-- The traits of a record schema without any. -/
def plainTraits : Traits Value := {}

/-- The dump of an accepted record, with defaults. -/
def finish (fields : List (String × Schema Value)) : Instance → Value
  | .record _ _ dumped => .record (fillFields fields dumped)
  | accepted => accepted.plain

/-- Validates a record by the fields of a named model, and dumps it with defaults. -/
def validateModel (model : String) (fields : List (String × Schema Value)) (value : Value) :
    Except Refusal Value :=
  match value with
  | .record entries =>
      match assemble (buildRecord [] fields) (validateFields [] 0 fields entries {}) with
      | .ok (accepted, _) => .ok (finish fields accepted)
      | .error refusal => .error refusal
  | _ => .error (.ofViolation (.notRecord model))

end Schema
end RoutineGate
