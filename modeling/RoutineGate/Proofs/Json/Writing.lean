import RoutineGate.Json.Printer

/-!
# What has a written form

Exactly data has a written form: scalars, and lists and records of data.  Schemas, reports
of calls and what the expression language offers besides have none.
-/

namespace RoutineGate

namespace Value

mutual

/-- Whether a value is data: a scalar, or a list or a record of data. -/
def isData : Value → Bool
  | .null | .bool _ | .int _ | .float _ | .text _ => true
  | .list items => areData items
  | .record entries => holdData entries
  | _ => false

/-- Whether all items are data. -/
def areData : List Value → Bool
  | [] => true
  | item :: items => item.isData && areData items

/-- Whether the values of all entries are data. -/
def holdData : List (String × Value) → Bool
  | [] => true
  | (_, value) :: entries => value.isData && holdData entries

end

end Value

namespace Json

open Value (isData areData holdData)

mutual

/-- Exactly data has a written form. -/
theorem isOk_write : (value : Value) → (write true value).isOk = value.isData
  | .null => rfl
  | .bool _ => rfl
  | .int _ => rfl
  | .float number => by cases number <;> rfl
  | .text _ => rfl
  | .list items => by
      rw [write, isData, ← isOk_writeItems items]
      cases writeItems true items <;> rfl
  | .record entries => by
      rw [write, isData, ← isOk_writeEntries entries]
      cases writeEntries true entries <;> rfl
  | .status .. => rfl
  | .schema _ => rfl
  | .builder => rfl
  | .coercions => rfl
  | .validators => rfl
  | .method .. => rfl
  | .validator .. => rfl

/-- Exactly items that are data have a written form. -/
theorem isOk_writeItems : (items : List Value) → (writeItems true items).isOk = areData items
  | [] => rfl
  | [item] => by
      rw [writeItems, areData, areData, Bool.and_true, isOk_write item]
  | item :: next :: items => by
      rw [writeItems, areData, ← isOk_write item, ← isOk_writeItems (next :: items)]
      cases write true item with
      | error fault => rfl
      | ok head => cases writeItems true (next :: items) <;> rfl

/-- Exactly entries that hold data have a written form. -/
theorem isOk_writeEntries :
    (entries : List (String × Value)) → (writeEntries true entries).isOk = holdData entries
  | [] => rfl
  | [(key, value)] => by
      rw [writeEntries, holdData, holdData, Bool.and_true, ← isOk_write value]
      cases write true value <;> rfl
  | (key, value) :: next :: entries => by
      rw [writeEntries, holdData, ← isOk_write value, ← isOk_writeEntries (next :: entries)]
      cases write true value with
      | error fault => rfl
      | ok head => cases writeEntries true (next :: entries) <;> rfl

end

end Json
end RoutineGate
