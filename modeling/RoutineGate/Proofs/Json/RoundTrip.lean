import RoutineGate.Proofs.Json.Reading
import RoutineGate.Proofs.Json.Writing
import RoutineGate.Proofs.Traversal

/-!
# Writing and reading back

Plain data is what JSON has a form of its own for.  The text that is written for it is read as
the same value.
-/

namespace RoutineGate

namespace Value

mutual

/--
Whether a value is data that JSON tells from all other data: integers have no more digits than
are converted, floating point numbers are those of the format without the undefined one, and no
two entries of a record have the same key.
-/
def isPlain : Value → Bool
  | .null | .bool _ | .text _ => true
  | .int number => Binary64.decimalLength number.natAbs ≤ Number.maxDigits
  | .float number => number.IsCanonical ∧ number ≠ .undefined
  | .list items => arePlain items
  | .record entries => decide (entries.map Prod.fst).Nodup && holdPlain entries
  | _ => false

/-- Whether all items are plain data. -/
def arePlain : List Value → Bool
  | [] => true
  | item :: items => item.isPlain && arePlain items

/-- Whether the values of all entries are plain data. -/
def holdPlain : List (String × Value) → Bool
  | [] => true
  | (_, value) :: entries => value.isPlain && holdPlain entries

end

mutual

theorem isData_of_isPlain : {value : Value} → value.isPlain = true → value.isData = true
  | .null, _ | .bool _, _ | .int _, _ | .float _, _ | .text _, _ => rfl
  | .list _, plain => areData_of_arePlain plain
  | .record _, plain => holdData_of_holdPlain (Bool.and_eq_true_iff.mp plain).2

theorem areData_of_arePlain : {items : List Value} → arePlain items = true → areData items = true
  | [], _ => rfl
  | _ :: _, plain =>
      let ⟨first, others⟩ := Bool.and_eq_true_iff.mp plain
      Bool.and_eq_true_iff.mpr ⟨isData_of_isPlain first, areData_of_arePlain others⟩

theorem holdData_of_holdPlain :
    {entries : List (String × Value)} → holdPlain entries = true → holdData entries = true
  | [], _ => rfl
  | (_, _) :: _, plain =>
      let ⟨first, others⟩ := Bool.and_eq_true_iff.mp plain
      Bool.and_eq_true_iff.mpr ⟨isData_of_isPlain first, holdData_of_holdPlain others⟩

end

end Value

namespace Json

open Value (isPlain arePlain holdPlain)

section Written

variable {allowSpecial : Bool}

theorem represents_of_writeFloat
    {number : Binary64}
    {chars : List Char}
    (canonical : number.IsCanonical)
    (isDefined : number ≠ .undefined)
    (written : writeFloat allowSpecial number = .ok chars) :
    Represents (.float number) chars := by
  cases number with
  | finite negative mantissa exponent =>
      obtain ⟨parts, text, value⟩ := NumberParts.exists_text_eq_text canonical
      obtain rfl := Except.ok.inj written
      rw [← text, ← value]
      refine represents_parts parts fun integer => ?_
      rw [NumberParts.value, if_pos integer] at value
      exact absurd value (by simp)
  | infinite negative =>
      rw [writeFloat] at written
      split at written
      · obtain rfl := Except.ok.inj written
        cases negative <;> exact represents_word (by simp [words])
      · exact absurd written (by simp)
  | undefined => exact absurd rfl isDefined

theorem represents_of_writeInt
    {number : Int}
    (few : Binary64.decimalLength number.natAbs ≤ Number.maxDigits) :
    Represents (.int number) (toString number).toList := by
  obtain ⟨parts, text, value, length⟩ := NumberParts.exists_text_eq_toString number
  rw [← text, ← value]
  exact represents_parts parts fun _ => length ▸ few

mutual

/-- What is written for plain data stands for it. -/
theorem represents_of_write : (value : Value) → {chars : List Char} → value.isPlain = true →
    write allowSpecial value = .ok chars → Represents value chars
  | .null, _, _, written => Except.ok.inj written ▸ represents_word (by simp [words])
  | .bool true, _, _, written => Except.ok.inj written ▸ represents_word (by simp [words])
  | .bool false, _, _, written => Except.ok.inj written ▸ represents_word (by simp [words])
  | .int _, _, plain, written =>
      Except.ok.inj written ▸ represents_of_writeInt (of_decide_eq_true plain)
  | .float _, _, plain, written =>
      represents_of_writeFloat (of_decide_eq_true plain).1 (of_decide_eq_true plain).2 written
  | .text content, _, _, written => Except.ok.inj written ▸ represents_text content
  | .list items, _, plain, written => by
      obtain ⟨inner, itemsWritten, done⟩ := bind_eq_ok_iff.mp written
      obtain rfl := Except.ok.inj done
      obtain rfl | represents := representsItems_of_writeItems items plain itemsWritten
      · exact Except.ok.inj itemsWritten ▸ represents_nil
      · exact represents_list represents
  | .record entries, _, plain, written => by
      obtain ⟨distinct, others⟩ := Bool.and_eq_true_iff.mp plain
      obtain ⟨inner, entriesWritten, done⟩ := bind_eq_ok_iff.mp written
      obtain rfl := Except.ok.inj done
      obtain rfl | represents := representsEntries_of_writeEntries entries others entriesWritten
      · exact Except.ok.inj entriesWritten ▸ represents_noEntry
      · exact represents_record (of_decide_eq_true distinct) represents

/-- What is written for items stands for them, if there are any. -/
theorem representsItems_of_writeItems : (items : List Value) → {chars : List Char} →
    arePlain items = true → writeItems allowSpecial items = .ok chars →
      items = [] ∨ RepresentsItems items chars
  | [], _, _, _ => .inl rfl
  | [item], _, plain, written =>
      .inr (representsItems_singleton
        (represents_of_write item (Bool.and_eq_true_iff.mp plain).1 written))
  | item :: next :: items, _, plain, written => by
      obtain ⟨first, others⟩ := Bool.and_eq_true_iff.mp plain
      obtain ⟨head, headWritten, restWritten⟩ := bind_eq_ok_iff.mp written
      obtain ⟨rest, itemsWritten, done⟩ := bind_eq_ok_iff.mp restWritten
      obtain rfl := Except.ok.inj done
      have represents := representsItems_of_writeItems (next :: items) others itemsWritten
      exact .inr (representsItems_cons (represents_of_write item first headWritten)
        (represents.resolve_left (List.cons_ne_nil _ _)))

/-- What is written for entries stands for them, if there are any. -/
theorem representsEntries_of_writeEntries : (entries : List (String × Value)) →
    {chars : List Char} → holdPlain entries = true →
    writeEntries allowSpecial entries = .ok chars →
      entries = [] ∨ RepresentsEntries entries chars
  | [], _, _, _ => .inl rfl
  | [(key, value)], _, plain, written => by
      obtain ⟨head, headWritten, done⟩ := bind_eq_ok_iff.mp written
      obtain rfl := Except.ok.inj done
      exact .inr (representsEntries_singleton
        (represents_of_write value (Bool.and_eq_true_iff.mp plain).1 headWritten))
  | (key, value) :: next :: entries, _, plain, written => by
      obtain ⟨first, others⟩ := Bool.and_eq_true_iff.mp plain
      obtain ⟨head, headWritten, restWritten⟩ := bind_eq_ok_iff.mp written
      obtain ⟨rest, entriesWritten, done⟩ := bind_eq_ok_iff.mp restWritten
      obtain rfl := Except.ok.inj done
      have represents := representsEntries_of_writeEntries (next :: entries) others entriesWritten
      exact .inr (representsEntries_cons (represents_of_write value first headWritten)
        (represents.resolve_left (List.cons_ne_nil _ _)))

end

/-- What stands for a value is read as the value. -/
theorem parse_of_represents
    {value : Value}
    {chars : List Char}
    (represents : Represents value chars) :
    parse chars = .ok value := by
  have none : EndsNumber [] := fun char member => by cases member
  have read := represents.reads (2 * chars.length + 2) [] (by omega) none
  obtain ⟨first, others, rfl, notSpace, -⟩ := represents.starts
  rw [List.append_nil] at read
  rw [parse, skipSpace_cons notSpace, read]
  rfl

end Written

end Json
end RoutineGate
