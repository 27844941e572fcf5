import RoutineGate.Call.Arguments
import RoutineGate.Proofs.Json.RoundTrip

/-!
# Arguments passed as text

A list or a record is passed as the text that stands for it.  So it is passed without loss: the
text is read back as the same value, and different values are passed as different texts.
-/

namespace RoutineGate
namespace Call

/-- Whether a value is passed as text: lists and records are. -/
def IsEncoded : Value → Prop
  | .list _ | .record _ => True
  | _ => False

theorem encodeArgument_of_isEncoded
    {value : Value}
    (encoded : IsEncoded value) :
    encodeArgument value = (Json.print true value).map .text := by
  cases value with
  | list items => rfl
  | record entries => rfl
  | _ => exact absurd encoded id

/-- Lists and records of plain data are passed as text that stands for them. -/
theorem exists_encodeArgument_eq
    {value : Value}
    (encoded : IsEncoded value)
    (plain : value.isPlain = true) :
    ∃ text, encodeArgument value = .ok (.text text) ∧ Json.Represents value text.toList := by
  have isOk := Json.isOk_write value
  rw [Value.isData_of_isPlain plain] at isOk
  cases written : Json.write true value with
  | error fault =>
      rw [written] at isOk
      exact absurd isOk Bool.false_ne_true
  | ok chars =>
      refine ⟨String.ofList chars, ?_, ?_⟩
      · rw [encodeArgument_of_isEncoded encoded, Json.print, written]
        rfl
      · rw [String.toList_ofList]
        exact Json.represents_of_write value plain written

/--
The text that is passed for plain data is read as the same value, it holds no control character,
and no other plain value is passed as this text.
-/
theorem encodeArgument_faithful
    {value : Value}
    (encoded : IsEncoded value)
    (plain : value.isPlain = true) :
    ∃ text, encodeArgument value = .ok (.text text) ∧
      Json.parse text.toList = .ok value ∧
      (∀ char ∈ text.toList, 0x20 ≤ char.toNat) ∧
      ∀ other, IsEncoded other → other.isPlain = true →
        encodeArgument other = .ok (.text text) → other = value := by
  obtain ⟨text, passed, represents⟩ := exists_encodeArgument_eq encoded plain
  have read := Json.parse_of_represents represents
  refine ⟨text, passed, read, represents.isPrintable, fun other otherEncoded otherPlain same => ?_⟩
  obtain ⟨otherText, otherPassed, otherRepresents⟩ :=
    exists_encodeArgument_eq otherEncoded otherPlain
  obtain rfl := Value.text.inj (Except.ok.inj (otherPassed.symm.trans same))
  exact Except.ok.inj ((Json.parse_of_represents otherRepresents).symm.trans read)

/-- Data with a bit of everything that is hard to tell apart. -/
def hardArgument : Value :=
  .record [
    ("numbers", .list [.int 1, .float (.finite false 0x10000000000000 (-52)), .bool true,
      .float (.finite true 0 (-1074)), .int (-10 ^ 40),
      .float (.finite false 0x1FFFFFFFFFFFFF 971), .float (.finite false 1 (-1074)),
      .float (.infinite true)]),
    ("", .record [("quote \" backslash \\ break \n", .text "null"), ("null", .null)]),
    ("none", .list [.list [], .record []])]

theorem encodeArgument_faithful_hardArgument :
    IsEncoded hardArgument ∧ hardArgument.isPlain = true ∧
      ∃ text, encodeArgument hardArgument = .ok (.text text) ∧
        Json.parse text.toList = .ok hardArgument ∧
        (∀ char ∈ text.toList, 0x20 ≤ char.toNat) ∧
        ∀ other, IsEncoded other → other.isPlain = true →
          encodeArgument other = .ok (.text text) → other = hardArgument := by
  have plain : hardArgument.isPlain = true := by decide +kernel
  exact ⟨trivial, plain, encodeArgument_faithful trivial plain⟩

end Call
end RoutineGate
