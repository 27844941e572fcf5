import RoutineGate.Expression.Evaluation
import RoutineGate.Proofs.Expression.Reading
import RoutineGate.Proofs.Number.Digits
import RoutineGate.Proofs.Traversal

/-!
# Literals that scanning does not report

Scanning an expression ends with a problem of the expression, but for two kinds of literals: an
integer of too many digits, and a pattern whose reading does not end with a problem of the
pattern: a bound of it is too large or has too many digits, or its flags exclude each other.
-/

namespace RoutineGate
namespace Expression
namespace Token

/-- A literal whose reading ends with a fault, and that fault. -/
inductive IsFaulty (characters : Text.CharacterNames) : Kind → List Char → Fault → Prop
  | integer {digits : List Char}
      (decimal : ∀ char ∈ digits, Text.isDecimal char = true)
      (many : Number.maxDigits < digits.length) :
      IsFaulty characters .number digits (.integer (.tooManyDigits digits.length))
  | repetition {body flags : List Char}
      (known : ∀ flag ∈ flags, flag ∈ patternFlags)
      (refused : Pattern.read (flagged body flags) characters = .error .largeRepetition) :
      IsFaulty characters (.pattern body.length) ('/' :: (body ++ '/' :: flags)) .largeRepetition
  | bound {body flags : List Char} {error : Number.IntegerError}
      (known : ∀ flag ∈ flags, flag ∈ patternFlags)
      (refused : Pattern.read (flagged body flags) characters = .error (.integer error)) :
      IsFaulty characters (.pattern body.length) ('/' :: (body ++ '/' :: flags)) (.integer error)
  | exclusive {body flags : List Char}
      (known : ∀ flag ∈ flags, flag ∈ patternFlags)
      (refused : Pattern.read (flagged body flags) characters = .error .exclusiveFlags) :
      IsFaulty characters (.pattern body.length) ('/' :: (body ++ '/' :: flags)) .exclusiveFlags

variable {characters : Text.CharacterNames}

theorem take_runLength (test : Char → Bool) (chars : List Char) :
    chars.take (runLength test chars) = chars.takeWhile test := by
  induction chars with
  | nil => rfl
  | cons char rest inductionHypothesis =>
      cases passes : test char <;> simp [runLength, passes, inductionHypothesis]

/-- A pattern ends with a slash. -/
theorem exists_body_of_patternLength?
    {isEmpty : Bool}
    {chars : List Char}
    {length : Nat}
    (found : patternLength? isEmpty chars = some length) :
    ∃ body after, chars = body ++ '/' :: after ∧ length = body.length + 1 := by
  fun_induction patternLength? isEmpty chars generalizing length with
  | case1 => simp at found
  | case2 => simp at found
  | case3 isEmpty char rest notEnd inductionHypothesis =>
      obtain ⟨inner, foundInner, rfl⟩ := Option.map_eq_some_iff.mp found
      obtain ⟨body, after, rfl, rfl⟩ := inductionHypothesis foundInner
      exact ⟨'\\' :: char :: body, after, rfl, rfl⟩
  | case4 => simp at found
  | case5 => exact ⟨[], _, rfl, by simpa using found.symm⟩
  | case6 => simp at found
  | case7 isEmpty char rest notEscape notSlash plain inductionHypothesis =>
      obtain ⟨inner, foundInner, rfl⟩ := Option.map_eq_some_iff.mp found
      obtain ⟨body, after, rfl, rfl⟩ := inductionHypothesis foundInner
      exact ⟨char :: body, after, rfl, rfl⟩

/--
What stands at the start of a text is a number, or a pattern literal of a body between slashes
and of flags, or one of the other kinds.
-/
theorem cases_of_kindAt?
    {chars : List Char}
    {kind : Kind}
    {length : Nat}
    (isKind : kindAt? chars = some (kind, length)) :
    0 < length ∧
      (kind = .number ∧ length = numberLength chars ∨
        (∃ body flags, kind = .pattern body.length ∧
          chars.take length = '/' :: (body ++ '/' :: flags)) ∨
        kind ∈ [.blank, .text, .name, .mark]) := by
  unfold kindAt? at isKind
  split at isKind
  · exact absurd isKind (by simp)
  · next char rest =>
      split_ifs at isKind with blank decimal quote slash start mark
      · obtain ⟨rfl, rfl⟩ := Prod.mk.inj (Option.some.inj isKind)
        exact ⟨Nat.succ_pos _, by simp⟩
      · obtain ⟨rfl, rfl⟩ := Prod.mk.inj (Option.some.inj isKind)
        have digits : 0 < runLength Text.isDecimal (char :: rest) := by
          simp [runLength, decimal]
        refine ⟨?_, .inl ⟨rfl, rfl⟩⟩
        rw [numberLength]
        omega
      · obtain ⟨inner, -, same⟩ := Option.map_eq_some_iff.mp isKind
        obtain ⟨rfl, rfl⟩ := Prod.mk.inj same
        exact ⟨Nat.succ_pos _, by simp⟩
      · obtain ⟨inner, found, same⟩ := Option.map_eq_some_iff.mp isKind
        obtain ⟨rfl, rfl⟩ := Prod.mk.inj same
        obtain ⟨body, after, rfl, rfl⟩ := exists_body_of_patternLength? found
        refine ⟨by omega, .inr (.inl
          ⟨body, after.take (runLength isFlagLetter after), by rw [Nat.add_sub_cancel], ?_⟩)⟩
        have afterSlash : (body ++ '/' :: after).drop (body.length + 1) = after := by
          simp [List.drop_append]
        rw [slash, afterSlash, Nat.add_right_comm, List.take_succ_cons, Nat.add_right_comm,
          Nat.add_assoc]
        simp [List.take_append, List.take_of_length_le]
      · obtain ⟨rfl, rfl⟩ := Prod.mk.inj (Option.some.inj isKind)
        exact ⟨Nat.succ_pos _, by simp⟩
      · obtain ⟨rfl, rfl⟩ := Prod.mk.inj (Option.some.inj isKind)
        exact ⟨Nat.succ_pos _, by simp⟩

/--
Scanning characters from a position gets to a place with a literal of a kind: what stands before
it has been read.
-/
inductive Reads (characters : Text.CharacterNames) :
    Nat → List Char → Nat → Kind → List Char → Prop
  | here {position : Nat} {chars : List Char} {kind : Kind} {length : Nat}
      (isKind : kindAt? chars = some (kind, length)) :
      Reads characters position chars position kind (chars.take length)
  | later {position : Nat} {chars : List Char} {kind : Kind} {length : Nat}
      {symbol : Option Symbol} {place : Nat} {other : Kind} {literal : List Char}
      (isKind : kindAt? chars = some (kind, length))
      (isSymbol : symbolOf characters kind position (chars.take length) = .ok symbol)
      (reads : Reads characters (position + length) (chars.drop length) place other literal) :
      Reads characters position chars place other literal

end Token

end Expression
end RoutineGate
