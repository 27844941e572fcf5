import RoutineGate.Proofs.Json.Numerals
import RoutineGate.Proofs.Json.Texts

/-!
# The grammar of JSON

A value is a word, a number, a text, a list or a record.  Apart from the values that texts spell,
the grammar tells the texts that start like a value and get to an integer of more digits than
are converted.
-/

namespace RoutineGate
namespace Json

variable {Item : Type}

/-- Whether characters may stand between tokens. -/
def IsGap (chars : List Char) : Prop :=
  ∀ char ∈ chars, isSpace char = true

/-- Items with commas between them; space may stand around the commas and after the last item. -/
inductive IsListing (IsItem : List Char → Item → Prop) : List Char → List Item → Prop
  | last {chars gap : List Char} {item : Item}
      (isItem : IsItem chars item)
      (isGap : IsGap gap) :
      IsListing IsItem (chars ++ gap) [item]
  | more {chars before after rest : List Char} {item : Item} {items : List Item}
      (isItem : IsItem chars item)
      (isBefore : IsGap before)
      (isAfter : IsGap after)
      (others : IsListing IsItem rest items) :
      IsListing IsItem (chars ++ (before ++ ',' :: (after ++ rest))) (item :: items)

/-- A key in quotes, a colon and a value. -/
inductive IsEntry (IsItem : List Char → Value → Prop) : List Char → String × Value → Prop
  | intro {content body before after chars : List Char} {value : Value}
      (isContent : IsContent content body)
      (isBefore : IsGap before)
      (isAfter : IsGap after)
      (isItem : IsItem chars value) :
      IsEntry IsItem ('"' :: (body ++ '"' :: (before ++ ':' :: (after ++ chars))))
        (String.ofList content, value)

/-- The value that a text spells. -/
inductive Spells : List Char → Value → Prop
  | word {word : List Char} {value : Value}
      (listed : (word, value) ∈ words) :
      Spells word value
  | number {chars : List Char} {value : Value}
      (isNumeral : IsNumeral chars value) :
      Spells chars value
  | text {content body : List Char}
      (isContent : IsContent content body) :
      Spells ('"' :: (body ++ ['"'])) (.text (String.ofList content))
  | noItem {gap : List Char}
      (isGap : IsGap gap) :
      Spells ('[' :: (gap ++ [']'])) (.list [])
  | list {gap chars : List Char} {items : List Value}
      (isGap : IsGap gap)
      (isListing : IsListing Spells chars items) :
      Spells ('[' :: (gap ++ (chars ++ [']']))) (.list items)
  | noEntry {gap : List Char}
      (isGap : IsGap gap) :
      Spells ('\x7b' :: (gap ++ ['\x7d'])) (.record [])
  | record {gap chars : List Char} {entries : List (String × Value)}
      (isGap : IsGap gap)
      (isListing : IsListing (IsEntry Spells) chars entries) :
      Spells ('\x7b' :: (gap ++ (chars ++ ['\x7d']))) (.record (Value.gather entries))

/-- Items of which some are complete and the next one is of some kind. -/
inductive Reaches (IsItem : List Char → Item → Prop) (Next : List Char → Prop) :
    List Char → Prop
  | here {chars : List Char}
      (next : Next chars) :
      Reaches IsItem Next chars
  | later {chars before after rest : List Char} {item : Item}
      (isItem : IsItem chars item)
      (isBefore : IsGap before)
      (isAfter : IsGap after)
      (reaches : Reaches IsItem Next rest) :
      Reaches IsItem Next (chars ++ (before ++ ',' :: (after ++ rest)))

/-- A key and a colon, and then a value of some kind. -/
inductive IsEntryOf (Next : List Char → Prop) : List Char → Prop
  | intro {content body before after chars : List Char}
      (isContent : IsContent content body)
      (isBefore : IsGap before)
      (isAfter : IsGap after)
      (next : Next chars) :
      IsEntryOf Next ('"' :: (body ++ '"' :: (before ++ ':' :: (after ++ chars))))

/--
A text in which an integer of so many digits, more than are converted, comes before anything
that is malformed: whatever stands before it is complete but for the lists and records that it
stands in.
-/
inductive ReachesLong (count : Nat) : List Char → Prop
  | integer {chars : List Char}
      (isLong : IsLongInteger count chars) :
      ReachesLong count chars
  | list {gap chars : List Char}
      (isGap : IsGap gap)
      (reaches : Reaches Spells (ReachesLong count) chars) :
      ReachesLong count ('[' :: (gap ++ chars))
  | record {gap chars : List Char}
      (isGap : IsGap gap)
      (reaches : Reaches (IsEntry Spells) (IsEntryOf (ReachesLong count)) chars) :
      ReachesLong count ('\x7b' :: (gap ++ chars))

/-! ## Gaps -/

/-- Whether a text starts with something other than space and the end of a list or record. -/
def IsStart (chars : List Char) : Prop :=
  ∃ first others, chars = first :: others ∧ isSpace first = false ∧ first ≠ ']' ∧
    first ≠ '\x7d'

theorem IsStart.append
    {chars : List Char}
    (isStart : IsStart chars)
    (rest : List Char) :
    IsStart (chars ++ rest) := by
  obtain ⟨first, others, rfl, apart⟩ := isStart
  exact ⟨first, others ++ rest, rfl, apart⟩

theorem IsStart.length_pos
    {chars : List Char}
    (isStart : IsStart chars) :
    0 < chars.length := by
  obtain ⟨first, others, rfl, -⟩ := isStart
  exact Nat.succ_pos _

theorem exists_gap (chars : List Char) :
    ∃ gap, IsGap gap ∧ chars = gap ++ skipSpace chars :=
  ⟨chars.takeWhile isSpace, fun _ member => List.mem_takeWhile_imp member,
    List.takeWhile_append_dropWhile.symm⟩

/-- What is left after space, with the space before it. -/
theorem exists_gap_of_skipSpace
    {chars rest : List Char}
    (left : skipSpace chars = rest) :
    ∃ gap, IsGap gap ∧ chars = gap ++ rest := by
  subst left
  exact exists_gap chars

theorem skipSpace_gap_cons
    {gap : List Char}
    (isGap : IsGap gap)
    {first : Char}
    (notSpace : isSpace first = false)
    (others : List Char) :
    skipSpace (gap ++ first :: others) = first :: others := by
  rw [skipSpace, List.dropWhile_append_of_pos isGap]
  exact skipSpace_cons notSpace others

theorem skipSpace_gap_append
    {gap chars : List Char}
    (isGap : IsGap gap)
    (isStart : IsStart chars) :
    skipSpace (gap ++ chars) = chars := by
  obtain ⟨first, others, rfl, notSpace, -⟩ := isStart
  exact skipSpace_gap_cons isGap notSpace others

/-- Space does not continue a number. -/
theorem endsNumber_gap_append
    {gap rest : List Char}
    (isGap : IsGap gap)
    (ends : EndsNumber rest) :
    EndsNumber (gap ++ rest) := by
  cases gap with
  | nil => exact ends
  | cons space gap =>
      rintro char here
      obtain rfl := Option.some.inj here
      have isSpace := isGap space List.mem_cons_self
      simp only [Json.isSpace, Bool.or_eq_true, decide_eq_true_eq] at isSpace
      obtain ((rfl | rfl) | rfl) | rfl := isSpace <;> decide

/-- Neither space nor a comma nor an end continues a number. -/
theorem endsNumber_gap_cons
    {gap : List Char}
    (isGap : IsGap gap)
    {first : Char}
    (punctuation : first = ',' ∨ first = ']' ∨ first = '\x7d')
    (others : List Char) :
    EndsNumber (gap ++ first :: others) :=
  endsNumber_gap_append isGap (endsNumber_cons punctuation others)

end Json
end RoutineGate
