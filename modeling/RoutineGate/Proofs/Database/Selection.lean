import Mathlib.Data.List.Infix
import RoutineGate.Proofs.Database.Execution
import RoutineGate.Service.Application

/-!
# Procedures selected by their start

The catalog query selects names by a pattern with wild cards, and the application serves the
procedures whose names have the start that it is set up with.  The pattern of a start takes
every character of it literally, so both select the same procedures.
-/

namespace RoutineGate
namespace Database

/-! ## What patterns select -/

/-- Whether a character of a pattern stands for something else than itself. -/
def isWild (char : Char) : Prop :=
  char = patternEscape ∨ char = anyText ∨ char = anyChar

instance : DecidablePred isWild :=
  fun char => inferInstanceAs (Decidable (char = patternEscape ∨ char = anyText ∨ char = anyChar))

/--
A pattern selects a text.  The mark of any text may stand for none at all, and an escape with
nothing after it stands for itself.
-/
inductive Selects : List Char → List Char → Prop
  | done : Selects [] []
  | anyText {pattern rest : List Char}
      (skipped : List Char)
      (selected : Selects pattern rest) :
      Selects (anyText :: pattern) (skipped ++ rest)
  | anyChar {pattern rest : List Char}
      (char : Char)
      (selected : Selects pattern rest) :
      Selects (anyChar :: pattern) (char :: rest)
  | escaped {pattern rest : List Char}
      (char : Char)
      (selected : Selects pattern rest) :
      Selects (patternEscape :: char :: pattern) (char :: rest)
  | lastEscape : Selects [patternEscape] [patternEscape]
  | literal {pattern rest : List Char} {char : Char}
      (plain : ¬isWild char)
      (selected : Selects pattern rest) :
      Selects (char :: pattern) (char :: rest)

/-- Whether a text has a first character that passes a test, and a rest that does. -/
def splitsInto (first : Char → Bool) (others : List Char → Bool) : List Char → Bool
  | [] => false
  | char :: rest => first char && others rest

/-- Whether a pattern selects a text, by trying every length for the marks of any text. -/
def isSelected : List Char → List Char → Bool
  | [], text => text.isEmpty
  | mark :: pattern, text =>
      if mark = anyText then text.tails.any (isSelected pattern)
      else if mark = anyChar then splitsInto (fun _ => true) (isSelected pattern) text
      else if mark = patternEscape then
        match pattern with
        | [] => text = [patternEscape]
        | escaped :: pattern => splitsInto (· = escaped) (isSelected pattern) text
      else splitsInto (· = mark) (isSelected pattern) text

theorem splitsInto_iff
    {first : Char → Bool}
    {others : List Char → Bool}
    {text : List Char} :
    splitsInto first others text = true ↔
      ∃ char rest, text = char :: rest ∧ first char = true ∧ others rest = true := by
  cases text <;> simp [splitsInto]

theorem selects_nil_iff {text : List Char} : Selects [] text ↔ text = [] := by
  constructor
  · rintro ⟨⟩
    rfl
  · rintro rfl
    exact .done

/-- The mark of any text leaves some end of the text to the rest of the pattern. -/
theorem selects_anyText_iff
    {pattern text : List Char} :
    Selects (anyText :: pattern) text ↔ ∃ rest, rest <:+ text ∧ Selects pattern rest := by
  constructor
  · intro selected
    cases selected with
    | anyText skipped selected => exact ⟨_, List.suffix_append _ _, selected⟩
    | literal plain selected => exact absurd (.inr (.inl rfl)) plain
  · rintro ⟨rest, ⟨skipped, rfl⟩, selected⟩
    exact .anyText skipped selected

theorem selects_anyChar_iff
    {pattern text : List Char} :
    Selects (anyChar :: pattern) text ↔
      ∃ char rest, text = char :: rest ∧ Selects pattern rest := by
  constructor
  · intro selected
    cases selected with
    | anyChar char selected => exact ⟨char, _, rfl, selected⟩
    | literal plain selected => exact absurd (.inr (.inr rfl)) plain
  · rintro ⟨char, rest, rfl, selected⟩
    exact .anyChar char selected

/-- An escaped character selects itself. -/
theorem selects_escaped_iff
    {char : Char}
    {pattern text : List Char} :
    Selects (patternEscape :: char :: pattern) text ↔
      ∃ rest, text = char :: rest ∧ Selects pattern rest := by
  constructor
  · intro selected
    cases selected with
    | escaped _ selected => exact ⟨_, rfl, selected⟩
    | literal plain selected => exact absurd (.inl rfl) plain
  · rintro ⟨rest, rfl, selected⟩
    exact .escaped char selected

theorem selects_lastEscape_iff {text : List Char} :
    Selects [patternEscape] text ↔ text = [patternEscape] := by
  constructor
  · intro selected
    cases selected with
    | lastEscape => rfl
    | literal plain selected => exact absurd (.inl rfl) plain
  · rintro rfl
    exact .lastEscape

/-- A character that is no wild card selects itself. -/
theorem selects_literal_iff
    {char : Char}
    {pattern text : List Char}
    (plain : ¬isWild char) :
    Selects (char :: pattern) text ↔ ∃ rest, text = char :: rest ∧ Selects pattern rest := by
  constructor
  · intro selected
    cases selected with
    | anyText => exact absurd (.inr (.inl rfl)) plain
    | anyChar => exact absurd (.inr (.inr rfl)) plain
    | escaped => exact absurd (.inl rfl) plain
    | lastEscape => exact absurd (.inl rfl) plain
    | literal _ selected => exact ⟨_, rfl, selected⟩
  · rintro ⟨rest, rfl, selected⟩
    exact .literal plain selected

/-- Trying every length finds out what a pattern selects. -/
theorem isSelected_iff : ∀ {pattern text : List Char},
    isSelected pattern text = true ↔ Selects pattern text
  | [], text => by rw [isSelected, List.isEmpty_iff, selects_nil_iff]
  | mark :: pattern, text => by
      have others (rest : List Char) : isSelected pattern rest = true ↔ Selects pattern rest :=
        isSelected_iff
      unfold isSelected
      split_ifs with isText isChar isEscape
      · subst isText
        simp only [List.any_eq_true, List.mem_tails, others, selects_anyText_iff]
      · subst isChar
        simp only [splitsInto_iff, true_and, others, selects_anyChar_iff]
      · subst isEscape
        cases pattern with
        | nil => rw [decide_eq_true_eq, selects_lastEscape_iff]
        | cons escaped pattern =>
            have afterwards (rest : List Char) :
                isSelected pattern rest = true ↔ Selects pattern rest :=
              isSelected_iff
            simp [splitsInto_iff, afterwards, selects_escaped_iff]
      · have plain : ¬isWild mark := by simp [isWild, isText, isChar, isEscape]
        simp [splitsInto_iff, others, selects_literal_iff plain]

instance (pattern text : List Char) : Decidable (Selects pattern text) :=
  decidable_of_iff (isSelected pattern text = true) isSelected_iff

/-! ## The pattern of a start -/

/-- A character that is taken literally selects itself. -/
theorem selects_literalPattern_append_iff
    {char : Char}
    {pattern text : List Char} :
    Selects (literalPattern char ++ pattern) text ↔
      ∃ rest, text = char :: rest ∧ Selects pattern rest := by
  unfold literalPattern
  split
  · exact selects_escaped_iff
  · next plain => exact selects_literal_iff plain

/-- The pattern of a start selects the texts that start with it. -/
theorem selects_startPattern_iff
    {start text : List Char} :
    Selects (startPattern start) text ↔ start <+: text := by
  induction start generalizing text with
  | nil =>
      rw [startPattern_nil, selects_anyText_iff]
      exact iff_of_true ⟨[], List.nil_suffix, .done⟩ List.nil_prefix
  | cons char start inductionHypothesis =>
      rw [startPattern_cons, selects_literalPattern_append_iff, List.cons_prefix_iff]
      simp only [inductionHypothesis]

/-- A wild card in a start stands for itself. -/
example : ¬Selects (startPattern "a_".toList) "ax".toList := by decide

/--
The catalog query is run with a pattern that selects exactly the names with the start, so it
lists the procedures that the application serves: none is served that the query leaves out, and
none that it lists is skipped.
-/
theorem served_eq_selected
    {World : Type}
    (connection : Connection World)
    (database start : String)
    (world : World)
    (earlier : List Statement) :
    ∃ pattern : String,
      ((ofConnection (recorded connection) database start).catalog (world, earlier)).2.2 =
        earlier ++ [⟨catalogQuery, [.text database, .text pattern]⟩] ∧
      (∀ name, Selects pattern.toList name ↔ start.toList <+: name) ∧
      ∀ procedures,
        Service.Application.servedProcedures start procedures =
          procedures.filter fun procedure => Selects pattern.toList procedure.name.toList := by
  refine ⟨String.ofList (startPattern start.toList), rfl, ?_, ?_⟩
  · intro name
    rw [String.toList_ofList, selects_startPattern_iff]
  · intro procedures
    unfold Service.Application.servedProcedures
    refine List.filter_congr fun procedure _ => ?_
    rw [String.toList_ofList, Bool.eq_iff_iff, List.isPrefixOf_iff_prefix, decide_eq_true_eq,
      selects_startPattern_iff]

end Database
end RoutineGate
