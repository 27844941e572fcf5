import Mathlib.Data.List.Basic
import RoutineGate.Text.Lines
import RoutineGate.Text.Split

/-!
# Pieces and lines of texts

Cutting a text at a separator and joining pieces undo each other, and lines are read back
from texts that end each line with a line feed.
-/

namespace RoutineGate
namespace Text

theorem splitAt_of_notMem
    {separator : Char}
    {piece : List Char}
    (absent : separator ∉ piece) :
    splitAt separator piece = [piece] := by
  induction piece with
  | nil => rfl
  | cons char piece inductionHypothesis =>
      have different : char ≠ separator := fun same => absent (same ▸ List.mem_cons_self)
      have rest := inductionHypothesis fun member => absent (List.mem_cons_of_mem char member)
      rw [splitAt, if_neg different, rest]

/-- Cutting a text at one of the separators cuts what is on either side of it. -/
theorem splitAt_append_separator
    (separator : Char)
    (front rest : List Char) :
    splitAt separator (front ++ separator :: rest) =
      splitAt separator front ++ splitAt separator rest := by
  induction front with
  | nil => simp [splitAt]
  | cons char front inductionHypothesis =>
      rw [List.cons_append, splitAt, splitAt, inductionHypothesis]
      split
      · rw [List.cons_append]
      · cases pieces : splitAt separator front with
        | nil => exact absurd pieces (splitAt_ne_nil separator front)
        | cons piece pieces => simp

/-- Cutting joined pieces cuts each of them. -/
theorem splitAt_joinWith_eq_flatMap
    {pieces : List (List Char)}
    (nonempty : pieces ≠ [])
    (separator : Char) :
    splitAt separator (joinWith [separator] pieces) = pieces.flatMap (splitAt separator) := by
  induction pieces with
  | nil => exact absurd rfl nonempty
  | cons piece pieces inductionHypothesis =>
      cases pieces with
      | nil => rw [joinWith, List.flatMap_cons, List.flatMap_nil, List.append_nil]
      | cons next pieces =>
          rw [joinWith, List.append_assoc, List.singleton_append, splitAt_append_separator,
            inductionHypothesis (List.cons_ne_nil next pieces), ← List.flatMap_cons]

/-- Cutting leaves pieces without the separator as they are. -/
theorem flatMap_splitAt_of_notMem
    {separator : Char}
    {pieces : List (List Char)}
    (absent : ∀ piece ∈ pieces, separator ∉ piece) :
    pieces.flatMap (splitAt separator) = pieces := by
  have each : ∀ piece ∈ pieces, splitAt separator piece = [piece] := fun piece member =>
    splitAt_of_notMem (absent piece member)
  rw [List.flatMap_congr each, List.flatMap_singleton']

/-- Cutting restores pieces without the separator. -/
theorem splitAt_joinWith
    {separator : Char}
    {pieces : List (List Char)}
    (nonempty : pieces ≠ [])
    (absent : ∀ piece ∈ pieces, separator ∉ piece) :
    splitAt separator (joinWith [separator] pieces) = pieces := by
  rw [splitAt_joinWith_eq_flatMap nonempty, flatMap_splitAt_of_notMem absent]

/-- Cutting restores the pieces around one that may have the separator, and cuts this one. -/
theorem splitAt_joinWith_append_cons
    {separator : Char}
    {front back : List (List Char)}
    (absent : ∀ piece ∈ front ++ back, separator ∉ piece)
    (middle : List Char) :
    splitAt separator (joinWith [separator] (front ++ middle :: back)) =
      front ++ (splitAt separator middle ++ back) := by
  have absentFront := fun piece member => absent piece (List.mem_append_left back member)
  have absentBack := fun piece member => absent piece (List.mem_append_right front member)
  rw [splitAt_joinWith_eq_flatMap (List.append_ne_nil_of_right_ne_nil _ (List.cons_ne_nil _ _)),
    List.flatMap_append, List.flatMap_cons, flatMap_splitAt_of_notMem absentFront,
    flatMap_splitAt_of_notMem absentBack]

theorem notMem_joinWith
    {char : Char}
    {separator : List Char}
    {pieces : List (List Char)}
    (apart : char ∉ separator)
    (absent : ∀ piece ∈ pieces, char ∉ piece) :
    char ∉ joinWith separator pieces := by
  induction pieces with
  | nil => exact List.not_mem_nil
  | cons piece pieces inductionHypothesis =>
      have first := absent piece List.mem_cons_self
      cases pieces with
      | nil => exact first
      | cons next pieces =>
          have rest := inductionHypothesis fun other member =>
            absent other (List.mem_cons_of_mem piece member)
          rw [joinWith, List.mem_append, List.mem_append]
          rintro ((member | member) | member)
          · exact first member
          · exact apart member
          · exact rest member

/-- The pieces of a text are without the separator. -/
theorem notMem_of_mem_splitAt
    {separator : Char}
    {chars piece : List Char}
    (member : piece ∈ splitAt separator chars) :
    separator ∉ piece := by
  induction chars generalizing piece with
  | nil =>
      obtain rfl : piece = [] := by simpa [splitAt] using member
      exact List.not_mem_nil
  | cons char chars inductionHypothesis =>
      rw [splitAt] at member
      split at member
      · obtain rfl | member := List.mem_cons.mp member
        · exact List.not_mem_nil
        · exact inductionHypothesis member
      · next different =>
          cases pieces : splitAt separator chars with
          | nil => exact absurd pieces (splitAt_ne_nil separator chars)
          | cons first others =>
              rw [pieces] at member inductionHypothesis
              obtain rfl | member := List.mem_cons.mp member
              · have absent := inductionHypothesis List.mem_cons_self
                exact List.not_mem_cons_of_ne_of_not_mem (Ne.symm different) absent
              · exact inductionHypothesis (List.mem_cons_of_mem first member)

/-- What stands before the first separator belongs to the first piece. -/
theorem splitAt_append
    {separator : Char}
    {front : List Char}
    (absent : separator ∉ front)
    (rest : List Char) :
    splitAt separator (front ++ rest) = (splitAt separator rest).modifyHead (front ++ ·) := by
  induction front with
  | nil => cases pieces : splitAt separator rest <;> simp [pieces]
  | cons char front inductionHypothesis =>
      have different : char ≠ separator := fun same => absent (same ▸ List.mem_cons_self)
      have others := inductionHypothesis fun member => absent (List.mem_cons_of_mem char member)
      rw [List.cons_append, splitAt, if_neg different, others]
      cases pieces : splitAt separator rest with
      | nil => exact absurd pieces (splitAt_ne_nil separator rest)
      | cons piece pieces => rfl

theorem isInfix_joinWith
    {pieces : List (List Char)}
    {piece : List Char}
    (listed : piece ∈ pieces)
    (separator : List Char) :
    piece <:+: joinWith separator pieces := by
  induction pieces with
  | nil => exact absurd listed List.not_mem_nil
  | cons first pieces inductionHypothesis =>
      cases pieces with
      | nil =>
          obtain rfl := List.mem_singleton.mp listed
          exact List.infix_rfl
      | cons next pieces =>
          rw [joinWith, List.append_assoc]
          obtain rfl | listed := List.mem_cons.mp listed
          · exact List.infix_append_left
          · exact List.infix_append_of_infix_right
              (List.infix_append_of_infix_right (inductionHypothesis listed))

/-- Each piece is a part of the text. -/
theorem isInfix_of_mem_splitAt
    {separator : Char}
    {chars piece : List Char}
    (listed : piece ∈ splitAt separator chars) :
    piece <:+: chars := by
  have inside := isInfix_joinWith listed [separator]
  rwa [joinWith_splitAt] at inside

theorem replaceChar_of_notMem
    {old : Char}
    {chars : List Char}
    (absent : old ∉ chars)
    (new : List Char) :
    replaceChar old new chars = chars := by
  induction chars with
  | nil => rfl
  | cons char chars inductionHypothesis =>
      have different : char ≠ old := fun same => absent (same ▸ List.mem_cons_self)
      have others := inductionHypothesis fun member => absent (List.mem_cons_of_mem char member)
      rw [replaceChar, List.flatMap_cons, if_neg different, List.singleton_append]
      exact congrArg (char :: ·) others

theorem replaceChar_eq_map (old new : Char) (chars : List Char) :
    replaceChar old [new] chars = chars.map fun char => if char = old then new else char := by
  rw [replaceChar, List.map_eq_flatMap]
  congr 1
  funext char
  split <;> rfl

@[simp] theorem replaceChar_append
    (old : Char)
    (new front rest : List Char) :
    replaceChar old new (front ++ rest) =
      replaceChar old new front ++ replaceChar old new rest :=
  List.flatMap_append

/-- Replacing a separator joins the pieces with what takes its place. -/
theorem replaceChar_eq_joinWith
    (separator : Char)
    (new chars : List Char) :
    replaceChar separator new chars = joinWith new (splitAt separator chars) := by
  induction chars with
  | nil => rfl
  | cons char chars inductionHypothesis =>
      rw [replaceChar, List.flatMap_cons, ← replaceChar, inductionHypothesis, splitAt]
      have nonempty := splitAt_ne_nil separator chars
      generalize splitAt separator chars = pieces at nonempty
      obtain ⟨piece, pieces, rfl⟩ := List.exists_cons_of_ne_nil nonempty
      split
      · rw [joinWith, List.nil_append]
      · cases pieces <;> simp [joinWith]

theorem joinWith_eq_intercalate
    (separator : List Char)
    (pieces : List (List Char)) :
    joinWith separator pieces = separator.intercalate pieces := by
  induction pieces with
  | nil => rfl
  | cons piece pieces inductionHypothesis =>
      cases pieces with
      | nil => simp [joinWith]
      | cons next pieces => rw [joinWith, inductionHypothesis, List.intercalate_cons_cons]

theorem joinWith_append
    {first second : List (List Char)}
    (separator : List Char)
    (firstNonempty : first ≠ [])
    (secondNonempty : second ≠ []) :
    joinWith separator (first ++ second) =
      joinWith separator first ++ separator ++ joinWith separator second := by
  induction first with
  | nil => exact absurd rfl firstNonempty
  | cons piece first inductionHypothesis =>
      cases first with
      | nil =>
          obtain ⟨next, others, rfl⟩ := List.exists_cons_of_ne_nil secondNonempty
          rfl
      | cons next first =>
          have rest := inductionHypothesis (List.cons_ne_nil next first)
          rw [List.cons_append] at rest
          simp only [List.cons_append, joinWith, rest, List.append_assoc]

/-- A separator with a text on each side stands around pieces too. -/
theorem flatMap_eq_joinWith
    {pieces : List (List Char)}
    (nonempty : pieces ≠ [])
    (front back : List Char) :
    pieces.flatMap (fun piece => front ++ piece ++ back) =
      front ++ joinWith (back ++ front) pieces ++ back := by
  induction pieces with
  | nil => exact absurd rfl nonempty
  | cons piece pieces inductionHypothesis =>
      cases pieces with
      | nil => simp [joinWith]
      | cons next pieces =>
          rw [List.flatMap_cons, inductionHypothesis (List.cons_ne_nil next pieces), joinWith]
          simp

/-- A mark stands on one side of a character that it does not hold. -/
theorem isInfix_append_cons_iff
    {mark front rest : List Char}
    {separator : Char}
    (apart : separator ∉ mark) :
    mark <:+: front ++ separator :: rest ↔ mark <:+: front ∨ mark <:+: rest := by
  constructor
  · rw [List.infix_append_iff_ne_nil]
    rintro (inFront | inRest | ⟨left, right, -, nonempty, rfl, -, starts⟩)
    · exact .inl inFront
    · obtain starts | inRest := List.infix_cons_iff.mp inRest
      · cases mark with
        | nil => exact .inl List.nil_infix
        | cons char mark =>
            obtain ⟨rfl, -⟩ := List.cons_prefix_cons.mp starts
            exact absurd List.mem_cons_self apart
      · exact .inr inRest
    · obtain ⟨char, others, rfl⟩ := List.exists_cons_of_ne_nil nonempty
      obtain ⟨rfl, -⟩ := List.cons_prefix_cons.mp starts
      exact absurd (by simp) apart
  · rintro (inFront | inRest)
    · exact inFront.trans List.infix_append_left
    · exact inRest.trans ((List.suffix_cons _ _).trans (List.suffix_append _ _)).isInfix

/-- A mark that is not in a text does not begin there if what follows does not continue it. -/
theorem not_isPrefix_append
    {mark front rest : List Char}
    (absent : ¬mark <:+: front)
    (nonempty : front ≠ [])
    (stops : ∀ char ∈ rest.head?, char ∉ mark.tail) :
    ¬mark <+: front ++ rest := by
  intro starts
  obtain inFront | ⟨more, rfl⟩ :=
    List.prefix_or_prefix_of_prefix starts (List.prefix_append front rest)
  · exact absent inFront.isInfix
  · have continues := (List.prefix_append_right_inj front).mp starts
    cases more with
    | nil => exact absent (by simp)
    | cons char more =>
        obtain ⟨others, rfl⟩ := continues
        refine stops char (by simp) ?_
        rw [List.tail_append_of_ne_nil nonempty]
        simp

/-! ## Lines -/

/-- A character that ends no line is read into the current line. -/
theorem linesFrom_cons_of_goesOn
    {char : Char}
    (goesOn : ¬isLineEnd char = true)
    (read rest : List Char) :
    linesFrom read (char :: rest) = linesFrom (char :: read) rest := by
  have notReturn : char ≠ '\r' := by
    rintro rfl
    exact goesOn (by decide)
  rw [linesFrom, if_neg goesOn]
  exact fun _ same _ => notReturn same

/-- A character that ends a line ends the current one, unless it is half of a pair. -/
theorem linesFrom_cons_of_ends
    {char : Char}
    {rest : List Char}
    (ends : isLineEnd char = true)
    (single : ¬(char = '\r' ∧ rest.head? = some '\n'))
    (read : List Char) :
    linesFrom read (char :: rest) = read.reverse :: lines rest := by
  rw [linesFrom, if_pos ends, lines]
  rintro after rfl rfl
  exact single ⟨rfl, rfl⟩

/-- A text in which no line ends is read into the current line. -/
theorem linesFrom_unbroken_append
    {line : List Char}
    (unbroken : ∀ char ∈ line, isLineEnd char = false)
    (read rest : List Char) :
    linesFrom read (line ++ rest) = linesFrom (line.reverse ++ read) rest := by
  induction line generalizing read with
  | nil => rfl
  | cons char line inductionHypothesis =>
      have goesOn := unbroken char List.mem_cons_self
      rw [List.cons_append, linesFrom_cons_of_goesOn (by simp [goesOn]),
        inductionHypothesis fun other member => unbroken other (List.mem_cons_of_mem char member)]
      simp

theorem linesFrom_append_feed
    {line : List Char}
    (unbroken : ∀ char ∈ line, isLineEnd char = false)
    (start rest : List Char) :
    linesFrom start (line ++ '\n' :: rest) = (start.reverse ++ line) :: lines rest := by
  rw [linesFrom_unbroken_append unbroken]
  simp [linesFrom, isLineEnd, lines]

/-- Lines with a line feed after each of them are read back, and then the rest. -/
theorem lines_flatMap_feed
    {chosen : List (List Char)}
    (unbroken : ∀ line ∈ chosen, ∀ char ∈ line, isLineEnd char = false)
    (rest : List Char) :
    lines (chosen.flatMap (· ++ ['\n']) ++ rest) = chosen ++ lines rest := by
  induction chosen with
  | nil => rfl
  | cons line chosen inductionHypothesis =>
      have first := linesFrom_append_feed (unbroken line List.mem_cons_self) []
      have others := inductionHypothesis fun other member =>
        unbroken other (List.mem_cons_of_mem line member)
      simp only [List.flatMap_cons, List.append_assoc, lines, first,
        List.reverse_nil, List.nil_append, List.cons_append]
      exact congrArg (line :: ·) others

end Text
end RoutineGate
