/-!
# Cutting texts at a separator and putting them together again
-/

namespace RoutineGate
namespace Text

/-- The pieces between the occurrences of a separator; there is always at least one. -/
def splitAt (separator : Char) : List Char → List (List Char)
  | [] => [[]]
  | char :: rest =>
      if char = separator then [] :: splitAt separator rest
      else
        match splitAt separator rest with
        | [] => [[char]]
        | piece :: pieces => (char :: piece) :: pieces

/-- Puts pieces together with a separator between neighbours. -/
def joinWith (separator : List Char) : List (List Char) → List Char
  | [] => []
  | [piece] => piece
  | piece :: next :: pieces => piece ++ separator ++ joinWith separator (next :: pieces)

/-- The text before the first occurrence of a separator and the text after it. -/
def partitionAt (separator : Char) (chars : List Char) : List Char × List Char :=
  (chars.takeWhile (· != separator), (chars.dropWhile (· != separator)).drop 1)

/-- Replaces each occurrence of a character by a text. -/
def replaceChar (old : Char) (new : List Char) (chars : List Char) : List Char :=
  chars.flatMap fun char => if char = old then new else [char]

theorem splitAt_ne_nil
    (separator : Char)
    (chars : List Char) :
    splitAt separator chars ≠ [] := by
  cases chars with
  | nil => simp [splitAt]
  | cons char rest =>
      simp only [splitAt]
      split
      · simp
      · split <;> simp

/-- Joining the pieces restores the text. -/
theorem joinWith_splitAt
    (separator : Char)
    (chars : List Char) :
    joinWith [separator] (splitAt separator chars) = chars := by
  induction chars with
  | nil => rfl
  | cons char rest inductionHypothesis =>
      have nonempty := splitAt_ne_nil separator rest
      simp only [splitAt]
      generalize splitAt separator rest = pieces at *
      match pieces with
      | [] => exact absurd rfl nonempty
      | [piece] =>
          simp only [joinWith] at inductionHypothesis
          split
          · next same => simp [joinWith, inductionHypothesis, same]
          · simp [joinWith, inductionHypothesis]
      | piece :: next :: pieces =>
          split
          · next same =>
              rw [same, joinWith, inductionHypothesis]
              simp
          · simp only [joinWith] at inductionHypothesis ⊢
            simp [← inductionHypothesis]

end Text
end RoutineGate
