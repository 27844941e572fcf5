/-!
# Sets of characters given by sorted code point ranges

A character class of a standard is a long list of code points.  It is kept here
as a list of closed ranges in increasing order, so that a lookup can stop at the
first range that starts beyond the character.
-/

namespace RoutineGate
namespace Text

/-- Closed ranges of code points, in increasing order and without overlap. -/
abbrev Ranges :=
  List (Nat × Nat)

namespace Ranges

/-- Whether a code point lies in one of the ranges. -/
def contains : Ranges → Nat → Bool
  | [], _ => false
  | (first, last) :: rest, code =>
      if code < first then false
      else if code ≤ last then true
      else contains rest code

/-- Ranges in increasing order, each of them inhabited. -/
def Sorted : Ranges → Prop
  | [] => True
  | [(first, last)] => first ≤ last
  | (first, last) :: (next, stop) :: rest =>
      first ≤ last ∧ last < next ∧ Sorted ((next, stop) :: rest)

/-- The ranges that contain a code point, each as the offset into the range. -/
def offset? : Ranges → Nat → Option Nat
  | [], _ => none
  | (first, last) :: rest, code =>
      if code < first then none
      else if code ≤ last then some (code - first)
      else offset? rest code

@[simp] theorem contains_nil (code : Nat) : contains [] code = false := rfl

theorem isSome_offset?
    (ranges : Ranges)
    (code : Nat) :
    (ranges.offset? code).isSome = ranges.contains code := by
  induction ranges with
  | nil => rfl
  | cons range rest inductionHypothesis =>
      obtain ⟨first, last⟩ := range
      simp only [offset?, contains]
      split
      · rfl
      · split
        · rfl
        · exact inductionHypothesis

end Ranges
end Text
end RoutineGate
