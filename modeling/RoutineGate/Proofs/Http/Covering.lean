import Mathlib.Algebra.Order.BigOperators.Group.List
import Mathlib.Algebra.Order.Group.Nat
import RoutineGate.Proofs.Http.Matching
import RoutineGate.Proofs.Traversal

/-!
# Paths that cover other paths

A path of a route covers another one if its pieces take whatever the pieces of the other take.
For plain paths this can be read off the pieces: each must be a parameter or the same fixed
characters.  If a path is not covered, then its parameters can be filled in so that the other
path does not take the result.
-/

namespace RoutineGate
namespace Http
namespace PathPattern

/-- Whether a piece is a parameter and another not empty, or both are the same characters. -/
def coversPiece (general special : List Char) : Bool :=
  match general with
  | ':' :: _ => !special.isEmpty
  | _ => special = general

/-- Each piece of a path covers the piece of another path at its place. -/
def Covers (general special : String) : Prop :=
  List.Forall₂ (fun piece other => coversPiece piece other = true)
    (pathPieces general) (pathPieces special)

instance (general special : String) : Decidable (Covers general special) :=
  inferInstanceAs (Decidable (List.Forall₂ _ _ _))

theorem notMem_of_mem_pathPieces
    {path : String}
    {piece : List Char}
    (member : piece ∈ pathPieces path) :
    '/' ∉ piece :=
  Text.notMem_of_mem_splitAt member

/-- What a piece takes has no slash. -/
theorem notMem_of_takes
    {piece segment : List Char}
    (whole : '/' ∉ piece)
    (taken : Takes piece segment) :
    '/' ∉ segment := by
  unfold Takes at taken
  split at taken
  · exact taken.2
  · rw [taken]
    exact whole

theorem takes_of_coversPiece
    {general special segment : List Char}
    (covered : coversPiece general special = true)
    (whole : '/' ∉ special)
    (taken : Takes special segment) :
    Takes general segment := by
  have inside := notMem_of_takes whole taken
  unfold coversPiece at covered
  split at covered
  · next name =>
      refine ⟨?_, inside⟩
      unfold Takes at taken
      split at taken
      · exact taken.1
      · rw [taken]
        simpa using covered
  · rw [← of_decide_eq_true covered]
    exact taken

/-- A path takes what a path that it covers takes. -/
theorem takeAll_of_covers
    {general special : String}
    (covered : Covers general special)
    {chars : List Char}
    (taken : TakeAll (pathPieces special) chars) :
    TakeAll (pathPieces general) chars := by
  obtain ⟨segments, ending, pairs, ends, same⟩ := taken
  refine ⟨segments, ending, ?_, ends, same⟩
  exact forall₂_comp_of_mem covered pairs fun general special member segment covers takes =>
    takes_of_coversPiece covers (notMem_of_mem_pathPieces member) takes

-- a parameter takes what fixed characters take, but not the other way round
example : Covers "/user/:id" "/user/list" ∧ ¬Covers "/user/list" "/user/:id" := by decide +kernel

/-! ## Filling in parameters -/

/-- A piece of a path with its parameter filled in. -/
def fillPiece (filler piece : List Char) : List Char :=
  match piece with
  | ':' :: _ => filler
  | _ => piece

/-- A path with its parameters filled in. -/
def fillPath (filler : List Char) (path : String) : List Char :=
  Text.joinWith ['/'] ((pathPieces path).map (fillPiece filler))

/-- What may stand for a parameter on one line. -/
structure IsFiller (filler : List Char) : Prop where
  /-- It is not empty. -/
  nonempty : filler ≠ []
  /-- It has no slash. -/
  whole : '/' ∉ filler
  /-- It has no line end. -/
  inLine : '\n' ∉ filler

section Filling

variable {filler : List Char}

theorem fillPath_of_pathParameters_eq_nil
    {path : String}
    (fixed : pathParameters path = []) :
    fillPath filler path = path.toList := by
  rw [pathParameters, List.filterMap_eq_nil_iff] at fixed
  have unchanged : (pathPieces path).map (fillPiece filler) = pathPieces path := by
    refine (List.map_congr_left fun piece member => ?_).trans (List.map_id _)
    have notParameter := fixed piece member
    unfold fillPiece
    split
    · simp at notParameter
    · rfl
  rw [fillPath, unchanged]
  exact Text.joinWith_splitAt '/' path.toList

/-- A path takes the result of filling in its parameters. -/
theorem takeAll_fillPath
    (fills : IsFiller filler)
    (path : String) :
    TakeAll (pathPieces path) (fillPath filler path) := by
  refine ⟨_, [], ?_, .inl rfl, (List.append_nil _).symm⟩
  rw [List.forall₂_map_right_iff, List.forall₂_same]
  intro piece member
  unfold Takes fillPiece
  split
  · exact ⟨fills.nonempty, fills.whole⟩
  · next notParameter =>
      split
      · next name => exact absurd rfl (notParameter name)
      · rfl

theorem notMem_fillPiece
    (fills : IsFiller filler)
    {piece : List Char}
    (whole : '/' ∉ piece) :
    '/' ∉ fillPiece filler piece := by
  unfold fillPiece
  split
  · exact fills.whole
  · exact whole

/-- A plain path with its parameters filled in stands on one line. -/
theorem notMem_fillPath
    (fills : IsFiller filler)
    {path : String}
    (plain : ∀ piece ∈ pathPieces path, isPlain piece = true) :
    '\n' ∉ fillPath filler path := by
  refine Text.notMem_joinWith (by decide) fun filled member => ?_
  obtain ⟨piece, listed, rfl⟩ := List.mem_map.mp member
  have plainPiece := plain piece listed
  unfold isPlain at plainPiece
  unfold fillPiece
  split
  · exact fills.inLine
  · next notParameter =>
      split at plainPiece
      · next name => exact absurd rfl (notParameter name)
      · simp only [Bool.and_eq_true, Bool.not_eq_true', List.contains_eq_mem,
          decide_eq_false_iff_not] at plainPiece
        exact plainPiece.2

/-- A piece that takes another one with its parameter filled in covers it. -/
theorem coversPiece_of_takes_fillPiece
    {general special : List Char}
    (fresh : general ≠ filler)
    (taken : Takes general (fillPiece filler special)) :
    coversPiece general special = true := by
  unfold Takes at taken
  unfold coversPiece
  split at taken
  · next name =>
      obtain ⟨nonempty, -⟩ := taken
      cases special with
      | nil => exact absurd rfl nonempty
      | cons char special => rfl
  · next notParameter =>
      split
      · next name => exact absurd rfl (notParameter name)
      · unfold fillPiece at taken
        split at taken
        · exact absurd taken.symm fresh
        · exact decide_eq_true taken

/--
A path that takes another one with its parameters filled in covers it, if the filler is none
of its pieces.
-/
theorem covers_of_takeAll_fillPath
    (fills : IsFiller filler)
    {general special : String}
    (fresh : filler ∉ pathPieces general)
    (plain : ∀ piece ∈ pathPieces special, isPlain piece = true)
    (taken : TakeAll (pathPieces general) (fillPath filler special)) :
    Covers general special := by
  obtain ⟨segments, ending, pairs, rfl | rfl, same⟩ := taken
  · -- both sides are cut at the same slashes
    have flipped : List.Forall₂ (flip Takes) segments (pathPieces general) := pairs.flip
    have segmentsNonempty : segments ≠ [] := by
      rintro rfl
      have none := List.forall₂_nil_right_iff.mp pairs
      exact Text.splitAt_ne_nil '/' general.toList none
    have segmentsWhole : ∀ segment ∈ segments, '/' ∉ segment := by
      intro segment member
      obtain ⟨piece, listed, taken⟩ := exists_of_forall₂ flipped member
      exact notMem_of_takes (notMem_of_mem_pathPieces listed) taken
    have filledNonempty : (pathPieces special).map (fillPiece filler) ≠ [] := by
      rw [ne_eq, List.map_eq_nil_iff]
      exact Text.splitAt_ne_nil '/' special.toList
    have filledWhole : ∀ filled ∈ (pathPieces special).map (fillPiece filler), '/' ∉ filled := by
      intro filled member
      obtain ⟨piece, listed, rfl⟩ := List.mem_map.mp member
      exact notMem_fillPiece fills (notMem_of_mem_pathPieces listed)
    have pieces : (pathPieces special).map (fillPiece filler) = segments := by
      rw [← Text.splitAt_joinWith filledNonempty filledWhole,
        ← Text.splitAt_joinWith segmentsNonempty segmentsWhole]
      rw [fillPath, List.append_nil] at same
      rw [same]
    rw [← pieces, List.forall₂_map_right_iff] at pairs
    refine forall₂_imp_of_mem pairs fun piece listed other _ takes => ?_
    refine coversPiece_of_takes_fillPiece ?_ takes
    rintro rfl
    exact fresh listed
  · -- a line end would stand in the filled path
    refine absurd ?_ (notMem_fillPath fills plain)
    rw [same]
    exact List.mem_append_right _ List.mem_cons_self

/-- Some filler is none of some pieces. -/
theorem exists_filler
    (pieces : List (List Char)) :
    ∃ filler, IsFiller filler ∧ filler ∉ pieces := by
  let bound := (pieces.map List.length).sum
  refine ⟨List.replicate (bound + 1) 'a', ⟨?_, ?_, ?_⟩, ?_⟩
  · simp
  · simp
  · simp
  · intro member
    have length := List.mem_map_of_mem (f := List.length) member
    have atMost := List.le_sum_of_mem length
    rw [List.length_replicate] at atMost
    omega

end Filling

end PathPattern
end Http
end RoutineGate
