import RoutineGate.Proofs.Documentation.Openings

/-!
# Finding documentation blocks

Blocks between texts without the mark that opens one are found again, all of them and
nothing else.
-/

namespace RoutineGate
namespace Documentation

/-- A text to be put between the marks of a block. -/
structure IsEnclosed (body : List Char) : Prop where
  /-- No slash comes first: it would take the opening mark back. -/
  starts : body.head? ≠ some '/'
  /-- Nothing closes the block too early. -/
  unclosed : ¬closingMark <:+: body
  /-- Nothing opens another block, not even together with the closing mark. -/
  unopened : ¬openingMark <:+: body ++ closingMark

/-- A text to be put between blocks. -/
structure IsOutside (chars : List Char) : Prop where
  /-- No star comes first: it would open a block together with the closing slash before. -/
  starts : chars.head? ≠ some '*'
  /-- Nothing opens a block. -/
  unopened : ¬openingMark <:+: chars

/-- A text with blocks in it, each of them followed by a text outside. -/
def documented (before : List Char) (parts : List (List Char × List Char)) : List Char :=
  before ++ parts.flatMap fun part => openingMark ++ part.1 ++ closingMark ++ part.2

theorem head?_documented_ne
    {before : List Char}
    (outside : IsOutside before)
    (parts : List (List Char × List Char)) :
    (documented before parts).head? ≠ some '*' := by
  cases before with
  | nil => cases parts <;> simp [documented, openingMark]
  | cons char before => exact outside.starts

/-- Scanning finds the blocks that were put into a text, and no opening within them. -/
theorem exists_scans_documented
    {before : List Char}
    {parts : List (List Char × List Char)}
    (outside : IsOutside before)
    (each : ∀ part ∈ parts, IsEnclosed part.1 ∧ IsOutside part.2) :
    ∃ found, Scans (documented before parts) found false ∧
      found.map Block.body = parts.map Prod.fst ∧ ∀ block ∈ found, ¬block.HasOpening := by
  induction parts generalizing before with
  | nil =>
      have text : documented before [] = before := List.append_nil before
      rw [text]
      exact ⟨[], .finished (isQuiet_of_not_isInfix outside.unopened (by simp)), rfl, by simp⟩
  | cons part parts inductionHypothesis =>
      obtain ⟨enclosed, after⟩ := each part List.mem_cons_self
      obtain ⟨found, scans, bodies, quiet⟩ := inductionHypothesis after fun other member =>
        each other (List.mem_cons_of_mem part member)
      have text : documented before (part :: parts) = before ++
          (openingMark ++ (part.1 ++ (closingMark ++ documented part.2 parts))) := by
        simp [documented]
      have quietBefore : IsQuiet before
          (openingMark ++ (part.1 ++ (closingMark ++ documented part.2 parts))) :=
        isQuiet_of_not_isInfix outside.unopened (by simp [openingMark])
      have quietWithin := isQuiet_of_not_isInfix enclosed.unopened
        (head?_documented_ne after parts)
      rw [text]
      refine ⟨_, .closed quietBefore ⟨enclosed.starts, enclosed.unclosed⟩ scans,
        congrArg (part.1 :: ·) bodies, ?_⟩
      rw [List.forall_mem_cons, Block.HasOpening, not_not]
      exact ⟨quietWithin, quiet⟩

/-- The blocks of a text are those that were put into it, and each one is counted. -/
theorem blocks_documented
    {before : List Char}
    {parts : List (List Char × List Char)}
    (outside : IsOutside before)
    (each : ∀ part ∈ parts, IsEnclosed part.1 ∧ IsOutside part.2) :
    blocks (documented before parts) = parts.map Prod.fst ∧
      countOpenings (documented before parts) = parts.length := by
  obtain ⟨found, scans, bodies, quiet⟩ := exists_scans_documented outside each
  have sizes := congrArg List.length bodies
  rw [List.length_map, List.length_map] at sizes
  rw [scans.blocks_eq, scans.countOpenings_eq_iff.2.mpr ⟨rfl, quiet⟩]
  exact ⟨bodies, sizes⟩

end Documentation
end RoutineGate
