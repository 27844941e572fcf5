import Mathlib.Data.List.TakeWhile
import RoutineGate.Documentation.Tag
import RoutineGate.Proofs.Documentation.Openings
import RoutineGate.Proofs.Traversal

/-!
# Problems of documentation

A type that is left open is reported for the tag that has it.  Whether a block is left open is
decided by comparing how many openings a definition has with how many blocks are collected: an
opening that nothing closes is reported, but one that stands within a closed block is reported
too, as if it were left open.
-/

namespace RoutineGate
namespace Documentation

/-! ## Types -/

/-- A text starts with the brace of a type, and no brace closes it before another one opens. -/
def LeavesTypeOpen (chars : List Char) : Prop :=
  ∃ rest, chars = '\x7b' :: rest ∧ ∀ type after, rest = type ++ '\x7d' :: after → '\x7b' ∈ type

/-- Whether a character may stand in a type. -/
def isTypeChar (char : Char) : Bool :=
  char != '\x7b' && char != '\x7d'

/-- A text without an opening brace stops being a type at its first closing brace. -/
theorem dropWhile_isTypeChar
    {type : List Char}
    (unopened : '\x7b' ∉ type)
    (after : List Char) :
    ∃ rest, (type ++ '\x7d' :: after).dropWhile isTypeChar = '\x7d' :: rest := by
  induction type with
  | nil => exact ⟨after, List.dropWhile_cons_of_neg (by decide)⟩
  | cons char type inductionHypothesis =>
      obtain ⟨different, unopened⟩ := not_or.mp (mt List.mem_cons.mpr unopened)
      by_cases closes : char = '\x7d'
      · subst closes
        exact ⟨_, List.dropWhile_cons_of_neg (by decide)⟩
      · have inType : isTypeChar char = true := by
          simp [isTypeChar, Ne.symm different, closes]
        obtain ⟨rest, stops⟩ := inductionHypothesis unopened
        exact ⟨rest, by rw [List.cons_append, List.dropWhile_cons_of_pos inType, stops]⟩

/-- Exactly a type that is left open cannot be taken. -/
theorem takeType_eq_error_iff
    {word : String}
    {chars : List Char}
    {problem : Problem} :
    takeType word chars = .error problem ↔ problem = .unclosedType word ∧ LeavesTypeOpen chars := by
  match chars with
  | [] => simp [takeType, LeavesTypeOpen]
  | first :: rest =>
      by_cases opens : first = '\x7b'
      · subst opens
        rw [takeType]
        split
        · next after stops =>
            refine iff_of_false (by simp) ?_
            rintro ⟨-, _, same, left⟩
            obtain rfl := (List.cons.inj same).2
            have whole := (rest.takeWhile_append_dropWhile (p := isTypeChar)).symm
            rw [show rest.dropWhile isTypeChar = '\x7d' :: after from stops] at whole
            have passes := List.mem_takeWhile_imp (left _ _ whole)
            exact absurd passes (by decide)
        · next goesOn =>
            rw [Except.error.injEq, eq_comm]
            refine (and_iff_left ⟨rest, rfl, ?_⟩).symm
            rintro type after rfl
            by_contra unopened
            obtain ⟨others, stops⟩ := dropWhile_isTypeChar unopened after
            exact goesOn others stops
      · have untyped : takeType word (first :: rest) = .ok ([], first :: rest) := by
          unfold takeType
          split
          · next same => exact absurd (List.cons.inj same).1 opens
          · rfl
        rw [untyped]
        refine iff_of_false (by simp) ?_
        rintro ⟨-, _, same, -⟩
        exact opens (List.cons.inj same).1

/-! ## Blocks -/

/-- Reading a tag never reports a block. -/
theorem readTag_ne_unterminated (source : List Char) :
    readTag source ≠ .error .unterminated := by
  intro reported
  rw [readTag] at reported
  split at reported
  · cases reported
  · obtain taken | ⟨⟨type, rest⟩, -, reported⟩ := bind_eq_error_iff.mp reported
    · cases (takeType_eq_error_iff.mp taken).1
    · dsimp only at reported
      split at reported <;> cases reported

theorem readBlock_ne_unterminated (block : List Char) :
    readBlock block ≠ .error .unterminated := by
  intro reported
  obtain ⟨_, lines, _, _, -, -, reported⟩ := mapM_eq_error_iff.mp reported
  exact readTag_ne_unterminated (tagSource lines) reported

/-- Definitions are read block by block if every opening opens one of the blocks. -/
theorem readTags_eq (definition : String) :
    readTags definition =
      if (blocks definition.toList).length = countOpenings definition.toList then
        ((blocks definition.toList).mapM readBlock).map List.flatten
      else .error .unterminated := by
  rw [readTags]
  by_cases same : (blocks definition.toList).length = countOpenings definition.toList
  · rw [if_pos same, if_neg (not_not.mpr same)]
    cases (blocks definition.toList).mapM readBlock <;> rfl
  · rw [if_neg same, if_pos same]
    rfl

theorem tagsOf_strict (definition : String) :
    tagsOf true (some definition) = readTags definition := by
  rw [tagsOf, Option.getD_some]
  cases readTags definition <;> rfl

/--
Strict reading reports an unterminated block exactly if scanning leaves an opening open or finds
one within a block; otherwise it reads the blocks that scanning finds, in order.
-/
theorem tagsOf_eq_unterminated_iff (definition : String) :
    (∃ found isOpen, Scans definition.toList found isOpen) ∧
      ∀ found isOpen, Scans definition.toList found isOpen →
        (tagsOf true (some definition) = .error .unterminated ↔
          isOpen = true ∨ ∃ block ∈ found, block.HasOpening) ∧
        (tagsOf true (some definition) ≠ .error .unterminated →
          tagsOf true (some definition) =
            ((found.map Block.body).mapM readBlock).map List.flatten) := by
  refine ⟨exists_scans _, fun found isOpen scans => ?_⟩
  have counted := scans.countOpenings_eq_iff.2
  rw [tagsOf_strict, readTags_eq, scans.blocks_eq, List.length_map]
  by_cases same : found.length = countOpenings definition.toList
  · obtain ⟨closed, quiet⟩ := counted.mp same.symm
    have reads : ((found.map Block.body).mapM readBlock).map List.flatten ≠
        .error .unterminated := by
      rw [Ne, map_eq_error_iff, mapM_eq_error_iff]
      rintro ⟨_, block, _, _, -, -, reported⟩
      exact readBlock_ne_unterminated block reported
    rw [if_pos same]
    refine ⟨iff_of_false reads ?_, fun _ => rfl⟩
    rintro (left | ⟨block, listed, opening⟩)
    · exact absurd left (by simp [closed])
    · exact quiet block listed opening
  · rw [if_neg same]
    refine ⟨iff_of_true rfl ?_, fun reported => absurd rfl reported⟩
    by_contra neither
    obtain ⟨closed, quiet⟩ := not_or.mp neither
    exact same (counted.mpr ⟨by simpa using closed, by simpa using quiet⟩).symm

/-- A mark that a slash takes back opens nothing, and the marks of an empty block may touch. -/
theorem tagsOf_eq_unterminated_iff_touching :
    ∃ found, found.map Block.body = [['@', 'a'], []] ∧
      Scans "/**@a*/ /**/ x /***/".toList found false ∧
      tagsOf true (some "/**@a*/ /**/ x /***/") ≠ .error .unterminated ∧
      tagsOf true (some "/**@a*/ /**/ x /***/") =
        ((found.map Block.body).mapM readBlock).map List.flatten := by
  have second : Scans (withBlock " /**/ x ".toList [] []) [⟨[], []⟩] false :=
    .closed (by decide) (by decide) (.finished (by decide))
  have scans : Scans (withBlock [] ['@', 'a'] " /**/ x /***/".toList)
      [⟨['@', 'a'], " /**/ x /***/".toList⟩, ⟨[], []⟩] false :=
    .closed (by decide) (by decide) second
  obtain ⟨reported, read⟩ :=
    (tagsOf_eq_unterminated_iff "/**@a*/ /**/ x /***/").2 _ _ scans
  have terminated := mt reported.mp (by decide)
  exact ⟨_, rfl, scans, terminated, read terminated⟩

/-- A closed block with another opening in it is reported as unterminated. -/
theorem not_isTerminated_nestedOpening :
    Scans "/** /** */".toList [⟨" /** ".toList, []⟩] false ∧
      tagsOf true (some "/** /** */") = .error .unterminated := by
  have scans : Scans (withBlock [] " /** ".toList []) [⟨" /** ".toList, []⟩] false :=
    .closed (by decide) (by decide) (.finished (by decide))
  refine ⟨scans, ?_⟩
  rw [tagsOf_strict, readTags_eq]
  decide

end Documentation
end RoutineGate
