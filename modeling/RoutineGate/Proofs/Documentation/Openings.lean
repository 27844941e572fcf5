import Mathlib.Data.List.Infix
import RoutineGate.Documentation.Block
import RoutineGate.Proofs.Text.Splitting

/-!
# Scanning a text for blocks

A text is scanned from left to right: each opening opens a block that the next closing mark
closes.  The blocks that are collected are exactly those, but every opening of the text is
counted, also one that stands within a block.
-/

namespace RoutineGate
namespace Documentation

/-- The mark that opens a block, unless a slash follows. -/
def openingMark : List Char := ['/', '*', '*']

/-- The mark that closes a block. -/
def closingMark : List Char := ['*', '/']

/-- An opening starts a text: the mark that opens a block, without a slash after it. -/
def IsOpening (chars : List Char) : Prop :=
  openingMark <+: chars ∧ ¬openingMark ++ ['/'] <+: chars

instance (chars : List Char) : Decidable (IsOpening chars) :=
  inferInstanceAs (Decidable (_ ∧ _))

/-- No opening starts within a text that another one follows. -/
def IsQuiet (chars rest : List Char) : Prop :=
  ∀ back, back <:+ chars → back ≠ [] → ¬IsOpening (back ++ rest)

instance (chars rest : List Char) : Decidable (IsQuiet chars rest) :=
  decidable_of_iff (∀ back ∈ chars.tails, back ≠ [] → ¬IsOpening (back ++ rest))
    (by simp only [List.mem_tails, IsQuiet])

/-- What stands between the marks of a block. -/
@[mk_iff]
structure IsBody (body : List Char) : Prop where
  /-- No slash takes the opening mark back. -/
  opens : body.head? ≠ some '/'
  /-- No mark closes the block earlier. -/
  unclosed : ¬closingMark <:+: body

instance (body : List Char) : Decidable (IsBody body) :=
  decidable_of_iff' _ (isBody_iff body)

/-- A text with a block in it. -/
def withBlock (before body after : List Char) : List Char :=
  before ++ (openingMark ++ (body ++ (closingMark ++ after)))

/-- A block that is found in a text, and the text after its closing mark. -/
structure Block where
  body : List Char
  after : List Char

/-- Whether another opening starts within a block or with the slash that closes it. -/
def Block.HasOpening (block : Block) : Prop :=
  ¬IsQuiet (block.body ++ closingMark) block.after

instance : DecidablePred Block.HasOpening := fun block =>
  inferInstanceAs (Decidable (¬IsQuiet (block.body ++ closingMark) block.after))

/--
What scanning a text from left to right finds: the blocks in order, and whether an opening is
left that nothing closes.
-/
inductive Scans : List Char → List Block → Bool → Prop
  /-- There is no opening any more. -/
  | finished
      {chars : List Char}
      (quiet : IsQuiet chars []) :
      Scans chars [] false
  /-- The next opening is left open. -/
  | unclosed
      {before rest : List Char}
      (quiet : IsQuiet before (openingMark ++ rest))
      (opens : rest.head? ≠ some '/')
      (unclosed : ¬closingMark <:+: rest) :
      Scans (before ++ (openingMark ++ rest)) [] true
  /-- The next opening opens a block, which the next closing mark closes. -/
  | closed
      {before body after : List Char}
      {found : List Block}
      {isOpen : Bool}
      (quiet : IsQuiet before (openingMark ++ (body ++ (closingMark ++ after))))
      (isBody : IsBody body)
      (rest : Scans after found isOpen) :
      Scans (withBlock before body after) (⟨body, after⟩ :: found) isOpen

/-! ## Openings -/

theorem IsBody.head?_append_ne
    {body : List Char}
    (isBody : IsBody body)
    (after : List Char) :
    (body ++ (closingMark ++ after)).head? ≠ some '/' := by
  cases body with
  | nil => simp [closingMark]
  | cons char body => exact isBody.opens

section Openings

variable {char : Char} {chars front rest : List Char}

theorem isOpening_openingMark_iff : IsOpening (openingMark ++ rest) ↔ rest.head? ≠ some '/' := by
  rw [IsOpening, List.prefix_append_right_inj]
  cases rest <;> simp [eq_comm]

/-- Whether an opening starts a text depends on four characters. -/
theorem isOpening_append_iff (long : 4 ≤ chars.length) :
    IsOpening (chars ++ rest) ↔ IsOpening chars := by
  rw [IsOpening, IsOpening, List.isPrefix_append_of_length (by simpa [openingMark] using by omega),
    List.isPrefix_append_of_length (by simpa [openingMark] using long)]

theorem not_isOpening_star : ¬IsOpening ('*' :: rest) := by
  rintro ⟨starts, -⟩
  simp [openingMark] at starts

theorem isQuiet_nil : IsQuiet [] rest := fun _ suffix nonempty =>
  absurd (List.suffix_nil.mp suffix) nonempty

theorem isQuiet_cons_iff :
    IsQuiet (char :: chars) rest ↔ ¬IsOpening (char :: (chars ++ rest)) ∧ IsQuiet chars rest := by
  constructor
  · intro quiet
    exact ⟨quiet _ List.suffix_rfl (List.cons_ne_nil char chars), fun back suffix nonempty =>
      quiet back (suffix.trans (List.suffix_cons char chars)) nonempty⟩
  · rintro ⟨first, quiet⟩ back suffix nonempty
    obtain rfl | suffix := List.suffix_cons_iff.mp suffix
    · exact first
    · exact quiet back suffix nonempty

theorem isQuiet_append_iff :
    IsQuiet (front ++ chars) rest ↔ IsQuiet front (chars ++ rest) ∧ IsQuiet chars rest := by
  induction front with
  | nil => simp [isQuiet_nil]
  | cons char front inductionHypothesis =>
      rw [List.cons_append, isQuiet_cons_iff, isQuiet_cons_iff, inductionHypothesis,
        List.append_assoc, and_assoc]

/-- What follows an opening mark does not matter to the text before it. -/
theorem isQuiet_congr
    (chars : List Char)
    (quiet : IsQuiet front (chars ++ (openingMark ++ rest)))
    (other : List Char) :
    IsQuiet front (chars ++ (openingMark ++ other)) := by
  intro back suffix nonempty
  have long : 4 ≤ (back ++ (chars ++ openingMark)).length := by
    have positive := List.length_pos_of_ne_nil nonempty
    simp only [List.length_append, openingMark, List.length_cons, List.length_nil]
    omega
  have silent := quiet back suffix nonempty
  rw [← List.append_assoc chars, ← List.append_assoc, isOpening_append_iff long] at silent ⊢
  exact silent

/-- A text without the mark is quiet if what follows does not complete it. -/
theorem isQuiet_of_not_isInfix
    (unopened : ¬openingMark <:+: chars)
    (stops : rest.head? ≠ some '*') :
    IsQuiet chars rest := by
  rintro back suffix nonempty ⟨starts, -⟩
  refine Text.not_isPrefix_append (fun inside => unopened (inside.trans suffix.isInfix)) nonempty
    ?_ starts
  rintro next first member
  obtain rfl : next = '*' := by simpa [openingMark] using member
  exact stops first

/-- A quiet text stays so in front of another one if neither of the two completes a mark. -/
theorem isQuiet_of_isQuiet
    {other : List Char}
    (quiet : IsQuiet front rest)
    (kept : front.getLast? ≠ some '*' ∨ rest.head? ≠ some '/')
    (stops : other.head? ≠ some '*') :
    IsQuiet front other := by
  intro back suffix nonempty opening
  have silent := quiet back suffix nonempty
  by_cases inside : openingMark <+: back
  · obtain ⟨left, rfl⟩ := inside
    cases left with
    | nil =>
        rw [List.append_nil] at suffix silent
        rw [isOpening_openingMark_iff, not_not] at silent
        obtain ⟨before, rfl⟩ := suffix
        exact kept.elim (fun ends => ends (by simp [openingMark])) fun slash => slash silent
    | cons char left =>
        have long : 4 ≤ (openingMark ++ char :: left).length := by simp [openingMark]
        rw [isOpening_append_iff long] at silent opening
        exact silent opening
  · -- the other text would start with what is left of the mark
    obtain ⟨more, whole⟩ := (List.prefix_or_prefix_of_prefix opening.1
      (List.prefix_append back other)).resolve_left inside
    have starts := opening.1
    rw [← whole, List.prefix_append_right_inj] at starts
    cases more with
    | nil => exact inside ⟨[], by rw [List.append_nil, ← whole, List.append_nil]⟩
    | cons char more =>
        obtain ⟨first, others, rfl⟩ := List.exists_cons_of_ne_nil nonempty
        have inner := (List.cons.inj (whole : first :: (others ++ char :: more) = openingMark)).2
        have listed : char ∈ ['*', '*'] := by simp [← inner]
        obtain ⟨after, rfl⟩ := starts
        exact stops (by simpa using listed)

/-- A text without the mark is quiet in front of the mark that closes a block. -/
theorem isQuiet_closingMark
    (unopened : ¬openingMark <:+: chars)
    (rest : List Char) :
    IsQuiet chars (closingMark ++ rest) := by
  rintro back suffix nonempty ⟨starts, unslashed⟩
  have absent : ¬openingMark <:+: back := fun inside => unopened (inside.trans suffix.isInfix)
  match back, nonempty with
  | [first], _ => simp [openingMark, closingMark] at starts
  | [first, second], _ =>
      obtain ⟨rfl, rfl⟩ : first = '/' ∧ second = '*' := by
        simpa [openingMark, closingMark, eq_comm] using starts
      simp [openingMark, closingMark] at unslashed
  | first :: second :: third :: others, _ =>
      rw [List.isPrefix_append_of_length (by simp [openingMark])] at starts
      exact absent starts.isInfix

end Openings

/-! ## Collecting and counting -/

section Steps

variable {char : Char} {chars rest : List Char}

/-- Outside a block a character is passed over. -/
theorem collectBlocks_none_cons
    (apart : ¬openingMark <+: char :: rest) :
    collectBlocks none (char :: rest) = collectBlocks none rest := by
  rw [collectBlocks.eq_def none (char :: rest)]
  split
  · next same =>
      obtain ⟨rfl, rfl⟩ := List.cons.inj same
      exact absurd (by simp [openingMark]) apart
  · next same =>
      obtain ⟨rfl, rfl⟩ := List.cons.inj same
      rfl
  · next same =>
      obtain ⟨rfl, rfl⟩ := List.cons.inj same
      rfl
  · next same => exact absurd same (List.cons_ne_nil _ _)

/-- Inside a block a character is read. -/
theorem collectBlocks_some_cons
    (apart : ¬closingMark <+: char :: rest)
    (read : List Char) :
    collectBlocks (some read) (char :: rest) = collectBlocks (some (char :: read)) rest := by
  rw [collectBlocks.eq_def (some read) (char :: rest)]
  split
  · next same =>
      obtain ⟨rfl, rfl⟩ := List.cons.inj same
      rfl
  · next same =>
      obtain ⟨rfl, rfl⟩ := List.cons.inj same
      exact absurd (by simp [closingMark]) apart
  · next same =>
      obtain ⟨rfl, rfl⟩ := List.cons.inj same
      rfl
  · next same => exact absurd same (List.cons_ne_nil _ _)

theorem countOpenings_cons
    (apart : ¬openingMark <+: char :: rest) :
    countOpenings (char :: rest) = countOpenings rest := by
  rw [countOpenings.eq_def (char :: rest)]
  split
  · next same =>
      obtain ⟨rfl, rfl⟩ := List.cons.inj same
      exact absurd (by simp [openingMark]) apart
  · next same =>
      obtain ⟨rfl, rfl⟩ := List.cons.inj same
      rfl
  · next same => exact absurd same (List.cons_ne_nil _ _)

/-- Outside a block a text is passed over in which no opening starts. -/
theorem collectBlocks_none_of_isQuiet (quiet : IsQuiet chars rest) :
    collectBlocks none (chars ++ rest) = collectBlocks none rest := by
  induction chars with
  | nil => rfl
  | cons char chars inductionHypothesis =>
      obtain ⟨silent, quiet⟩ := isQuiet_cons_iff.mp quiet
      rw [← inductionHypothesis quiet, List.cons_append]
      generalize chars ++ rest = text at silent
      by_cases apart : openingMark <+: char :: text
      · -- the mark is there, so a slash follows it
        have slashed : openingMark ++ ['/'] <+: char :: text := not_not.mp fun unslashed =>
          silent ⟨apart, unslashed⟩
        obtain ⟨others, whole⟩ := slashed
        obtain ⟨rfl, rfl⟩ := List.cons.inj whole
        simp [collectBlocks]
      · exact collectBlocks_none_cons apart

/-- Each opening is counted where it starts. -/
theorem countOpenings_cons_eq (char : Char) (text : List Char) :
    countOpenings (char :: text) =
      countOpenings text + if IsOpening (char :: text) then 1 else 0 := by
  by_cases apart : openingMark <+: char :: text
  · obtain ⟨others, whole⟩ := apart
    obtain ⟨rfl, rfl⟩ := List.cons.inj whole
    have opens : IsOpening ('/' :: ['*', '*'].append others) ↔ others.head? ≠ some '/' :=
      isOpening_openingMark_iff
    simp only [opens, ite_not]
    simp [countOpenings, Nat.add_comm]
  · rw [countOpenings_cons apart, if_neg fun opening : IsOpening _ => apart opening.1, Nat.add_zero]

/-- In front of a text nothing is counted exactly if no opening starts there. -/
theorem countOpenings_append_eq_iff (chars rest : List Char) :
    countOpenings rest ≤ countOpenings (chars ++ rest) ∧
      (countOpenings (chars ++ rest) = countOpenings rest ↔ IsQuiet chars rest) := by
  induction chars with
  | nil => simp [isQuiet_nil]
  | cons char chars inductionHypothesis =>
      obtain ⟨least, same⟩ := inductionHypothesis
      rw [List.cons_append, countOpenings_cons_eq, isQuiet_cons_iff, ← same]
      split
      · next opening =>
          refine ⟨by omega, ?_⟩
          simp only [opening, not_true_eq_false, false_and, iff_false]
          omega
      · next silent => simpa [silent] using least

theorem countOpenings_openingMark_append (opens : rest.head? ≠ some '/') :
    countOpenings (openingMark ++ rest) = countOpenings rest + 1 := by
  simp only [openingMark, List.cons_append, List.nil_append, countOpenings, if_neg opens]
  exact Nat.add_comm 1 _

theorem not_isInfix_of_cons
    {mark : List Char}
    (absent : ¬mark <:+: char :: chars) :
    ¬mark <:+: chars :=
  fun inside => absent (inside.trans (List.suffix_cons char chars).isInfix)

/-- Inside a block a text is read that does not close it. -/
theorem collectBlocks_some_append
    (unclosed : ¬closingMark <:+: chars)
    (read rest : List Char) :
    collectBlocks (some read) (chars ++ (closingMark ++ rest)) =
      (read.reverse ++ chars) :: collectBlocks none rest := by
  induction chars generalizing read with
  | nil => simp [closingMark, collectBlocks]
  | cons char chars inductionHypothesis =>
      have apart : ¬closingMark <+: char :: (chars ++ (closingMark ++ rest)) := by
        rw [← List.cons_append]
        exact Text.not_isPrefix_append unclosed (List.cons_ne_nil char chars)
          (by simp [closingMark])
      rw [List.cons_append, collectBlocks_some_cons apart,
        inductionHypothesis (not_isInfix_of_cons unclosed)]
      simp

/-- A block is collected between its marks. -/
theorem collectBlocks_block
    {body after : List Char}
    (isBody : IsBody body) :
    collectBlocks none (openingMark ++ (body ++ (closingMark ++ after))) =
      body :: collectBlocks none after := by
  have read := collectBlocks_some_append isBody.unclosed [] after
  rw [List.reverse_nil, List.nil_append] at read
  rw [← read, openingMark]
  simp only [List.cons_append, List.nil_append, collectBlocks]
  rw [if_neg (isBody.head?_append_ne after)]

/-- Inside a block that nothing closes nothing is collected. -/
theorem collectBlocks_some_of_unclosed
    (unclosed : ¬closingMark <:+: rest)
    (read : List Char) :
    collectBlocks (some read) rest = [] := by
  induction rest generalizing read with
  | nil => rfl
  | cons char rest inductionHypothesis =>
      have apart : ¬closingMark <+: char :: rest := fun starts => unclosed starts.isInfix
      rw [collectBlocks_some_cons apart]
      exact inductionHypothesis (not_isInfix_of_cons unclosed) _

end Steps

/-! ## What scanning finds -/

section Scanning

variable {chars : List Char} {found : List Block} {isOpen : Bool}

/-- Exactly the blocks that scanning finds are collected. -/
theorem Scans.blocks_eq (scans : Scans chars found isOpen) :
    blocks chars = found.map Block.body := by
  induction scans with
  | @finished chars quiet =>
      have passed := collectBlocks_none_of_isQuiet quiet
      rw [List.append_nil] at passed
      exact passed
  | @unclosed before rest quiet opens unclosed =>
      rw [blocks, collectBlocks_none_of_isQuiet quiet]
      simp only [openingMark, List.cons_append, List.nil_append, collectBlocks, if_neg opens]
      exact collectBlocks_some_of_unclosed unclosed []
  | closed quiet isBody rest inductionHypothesis =>
      rw [blocks, withBlock, collectBlocks_none_of_isQuiet quiet, collectBlocks_block isBody]
      exact congrArg (_ :: ·) inductionHypothesis

/-- As many openings are counted as there are blocks exactly if each of them opens a block. -/
theorem Scans.countOpenings_eq_iff (scans : Scans chars found isOpen) :
    found.length ≤ countOpenings chars ∧
      (countOpenings chars = found.length ↔
        isOpen = false ∧ ∀ block ∈ found, ¬block.HasOpening) := by
  induction scans with
  | @finished chars quiet =>
      have counted := (countOpenings_append_eq_iff chars []).2.mpr quiet
      rw [List.append_nil] at counted
      simp [counted, countOpenings]
  | @unclosed before rest quiet opens unclosed =>
      have counted := (countOpenings_append_eq_iff before (openingMark ++ rest)).2.mpr quiet
      rw [counted, countOpenings_openingMark_append opens]
      simp
  | @closed before body after found isOpen quiet isBody rest inductionHypothesis =>
      obtain ⟨least, same⟩ := inductionHypothesis
      have counted := (countOpenings_append_eq_iff before _).2.mpr quiet
      obtain ⟨within, quietWithin⟩ := countOpenings_append_eq_iff (body ++ closingMark) after
      rw [List.append_assoc] at within quietWithin
      rw [withBlock, counted, countOpenings_openingMark_append (isBody.head?_append_ne after),
        List.length_cons]
      refine ⟨by omega, ?_⟩
      have both : countOpenings (body ++ (closingMark ++ after)) + 1 = found.length + 1 ↔
          countOpenings (body ++ (closingMark ++ after)) = countOpenings after ∧
            countOpenings after = found.length := by
        omega
      rw [both, quietWithin, same, List.forall_mem_cons, Block.HasOpening, not_not]
      tauto

end Scanning

/-! ## Exchanging a block -/

/-- A body is what stands before the first closing mark. -/
theorem eq_of_append_closingMark
    {body other after rest : List Char}
    (bodyUnclosed : ¬closingMark <:+: body)
    (otherUnclosed : ¬closingMark <:+: other)
    (same : body ++ (closingMark ++ after) = other ++ (closingMark ++ rest)) :
    body = other ∧ after = rest := by
  have collected := congrArg (collectBlocks (some [])) same
  rw [collectBlocks_some_append bodyUnclosed, collectBlocks_some_append otherUnclosed] at collected
  obtain rfl : body = other := (List.cons.inj collected).1
  exact ⟨rfl, (List.append_right_inj _).mp ((List.append_right_inj _).mp same)⟩

/-- A block in a text with a first one is the first one, or stands after it. -/
theorem cases_of_withBlock_eq
    {first firstBody rest before body after : List Char}
    (quiet : IsQuiet first (openingMark ++ (firstBody ++ (closingMark ++ rest))))
    (isFirstBody : IsBody firstBody)
    (quietWithin : IsQuiet (firstBody ++ closingMark) rest)
    (isBody : IsBody body)
    (same : withBlock first firstBody rest = withBlock before body after) :
    (first = before ∧ firstBody = body ∧ rest = after) ∨
      ∃ between, before = withBlock first firstBody between ∧
        rest = withBlock between body after := by
  have opening : IsOpening (openingMark ++ (body ++ (closingMark ++ after))) :=
    isOpening_openingMark_iff.mpr (isBody.head?_append_ne after)
  by_cases together : first = before
  · subst together
    have bodies := (List.append_right_inj openingMark).mp ((List.append_right_inj first).mp same)
    exact .inl ⟨rfl, eq_of_append_closingMark isFirstBody.unclosed isBody.unclosed bodies⟩
  · obtain ⟨skipped, rfl, later⟩ | ⟨skipped, rfl, earlier⟩ := List.append_eq_append_iff.mp same
    · obtain ⟨char, skipped, rfl⟩ := List.exists_cons_of_ne_nil (l := skipped) (by
        rintro rfl
        exact together (List.append_nil first).symm)
      obtain ⟨rfl, inner⟩ := List.cons.inj later
      have regrouped : '*' :: '*' :: (firstBody ++ closingMark) ++ rest =
          skipped ++ (openingMark ++ (body ++ (closingMark ++ after))) := by
        simpa using inner
      obtain ⟨between, whole, rfl⟩ | ⟨left, whole, within⟩ :=
        List.append_eq_append_iff.mp regrouped
      · refine .inr ⟨between, ?_, rfl⟩
        simp [withBlock, whole, openingMark]
      · by_cases exhausted : left = []
        · subst exhausted
          refine .inr ⟨[], ?_, within.symm⟩
          rw [List.append_nil] at whole
          simp [withBlock, ← whole, openingMark]
        · -- the opening would start within the first block
          have quietStars : IsQuiet ('*' :: '*' :: (firstBody ++ closingMark)) rest :=
            isQuiet_cons_iff.mpr ⟨not_isOpening_star,
              isQuiet_cons_iff.mpr ⟨not_isOpening_star, quietWithin⟩⟩
          rw [within] at opening
          exact absurd opening (quietStars left ⟨skipped, whole.symm⟩ exhausted)
    · have nonempty : skipped ≠ [] := by
        rintro rfl
        exact together (List.append_nil before)
      rw [earlier] at opening
      exact absurd opening (quiet skipped (List.suffix_append before skipped) nonempty)

/--
In a text whose openings all open blocks, each opening with a body opens one of them, and
scanning finds the same blocks around it when the body is exchanged.
-/
theorem Scans.exists_around
    {chars before body after : List Char}
    {found : List Block}
    {isOpen : Bool}
    (scans : Scans chars found isOpen)
    (closed : isOpen = false)
    (quiet : ∀ block ∈ found, ¬block.HasOpening)
    (text : chars = withBlock before body after)
    (isBody : IsBody body) :
    ∃ front back, found = front ++ ⟨body, after⟩ :: back ∧
      ∀ other, IsBody other → IsQuiet (other ++ closingMark) after →
        ∃ newFront, newFront.map Block.body = front.map Block.body ∧
          (∀ block ∈ newFront, ¬block.HasOpening) ∧
          Scans (withBlock before other after) (newFront ++ ⟨other, after⟩ :: back) false := by
  induction scans generalizing before with
  | @finished chars quietText =>
      have opening : IsOpening (openingMark ++ (body ++ (closingMark ++ after))) :=
        isOpening_openingMark_iff.mpr (isBody.head?_append_ne after)
      rw [← List.append_nil (openingMark ++ _)] at opening
      exact absurd opening (quietText _ ⟨before, text.symm⟩ (by simp [openingMark]))
  | unclosed => exact absurd closed (by decide)
  | @closed first firstBody rest found isOpen quietFirst isFirstBody scans inductionHypothesis =>
      rw [List.forall_mem_cons, Block.HasOpening, not_not] at quiet
      obtain ⟨quietWithin, quietRest⟩ := quiet
      obtain ⟨rfl, rfl, rfl⟩ | ⟨between, rfl, rfl⟩ :=
        cases_of_withBlock_eq quietFirst isFirstBody quietWithin isBody text
      · refine ⟨[], found, rfl, fun other isOther quietOther => ⟨[], rfl, by simp, ?_⟩⟩
        exact .closed (isQuiet_congr [] quietFirst _) isOther (closed ▸ scans)
      · obtain ⟨front, back, rfl, exchange⟩ := inductionHypothesis closed quietRest rfl
        refine ⟨⟨firstBody, _⟩ :: front, back, rfl, fun other isOther quietOther => ?_⟩
        obtain ⟨newFront, bodies, quietFront, newScans⟩ := exchange other isOther quietOther
        have nested : withBlock (withBlock first firstBody between) other after =
            withBlock first firstBody (withBlock between other after) := by
          simp [withBlock]
        refine ⟨⟨firstBody, withBlock between other after⟩ :: newFront,
          congrArg (firstBody :: ·) bodies, ?_, ?_⟩
        · rw [List.forall_mem_cons, Block.HasOpening, not_not]
          exact ⟨isQuiet_congr between quietWithin _, quietFront⟩
        · rw [nested]
          exact .closed (isQuiet_congr [] quietFirst _) isFirstBody newScans

/-! ## Every text can be scanned -/

/-- A text is quiet or has a first opening. -/
theorem isQuiet_or_exists_opening (chars : List Char) :
    IsQuiet chars [] ∨ ∃ before rest, chars = before ++ (openingMark ++ rest) ∧
      rest.head? ≠ some '/' ∧ IsQuiet before (openingMark ++ rest) := by
  induction chars with
  | nil => exact .inl isQuiet_nil
  | cons char chars inductionHypothesis =>
      by_cases opening : IsOpening (char :: chars)
      · obtain ⟨rest, whole⟩ := opening.1
        rw [← whole] at opening ⊢
        exact .inr ⟨[], rest, rfl, isOpening_openingMark_iff.mp opening, isQuiet_nil⟩
      · obtain quiet | ⟨before, rest, rfl, opens, quiet⟩ := inductionHypothesis
        · rw [isQuiet_cons_iff, List.append_nil]
          exact .inl ⟨opening, quiet⟩
        · exact .inr ⟨char :: before, rest, rfl, opens, isQuiet_cons_iff.mpr ⟨opening, quiet⟩⟩

/-- A text with a mark in it has a first one. -/
theorem exists_first_closingMark
    {chars : List Char}
    (inside : closingMark <:+: chars) :
    ∃ body after, chars = body ++ (closingMark ++ after) ∧ ¬closingMark <:+: body := by
  induction chars with
  | nil => exact absurd inside (by decide)
  | cons char chars inductionHypothesis =>
      by_cases starts : closingMark <+: char :: chars
      · obtain ⟨after, whole⟩ := starts
        exact ⟨[], after, whole.symm, by decide⟩
      · obtain ⟨body, after, rfl, first⟩ :=
          inductionHypothesis ((List.infix_cons_iff.mp inside).resolve_left starts)
        refine ⟨char :: body, after, rfl, fun within => ?_⟩
        obtain early | late := List.infix_cons_iff.mp within
        · exact starts (early.trans (List.prefix_append (char :: body) _))
        · exact first late

/-- Scanning a text finds something. -/
theorem exists_scans (chars : List Char) : ∃ found isOpen, Scans chars found isOpen := by
  induction size : chars.length using Nat.strong_induction_on generalizing chars with
  | _ bound inductionHypothesis =>
      obtain quiet | ⟨before, rest, rfl, opens, quiet⟩ := isQuiet_or_exists_opening chars
      · exact ⟨[], false, .finished quiet⟩
      · by_cases inside : closingMark <:+: rest
        · obtain ⟨body, after, rfl, first⟩ := exists_first_closingMark inside
          have opensBody : body.head? ≠ some '/' := by
            cases body with
            | nil => simp
            | cons char body => exact opens
          have shorter : after.length < bound := by
            rw [← size]
            simp only [List.length_append, openingMark, List.length_cons]
            omega
          obtain ⟨found, isOpen, scans⟩ := inductionHypothesis _ shorter after rfl
          exact ⟨⟨body, after⟩ :: found, isOpen, .closed quiet ⟨opensBody, first⟩ scans⟩
        · exact ⟨[], true, .unclosed quiet opens inside⟩

end Documentation
end RoutineGate
