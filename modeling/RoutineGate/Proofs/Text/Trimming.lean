import Mathlib.Data.List.DropRight
import Mathlib.Data.List.TakeWhile
import RoutineGate.Text.Blank
import RoutineGate.Text.Lines
import RoutineGate.Text.WordChar

/-!
# Texts without blanks around them

What is trimmed starts and ends with characters that are not blank, so it stays trimmed
between other texts.  No word character is blank, and every character that ends a line is.
-/

namespace RoutineGate
namespace Text

/-! ## Kinds of characters -/

/-- A code point that ranges contain lies in one of them. -/
theorem Ranges.exists_of_contains
    {ranges : Ranges}
    {code : Nat}
    (contained : ranges.contains code = true) :
    ∃ range ∈ ranges, range.1 ≤ code ∧ code ≤ range.2 := by
  induction ranges with
  | nil => exact absurd contained Bool.false_ne_true
  | cons range ranges inductionHypothesis =>
      simp only [contains] at contained
      split at contained
      · exact absurd contained Bool.false_ne_true
      · next above =>
          split at contained
          · next below => exact ⟨range, List.mem_cons_self, Nat.le_of_not_lt above, below⟩
          · obtain ⟨found, listed, inside⟩ := inductionHypothesis contained
            exact ⟨found, List.mem_cons_of_mem range listed, inside⟩

theorem blankRanges_apart_wordRanges :
    ∀ blank ∈ blankRanges, ∀ word ∈ wordRanges, blank.2 < word.1 ∨ word.2 < blank.1 := by
  decide +kernel

theorem isBlank_eq_false_of_isWordChar
    {char : Char}
    (isWord : isWordChar char = true) :
    isBlank char = false := by
  rw [Bool.eq_false_iff]
  intro isBlank
  obtain ⟨blank, blankListed, blankBounds⟩ := Ranges.exists_of_contains isBlank
  obtain ⟨word, wordListed, wordBounds⟩ := Ranges.exists_of_contains isWord
  have apart := blankRanges_apart_wordRanges blank blankListed word wordListed
  omega

/-- What ends a line is blank. -/
theorem isBlank_of_isLineEnd
    {char : Char}
    (ends : isLineEnd char = true) :
    isBlank char = true := by
  have early : ∀ code ≤ 0x1E, (0xA ≤ code ∧ code ≤ 0xD) ∨ 0x1C ≤ code →
      blankRanges.contains code = true := by decide
  simp only [isLineEnd, Bool.or_eq_true, Bool.and_eq_true, decide_eq_true_eq, beq_iff_eq] at ends
  unfold isBlank
  obtain (((bounds | bounds) | same) | same) | same := ends
  · exact early _ (by omega) (.inl bounds)
  · exact early _ bounds.2 (.inr bounds.1)
  · rw [same]
    decide
  · rw [same]
    decide
  · rw [same]
    decide

/-! ## Trimming -/

section Trimming

variable {chars : List Char}

/-- Leaving out a suffix is the library's function of the same purpose. -/
theorem dropWhileEnd_eq_rdropWhile {Entry : Type}
    (test : Entry → Bool)
    (entries : List Entry) :
    dropWhileEnd test entries = entries.rdropWhile test := by
  induction entries with
  | nil => rfl
  | cons head tail inductionHypothesis =>
      rw [dropWhileEnd, inductionHypothesis, List.rdropWhile, List.rdropWhile, List.reverse_cons,
        List.dropWhile_append]
      cases kept : tail.reverse.dropWhile test with
      | nil => cases passes : test head <;> simp [passes]
      | cons last others =>
          rw [List.isEmpty_cons, if_neg Bool.false_ne_true, List.reverse_append]
          split
          · next none => simp at none
          · rfl

theorem trimStart_eq_self_iff :
    trimStart chars = chars ↔ ∀ char ∈ chars.head?, isBlank char = false := by
  cases chars with
  | nil => simp
  | cons char rest => simp [trimStart, List.dropWhile_eq_self_iff]

theorem trimEnd_eq_self_iff :
    trimEnd chars = chars ↔ ∀ char ∈ chars.getLast?, isBlank char = false := by
  rw [trimEnd, dropWhileEnd_eq_rdropWhile, List.rdropWhile_eq_self_iff]
  constructor
  · intro kept char last
    obtain ⟨nonempty, rfl⟩ := List.mem_getLast?_eq_getLast last
    exact Bool.eq_false_iff.mpr (kept nonempty)
  · intro kept nonempty
    rw [kept _ (List.getLast_mem_getLast? nonempty)]
    exact Bool.false_ne_true

/-- A text is trimmed exactly if it is trimmed at both ends. -/
theorem trim_eq_self_iff :
    trim chars = chars ↔ trimStart chars = chars ∧ trimEnd chars = chars := by
  constructor
  · intro kept
    have shorter : chars.length ≤ (trimStart chars).length := by
      have ends := (dropWhileEnd_isPrefix isBlank (trimStart chars)).length_le
      rwa [← trimEnd, ← trim, kept] at ends
    have started : trimStart chars = chars :=
      (List.dropWhile_suffix isBlank).eq_of_length_le shorter
    refine ⟨started, ?_⟩
    rw [trim, started] at kept
    exact kept
  · rintro ⟨started, ended⟩
    rw [trim, started, ended]

/-- A text that is not empty keeps its start in front of another one. -/
theorem trimStart_append
    (kept : trimStart chars = chars)
    (nonempty : chars ≠ [])
    (rest : List Char) :
    trimStart (chars ++ rest) = chars ++ rest := by
  rw [trimStart_eq_self_iff] at kept ⊢
  rwa [List.head?_append_of_ne_nil _ nonempty]

/-- A text that is not empty keeps its end after another one. -/
theorem trimEnd_append
    (kept : trimEnd chars = chars)
    (nonempty : chars ≠ [])
    (front : List Char) :
    trimEnd (front ++ chars) = front ++ chars := by
  rw [trimEnd_eq_self_iff] at kept ⊢
  rwa [List.getLast?_append_of_ne_nil _ nonempty]

/-- Blanks at the end are left out. -/
theorem trimEnd_append_of_blank
    {after : List Char}
    (blank : ∀ char ∈ after, isBlank char = true)
    (chars : List Char) :
    trimEnd (chars ++ after) = trimEnd chars := by
  simp only [trimEnd, dropWhileEnd_eq_rdropWhile, List.rdropWhile, List.reverse_append]
  rw [List.dropWhile_append_of_pos (by simpa using blank)]

/-- What is left out at the end of a text is blank. -/
theorem exists_trimEnd_append (chars : List Char) :
    ∃ after, chars = trimEnd chars ++ after ∧ ∀ char ∈ after, isBlank char = true := by
  refine ⟨chars.rtakeWhile isBlank, ?_, fun char => List.mem_rtakeWhile_imp⟩
  rw [trimEnd, dropWhileEnd_eq_rdropWhile, List.rdropWhile_append_rtakeWhile]

@[simp] theorem trimEnd_trimEnd (chars : List Char) : trimEnd (trimEnd chars) = trimEnd chars := by
  simp only [trimEnd, dropWhileEnd_eq_rdropWhile, List.rdropWhile_idempotent]

/-- After a text that does not end with a blank only the rest is trimmed. -/
theorem trimEnd_append_eq
    {front : List Char}
    (kept : trimEnd front = front)
    (chars : List Char) :
    trimEnd (front ++ chars) = front ++ trimEnd chars := by
  cases same : trimEnd chars with
  | nil =>
      rw [trimEnd, dropWhileEnd_eq_rdropWhile, List.rdropWhile_eq_nil_iff] at same
      rw [trimEnd_append_of_blank same, kept, List.append_nil]
  | cons char others =>
      obtain ⟨after, whole, blank⟩ := exists_trimEnd_append chars
      calc trimEnd (front ++ chars)
          = trimEnd (front ++ trimEnd chars ++ after) := by rw [List.append_assoc, ← whole]
        _ = trimEnd (front ++ trimEnd chars) := trimEnd_append_of_blank blank _
        _ = front ++ trimEnd chars :=
          trimEnd_append (trimEnd_trimEnd chars) (by simp [same]) front
        _ = front ++ char :: others := by rw [same]

/-- Nothing is left out where no element passes the test. -/
theorem dropWhileEnd_of_forall {Entry : Type}
    {test : Entry → Bool}
    {entries : List Entry}
    (fails : ∀ entry ∈ entries, test entry = false) :
    dropWhileEnd test entries = entries := by
  rw [dropWhileEnd_eq_rdropWhile, List.rdropWhile_eq_self_iff]
  intro nonempty
  rw [fails _ (List.getLast_mem nonempty)]
  exact Bool.false_ne_true

/-- A text without blanks is trimmed. -/
theorem trimEnd_of_forall
    (unbroken : ∀ char ∈ chars, isBlank char = false) :
    trimEnd chars = chars :=
  dropWhileEnd_of_forall unbroken

theorem trimStart_of_forall
    (unbroken : ∀ char ∈ chars, isBlank char = false) :
    trimStart chars = chars :=
  trimStart_eq_self_iff.mpr fun char first => unbroken char (List.mem_of_head? first)

/-- Trimmed characters are among the given ones. -/
theorem mem_of_mem_trim
    {char : Char}
    (member : char ∈ trim chars) :
    char ∈ chars :=
  (List.dropWhile_suffix isBlank).subset ((dropWhileEnd_isPrefix isBlank _).subset member)

/-- What is trimmed has no blanks around it. -/
@[simp] theorem trim_trim (chars : List Char) : trim (trim chars) = trim chars := by
  rw [trim_eq_self_iff]
  constructor
  · rw [trimStart_eq_self_iff]
    intro char first
    have started := trimStart_eq_self_iff.mp (List.dropWhile_idempotent isBlank chars)
    obtain ⟨rest, whole⟩ : trim chars <+: trimStart chars := dropWhileEnd_isPrefix isBlank _
    refine started char ?_
    rw [← trimStart, ← whole, List.head?_append, first]
    rfl
  · exact trimEnd_trimEnd _

/-- Blanks after a text are left out. -/
theorem trim_append_of_blank
    {after : List Char}
    (blank : ∀ char ∈ after, isBlank char = true)
    (chars : List Char) :
    trim (chars ++ after) = trim chars := by
  rw [trim, trimStart, List.dropWhile_append]
  split
  · next none =>
      have allBlank : trimStart chars = [] := List.isEmpty_iff.mp none
      have afterBlank : after.dropWhile isBlank = [] := List.dropWhile_eq_nil_iff.mpr blank
      rw [afterBlank, trim, allBlank]
  · exact trimEnd_append_of_blank blank _

@[simp] theorem trim_trimEnd (chars : List Char) : trim (trimEnd chars) = trim chars := by
  obtain ⟨after, whole, blank⟩ := exists_trimEnd_append chars
  conv_rhs => rw [whole]
  exact (trim_append_of_blank blank _).symm

/-- Blanks around a text are left out. -/
theorem trim_of_blanks
    {before after : List Char}
    (kept : trim chars = chars)
    (blankBefore : ∀ char ∈ before, isBlank char = true)
    (blankAfter : ∀ char ∈ after, isBlank char = true) :
    trim (before ++ chars ++ after) = chars := by
  rw [trim_append_of_blank blankAfter, trim, trimStart, List.dropWhile_append_of_pos blankBefore]
  exact kept

end Trimming

end Text
end RoutineGate
