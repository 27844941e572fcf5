import RoutineGate.Proofs.Expression.Scanning

/-!
# What ends a lexeme

The numbers, texts, pattern literals, names and marks of an expression are its lexemes.  How far
a lexeme goes is settled by its own characters, unless something follows that it could go on
with; a blank always ends it.
-/

namespace RoutineGate
namespace Expression
namespace Token

/-! ## How far a lexeme goes -/

/-- Whether a text is empty or starts with a blank. -/
def Stops (rest : List Char) : Prop :=
  ∀ char ∈ rest.head?, Text.isBlank char = true

theorem stops_of_blanks
    {blanks : List Char}
    (areBlank : ∀ char ∈ blanks, Text.isBlank char = true) :
    Stops blanks := fun char member => areBlank char (List.mem_of_mem_head? member)

/--
A measure of how much of a text is taken from its start: what it takes it still takes if other
things follow, and it takes nothing beyond a blank.
-/
structure IsExtent (extent : List Char → Nat) : Prop where
  le_length : ∀ chars, extent chars ≤ chars.length
  /-- Only what is taken matters. -/
  of_append : ∀ front rest, extent (front ++ rest) ≤ front.length →
    extent front = extent (front ++ rest)
  /-- A blank ends what is taken. -/
  append_of_stops : ∀ front rest, Stops rest → extent (front ++ rest) = extent front

/-- What follows may be replaced by something that starts with a blank. -/
theorem IsExtent.eq_of_stops
    {extent : List Char → Nat}
    (isExtent : IsExtent extent)
    {front rest other : List Char}
    (within : extent (front ++ rest) ≤ front.length)
    (stops : Stops other) :
    extent (front ++ other) = extent (front ++ rest) := by
  rw [isExtent.append_of_stops front other stops, isExtent.of_append front rest within]

/-- An extent and another one after it make up an extent. -/
theorem IsExtent.followed
    {first second : List Char → Nat}
    (isFirst : IsExtent first)
    (isSecond : IsExtent second) :
    IsExtent fun chars => first chars + second (chars.drop (first chars)) where
  le_length chars := by
    have rest := isSecond.le_length (chars.drop (first chars))
    have whole := isFirst.le_length chars
    rw [List.length_drop] at rest
    omega
  of_append front rest within := by
    have firstSame := isFirst.of_append front rest (by omega)
    rw [← firstSame] at within ⊢
    rw [List.drop_append_of_le_length (isFirst.le_length front)] at within ⊢
    have secondSame := isSecond.of_append (front.drop (first front)) rest
      (by rw [List.length_drop]; omega)
    rw [secondSame]
  append_of_stops front rest stops := by
    rw [isFirst.append_of_stops front rest stops,
      List.drop_append_of_le_length (isFirst.le_length front),
      isSecond.append_of_stops _ rest stops]

theorem runLength_le_length (test : Char → Bool) (chars : List Char) :
    runLength test chars ≤ chars.length := by
  induction chars with
  | nil => exact Nat.le_refl 0
  | cons char chars inductionHypothesis =>
      cases passes : test char <;> simp [runLength, passes, inductionHypothesis]

/-- A run of characters that pass a test is an extent, if no blank passes it. -/
theorem isExtent_runLength
    {test : Char → Bool}
    (noBlank : ∀ char, test char = true → Text.isBlank char = false) :
    IsExtent (runLength test) where
  le_length := runLength_le_length test
  of_append front rest := by
    induction front with
    | nil =>
        intro within
        exact (Nat.le_zero.mp within).symm
    | cons char front inductionHypothesis =>
        intro within
        cases passes : test char with
        | false => simp [runLength, passes]
        | true =>
            simp only [List.cons_append, runLength, passes, if_true, List.length_cons,
              Nat.add_le_add_iff_right] at within ⊢
            rw [inductionHypothesis within]
  append_of_stops front rest stops := by
    induction front with
    | nil =>
        cases rest with
        | nil => rfl
        | cons char rest =>
            have fails : test char = false := by
              rw [Bool.eq_false_iff]
              intro passes
              exact absurd (stops char rfl) (by simp [noBlank char passes])
            simp [runLength, fails]
    | cons char front inductionHypothesis =>
        simp only [List.cons_append, runLength, inductionHypothesis]

theorem isExtent_decimals : IsExtent (runLength Text.isDecimal) :=
  isExtent_runLength fun _ => Text.isBlank_eq_false_of_isDecimal

theorem isExtent_nameParts : IsExtent (runLength isNamePart) := by
  apply isExtent_runLength
  intro char isPart
  obtain word | dollar := Bool.or_eq_true_iff.mp isPart
  · exact Text.isBlank_eq_false_of_isWordChar word
  · rw [of_decide_eq_true dollar]
    decide

theorem isExtent_flagLetters : IsExtent (runLength isFlagLetter) := by
  apply isExtent_runLength
  intro char isLetter
  obtain ⟨above, below⟩ := Bool.and_eq_true_iff.mp isLetter
  have above : 'a'.toNat ≤ char.toNat := of_decide_eq_true above
  have below : char.toNat ≤ 'z'.toNat := of_decide_eq_true below
  rw [Bool.eq_false_iff]
  intro blank
  obtain ⟨range, listed, bounds⟩ := Text.Ranges.exists_of_contains blank
  have apart : ∀ range ∈ Text.blankRanges, range.2 < 'a'.toNat ∨ 'z'.toNat < range.1 := by decide
  have := apart range listed
  omega

/-- A mark with what is taken after it, or nothing if nothing is. -/
def marked (isMark : Char → Bool) (extent : List Char → Nat) : List Char → Nat
  | [] => 0
  | char :: rest => if isMark char = true ∧ extent rest ≠ 0 then extent rest + 1 else 0

theorem isExtent_marked
    {isMark : Char → Bool}
    {extent : List Char → Nat}
    (noBlank : ∀ char, isMark char = true → Text.isBlank char = false)
    (isExtent : IsExtent extent) :
    IsExtent (marked isMark extent) where
  le_length chars := by
    cases chars with
    | nil => exact Nat.le_refl 0
    | cons char rest =>
        have within := isExtent.le_length rest
        rw [marked, List.length_cons]
        split <;> omega
  of_append front rest within := by
    cases front with
    | nil => exact (Nat.le_zero.mp within).symm
    | cons char front =>
        rw [List.cons_append, marked, List.length_cons] at within
        rw [List.cons_append, marked, marked]
        by_cases isMark : isMark char = true
        · rw [isExtent.of_append front rest]
          by_cases nothing : extent (front ++ rest) = 0
          · omega
          · rw [if_pos ⟨isMark, nothing⟩] at within
            omega
        · rw [if_neg fun both => isMark both.1, if_neg fun both => isMark both.1]
  append_of_stops front rest stops := by
    cases front with
    | cons char front =>
        rw [List.cons_append, marked, marked, isExtent.append_of_stops front rest stops]
    | nil =>
        cases rest with
        | nil => rfl
        | cons char rest =>
            refine if_neg ?_
            rintro ⟨isMark, -⟩
            exact absurd (stops char rfl) (by simp [noBlank char isMark])

/-! ## Numbers -/

/-- A fraction is a point and digits. -/
theorem fractionLength_eq (chars : List Char) :
    fractionLength chars = marked (· = '.') (runLength Text.isDecimal) chars := by
  unfold fractionLength marked
  split
  · next rest =>
      cases digits : runLength Text.isDecimal rest <;> simp [digits]
  · next noPoint =>
      cases chars with
      | nil => rfl
      | cons char rest =>
          refine (if_neg ?_).symm
          rintro ⟨point, -⟩
          exact noPoint rest (by rw [of_decide_eq_true point])

theorem isExtent_fractionLength : IsExtent fractionLength := by
  rw [funext fractionLength_eq]
  refine isExtent_marked ?_ isExtent_decimals
  intro char point
  rw [of_decide_eq_true point]
  decide

/-- Digits, with a sign before them or without one. -/
def signedLength (chars : List Char) : Nat :=
  let signed := marked (fun sign => sign = '+' ∨ sign = '-') (runLength Text.isDecimal) chars
  signed + runLength Text.isDecimal (chars.drop signed)

theorem isExtent_signedLength : IsExtent signedLength := by
  refine (isExtent_marked ?_ isExtent_decimals).followed isExtent_decimals
  intro sign isSign
  obtain rfl | rfl := of_decide_eq_true isSign <;> decide

/-- Nothing more of a run follows it. -/
theorem runLength_drop_runLength (test : Char → Bool) (chars : List Char) :
    runLength test (chars.drop (runLength test chars)) = 0 := by
  induction chars with
  | nil => rfl
  | cons char rest inductionHypothesis =>
      cases passes : test char <;> simp [runLength, passes, inductionHypothesis]

theorem signedLength_sign
    {sign : Char}
    (isSign : sign = '+' ∨ sign = '-')
    (rest : List Char) :
    signedLength (sign :: rest) =
      if runLength Text.isDecimal rest = 0 then 0 else runLength Text.isDecimal rest + 1 := by
  have noDigit : runLength Text.isDecimal (sign :: rest) = 0 := by
    obtain rfl | rfl := isSign <;> exact if_neg (by decide)
  by_cases none : runLength Text.isDecimal rest = 0
  · simp [signedLength, marked, none, noDigit]
  · simp [signedLength, marked, none, isSign, runLength_drop_runLength]

theorem signedLength_of_not_sign
    {char : Char}
    (noSign : ¬(char = '+' ∨ char = '-'))
    (rest : List Char) :
    signedLength (char :: rest) = runLength Text.isDecimal (char :: rest) := by
  simp [signedLength, marked, noSign]

/-- An exponent is its letter and digits, with a sign before them or without one. -/
theorem exponentLength_eq (chars : List Char) :
    exponentLength chars = marked (fun mark => mark = 'e' ∨ mark = 'E') signedLength chars := by
  cases chars with
  | nil => rfl
  | cons mark rest =>
      by_cases isMark : mark = 'e' ∨ mark = 'E'
      · simp only [exponentLength, marked, isMark, if_true, decide_true, true_and]
        cases rest with
        | nil => rfl
        | cons char rest =>
            by_cases isSign : char = '+' ∨ char = '-'
            · rw [signedLength_sign isSign]
              obtain rfl | rfl := isSign
              all_goals
                cases digits : runLength Text.isDecimal rest <;> simp [digits]
            · rw [signedLength_of_not_sign isSign]
              split <;> grind
      · simp [exponentLength, marked, isMark]

theorem isExtent_exponentLength : IsExtent exponentLength := by
  rw [funext exponentLength_eq]
  refine isExtent_marked ?_ isExtent_signedLength
  intro mark isMark
  obtain rfl | rfl := of_decide_eq_true isMark <;> decide

/-- A number is its digits, a fraction and an exponent. -/
theorem isExtent_numberLength : IsExtent numberLength := by
  have whole := (isExtent_decimals.followed isExtent_fractionLength).followed
    isExtent_exponentLength
  exact whole

/-! ## Texts and patterns -/

/-- What may stand between two delimiters: characters of some kind, and escapes. -/
inductive IsBody (IsPlain : Char → Prop) : List Char → Prop
  | nil : IsBody IsPlain []
  /-- A backslash and what it escapes. -/
  | escape {char : Char} {rest : List Char}
      (sameLine : char ≠ '\n')
      (others : IsBody IsPlain rest) :
      IsBody IsPlain ('\\' :: char :: rest)
  | plain {char : Char} {rest : List Char}
      (isPlain : IsPlain char)
      (others : IsBody IsPlain rest) :
      IsBody IsPlain (char :: rest)

/-- What a text may have between its quotes without a backslash. -/
def IsTextPart (quote char : Char) : Prop :=
  char ≠ quote ∧ char ≠ '\\'

/-- What a pattern literal may have between its slashes without a backslash. -/
def IsPatternPart (char : Char) : Prop :=
  char ≠ '/' ∧ char ≠ '\\' ∧ char ≠ '\n'

/-- A text goes up to the next quote that is not escaped. -/
theorem textLength?_eq_some_iff
    {quote : Char}
    (notEscape : quote ≠ '\\')
    {chars : List Char}
    {length : Nat} :
    textLength? quote chars = some length ↔
      ∃ body after, IsBody (IsTextPart quote) body ∧ chars = body ++ quote :: after ∧
        length = body.length + 1 := by
  constructor
  · intro found
    fun_induction textLength? quote chars generalizing length with
    | case1 => simp at found
    | case2 => simp at found
    | case3 char rest sameLine inductionHypothesis =>
        obtain ⟨inner, foundInner, rfl⟩ := Option.map_eq_some_iff.mp found
        obtain ⟨body, after, isBody, rfl, rfl⟩ := inductionHypothesis foundInner
        exact ⟨'\\' :: char :: body, after, .escape sameLine isBody, rfl, rfl⟩
    | case4 => exact ⟨[], _, .nil, rfl, (Option.some.inj found).symm⟩
    | case5 => simp at found
    | case6 char rest notPair notQuote plain inductionHypothesis =>
        obtain ⟨inner, foundInner, rfl⟩ := Option.map_eq_some_iff.mp found
        obtain ⟨body, after, isBody, rfl, rfl⟩ := inductionHypothesis foundInner
        exact ⟨char :: body, after, .plain ⟨notQuote, plain⟩ isBody, rfl, rfl⟩
  · rintro ⟨body, after, isBody, rfl, rfl⟩
    induction isBody with
    | nil => simp [textLength?, notEscape]
    | escape sameLine others inductionHypothesis =>
        simp [textLength?, sameLine, inductionHypothesis]
    | plain isPlain others inductionHypothesis =>
        simp [textLength?, isPlain.1, isPlain.2, inductionHypothesis]

/-- A pattern literal goes up to the next slash that is not escaped, on the same line. -/
theorem patternLength?_eq_some_iff
    {isEmpty : Bool}
    {chars : List Char}
    {length : Nat} :
    patternLength? isEmpty chars = some length ↔
      ∃ body after, IsBody IsPatternPart body ∧ (isEmpty = true → body ≠ []) ∧
        chars = body ++ '/' :: after ∧ length = body.length + 1 := by
  constructor
  · intro found
    fun_induction patternLength? isEmpty chars generalizing length with
    | case1 => simp at found
    | case2 => simp at found
    | case3 isEmpty char rest sameLine inductionHypothesis =>
        obtain ⟨inner, foundInner, rfl⟩ := Option.map_eq_some_iff.mp found
        obtain ⟨body, after, isBody, -, rfl, rfl⟩ := inductionHypothesis foundInner
        exact ⟨'\\' :: char :: body, after, .escape sameLine isBody, by simp, rfl, rfl⟩
    | case4 => simp at found
    | case5 => exact ⟨[], _, .nil, by simp_all, rfl, (Option.some.inj found).symm⟩
    | case6 => simp at found
    | case7 isEmpty char rest notPair notSlash plain inductionHypothesis =>
        obtain ⟨inner, foundInner, rfl⟩ := Option.map_eq_some_iff.mp found
        obtain ⟨body, after, isBody, -, rfl, rfl⟩ := inductionHypothesis foundInner
        refine ⟨char :: body, after, .plain ⟨notSlash, ?_⟩ isBody, by simp, rfl, rfl⟩
        simpa using plain
  · rintro ⟨body, after, isBody, nonempty, rfl, rfl⟩
    induction isBody generalizing isEmpty with
    | nil =>
        have notEmpty : isEmpty = false := Bool.eq_false_iff.mpr fun empty => nonempty empty rfl
        simp [patternLength?, notEmpty]
    | escape sameLine others inductionHypothesis =>
        simp [patternLength?, sameLine, inductionHypothesis]
    | plain isPlain others inductionHypothesis =>
        simp [patternLength?, isPlain.1, isPlain.2.1, isPlain.2.2, inductionHypothesis]

/-- What is closed within the first of two texts does not depend on the second. -/
theorem exists_of_append_eq_closed
    {front rest body after : List Char}
    {closing : Char}
    (same : front ++ rest = body ++ closing :: after)
    (within : body.length + 1 ≤ front.length) :
    ∃ middle, front = body ++ closing :: middle := by
  have closed : body ++ [closing] <+: front ++ rest := ⟨after, by simp [same]⟩
  obtain ⟨middle, rfl⟩ := List.prefix_of_prefix_length_le closed (List.prefix_append front rest)
    (by simpa using within)
  exact ⟨middle, by simp⟩

theorem textLength?_append
    {quote : Char}
    (notEscape : quote ≠ '\\')
    {front rest other : List Char}
    {length : Nat}
    (found : textLength? quote (front ++ rest) = some length)
    (within : length ≤ front.length) :
    textLength? quote (front ++ other) = some length := by
  obtain ⟨body, after, isBody, same, rfl⟩ := (textLength?_eq_some_iff notEscape).mp found
  obtain ⟨middle, rfl⟩ := exists_of_append_eq_closed same within
  exact (textLength?_eq_some_iff notEscape).mpr ⟨body, _, isBody, List.append_assoc _ _ _, rfl⟩

theorem patternLength?_append
    {isEmpty : Bool}
    {front rest other : List Char}
    {length : Nat}
    (found : patternLength? isEmpty (front ++ rest) = some length)
    (within : length ≤ front.length) :
    patternLength? isEmpty (front ++ other) = some length := by
  obtain ⟨body, after, isBody, nonempty, same, rfl⟩ := patternLength?_eq_some_iff.mp found
  obtain ⟨middle, rfl⟩ := exists_of_append_eq_closed same within
  exact patternLength?_eq_some_iff.mpr
    ⟨body, _, isBody, nonempty, List.append_assoc _ _ _, rfl⟩

/-! ## Lexemes -/

/-- What stands at a place is a blank exactly if its first character is one. -/
theorem kindAt?_eq_blank_iff
    {char : Char}
    {rest : List Char}
    {length : Nat} :
    kindAt? (char :: rest) = some (.blank, length) ↔
      Text.isBlank char = true ∧ length = runLength Text.isBlank (char :: rest) := by
  rw [kindAt?]
  by_cases blank : Text.isBlank char = true
  · simp [blank, runLength, eq_comm]
  · split_ifs <;> simp [blank]

/-- What stands at a place is there. -/
theorem length_le_of_kindAt?
    {chars : List Char}
    {kind : Kind}
    {length : Nat}
    (isKind : kindAt? chars = some (kind, length)) :
    length ≤ chars.length := by
  cases chars with
  | nil => exact absurd isKind (by simp [kindAt?])
  | cons char rest =>
      rw [kindAt?] at isKind
      split_ifs at isKind with blank decimal quote slash start mark
      · obtain ⟨-, rfl⟩ := Prod.mk.inj (Option.some.inj isKind)
        exact Nat.succ_le_succ (runLength_le_length _ rest)
      · obtain ⟨-, rfl⟩ := Prod.mk.inj (Option.some.inj isKind)
        exact isExtent_numberLength.le_length (char :: rest)
      · obtain ⟨inner, found, same⟩ := Option.map_eq_some_iff.mp isKind
        obtain ⟨-, rfl⟩ := Prod.mk.inj same
        have notEscape : char ≠ '\\' := by
          rintro rfl
          exact absurd quote (by decide)
        obtain ⟨body, after, -, rfl, rfl⟩ := (textLength?_eq_some_iff notEscape).mp found
        simp
      · obtain ⟨inner, found, same⟩ := Option.map_eq_some_iff.mp isKind
        obtain ⟨-, rfl⟩ := Prod.mk.inj same
        obtain ⟨body, after, -, -, rfl, rfl⟩ := patternLength?_eq_some_iff.mp found
        have flags := runLength_le_length isFlagLetter
          ((body ++ '/' :: after).drop (body.length + 1))
        simp only [List.length_drop, List.length_append, List.length_cons] at flags ⊢
        omega
      · obtain ⟨-, rfl⟩ := Prod.mk.inj (Option.some.inj isKind)
        exact Nat.succ_le_succ (runLength_le_length _ rest)
      · obtain ⟨-, rfl⟩ := Prod.mk.inj (Option.some.inj isKind)
        simp

/-- A blank after a lexeme, in place of what follows it, leaves the lexeme as it is. -/
theorem kindAt?_append_of_stops
    {front rest other : List Char}
    {kind : Kind}
    {length : Nat}
    (isKind : kindAt? (front ++ rest) = some (kind, length))
    (notBlank : kind ≠ .blank)
    (within : length ≤ front.length)
    (stops : Stops other) :
    kindAt? (front ++ other) = some (kind, length) := by
  cases front with
  | nil =>
      obtain ⟨positive, -⟩ := cases_of_kindAt? isKind
      exact absurd (Nat.lt_of_lt_of_le positive within) (Nat.lt_irrefl 0)
  | cons char front =>
      rw [List.cons_append, kindAt?] at isKind ⊢
      split_ifs at isKind ⊢ with blank decimal quote slash start mark
      · exact absurd (Prod.mk.inj (Option.some.inj isKind)).1.symm notBlank
      · obtain ⟨rfl, rfl⟩ := Prod.mk.inj (Option.some.inj isKind)
        rw [← List.cons_append] at within ⊢
        rw [isExtent_numberLength.eq_of_stops within stops, List.cons_append]
      · obtain ⟨inner, found, same⟩ := Option.map_eq_some_iff.mp isKind
        obtain ⟨rfl, rfl⟩ := Prod.mk.inj same
        have notEscape : char ≠ '\\' := by
          rintro rfl
          exact absurd quote (by decide)
        rw [textLength?_append notEscape found (Nat.le_of_succ_le_succ within)]
        rfl
      · obtain ⟨inner, found, same⟩ := Option.map_eq_some_iff.mp isKind
        obtain ⟨rfl, rfl⟩ := Prod.mk.inj same
        have inFront : inner ≤ front.length := by
          rw [List.length_cons] at within
          omega
        rw [List.drop_append_of_le_length inFront] at within ⊢
        rw [patternLength?_append found inFront, Option.map_some,
          List.drop_append_of_le_length inFront, isExtent_flagLetters.eq_of_stops _ stops]
        rw [List.length_cons] at within
        rw [List.length_drop]
        omega
      · obtain ⟨rfl, rfl⟩ := Prod.mk.inj (Option.some.inj isKind)
        rw [isExtent_nameParts.eq_of_stops (Nat.le_of_succ_le_succ within) stops]
      · exact isKind

/-- The last character of a lexeme is no blank. -/
theorem not_isBlank_of_kindAt?
    {front after : List Char}
    {last : Char}
    {kind : Kind}
    (isKind : kindAt? (front ++ last :: after) = some (kind, front.length + 1))
    (notBlank : kind ≠ .blank) :
    Text.isBlank last = false := by
  rw [Bool.eq_false_iff]
  intro blank
  have stops : Stops (last :: after) := by
    rintro char first
    rwa [← Option.some.inj first]
  -- an extent ends before the last character
  have tooLong {extent : List Char → Nat} (isExtent : IsExtent extent) (chars : List Char) :
      extent (chars ++ last :: after) ≠ chars.length + 1 := by
    have within := isExtent.le_length chars
    rw [isExtent.append_of_stops chars _ stops]
    omega
  cases front with
  | nil =>
      rw [List.nil_append, kindAt?, if_pos blank] at isKind
      exact notBlank (Prod.mk.inj (Option.some.inj isKind)).1.symm
  | cons char front =>
      rw [List.cons_append, kindAt?] at isKind
      split_ifs at isKind with charBlank decimal quote slash start mark
      · exact notBlank (Prod.mk.inj (Option.some.inj isKind)).1.symm
      · exact tooLong isExtent_numberLength (char :: front) (Prod.mk.inj (Option.some.inj isKind)).2
      · obtain ⟨inner, found, same⟩ := Option.map_eq_some_iff.mp isKind
        have length := (Prod.mk.inj same).2
        rw [List.length_cons] at length
        have notEscape : char ≠ '\\' := by
          rintro rfl
          exact absurd quote (by decide)
        obtain ⟨body, rest, -, split, rfl⟩ := (textLength?_eq_some_iff notEscape).mp found
        obtain rfl := (List.cons.inj (List.append_inj split (by omega)).2).1
        exact charBlank blank
      · obtain ⟨inner, found, same⟩ := Option.map_eq_some_iff.mp isKind
        have length := (Prod.mk.inj same).2
        rw [List.length_cons] at length
        obtain ⟨body, rest, -, -, split, rfl⟩ := patternLength?_eq_some_iff.mp found
        by_cases flags : body.length + 1 ≤ front.length
        · rw [List.drop_append_of_le_length flags] at length
          apply tooLong isExtent_flagLetters (front.drop (body.length + 1))
          rw [List.length_drop]
          omega
        · obtain rfl := (List.cons.inj (List.append_inj split (by omega)).2).1
          exact absurd blank (by decide)
      · exact tooLong isExtent_nameParts front
          (Nat.succ.inj (Prod.mk.inj (Option.some.inj isKind)).2)
      · exact absurd (Prod.mk.inj (Option.some.inj isKind)).2 (by simp)

end Token
end Expression
end RoutineGate
