import RoutineGate.Proofs.Json.Reading

/-!
# The grammar of texts

Between the quotes of a text every character stands for itself or behind a backslash, by its
letter or by its code.  Two codes that are surrogates of each other stand for one character.
-/

namespace RoutineGate
namespace Json

/-! ## Codes -/

/-- Four hexadecimal digits and the number that they write. -/
inductive IsCode : Nat → List Char → Prop
  | intro {first second third fourth : Char} {first' second' third' fourth' : Nat}
      (isFirst : Text.hexValue? first = some first')
      (isSecond : Text.hexValue? second = some second')
      (isThird : Text.hexValue? third = some third')
      (isFourth : Text.hexValue? fourth = some fourth') :
      IsCode (((first' * 16 + second') * 16 + third') * 16 + fourth')
        [first, second, third, fourth]

def IsHighSurrogate (code : Nat) : Prop :=
  0xD800 ≤ code ∧ code ≤ 0xDBFF

def IsLowSurrogate (code : Nat) : Prop :=
  0xDC00 ≤ code ∧ code ≤ 0xDFFF

theorem fourDigits?_eq_some_iff
    {chars rest : List Char}
    {code : Nat} :
    fourDigits? chars = some (code, rest) ↔
      ∃ digits, IsCode code digits ∧ chars = digits ++ rest := by
  constructor
  · intro found
    unfold fourDigits? at found
    split at found
    · split at found
      · next isFirst isSecond isThird isFourth =>
          obtain ⟨rfl, rfl⟩ := Prod.mk.inj (Option.some.inj found)
          exact ⟨_, .intro isFirst isSecond isThird isFourth, rfl⟩
      · exact absurd found (by simp)
    · exact absurd found (by simp)
  · rintro ⟨_, ⟨isFirst, isSecond, isThird, isFourth⟩, rfl⟩
    simp [fourDigits?, isFirst, isSecond, isThird, isFourth]

/-- Whether a text starts with the escape of a low surrogate. -/
def StartsLow (chars : List Char) : Prop :=
  ∃ code digits rest, IsCode code digits ∧ IsLowSurrogate code ∧
    chars = '\\' :: 'u' :: (digits ++ rest)

theorem lowSurrogate?_eq_some_iff
    {chars rest : List Char}
    {code : Nat} :
    lowSurrogate? chars = some (code, rest) ↔
      ∃ digits, IsCode code digits ∧ IsLowSurrogate code ∧
        chars = '\\' :: 'u' :: (digits ++ rest) := by
  constructor
  · intro found
    unfold lowSurrogate? at found
    split at found
    · split at found
      · next code' rest' readDigits =>
          split_ifs at found with low
          obtain ⟨rfl, rfl⟩ := Prod.mk.inj (Option.some.inj found)
          obtain ⟨digits, isCode, rfl⟩ := fourDigits?_eq_some_iff.mp readDigits
          exact ⟨digits, isCode, by simpa [IsLowSurrogate] using low, rfl⟩
      · exact absurd found (by simp)
    · exact absurd found (by simp)
  · rintro ⟨digits, isCode, ⟨least, most⟩, rfl⟩
    rw [lowSurrogate?, fourDigits?_eq_some_iff.mpr ⟨digits, isCode, rfl⟩]
    simp [least, most]

theorem lowSurrogate?_eq_none_iff
    {chars : List Char} :
    lowSurrogate? chars = none ↔ ¬StartsLow chars := by
  rw [Option.eq_none_iff_forall_ne_some]
  constructor
  · rintro none ⟨code, digits, rest, starts⟩
    exact none (code, rest) (lowSurrogate?_eq_some_iff.mpr ⟨digits, starts⟩)
  · rintro notLow ⟨code, rest⟩ found
    obtain ⟨digits, starts⟩ := lowSurrogate?_eq_some_iff.mp found
    exact notLow ⟨code, digits, rest, starts⟩

/-! ## Escapes -/

/-- The letters of escapes with the characters that they stand for. -/
def escapeLetters : List (Char × Char) :=
  [('"', '"'), ('\\', '\\'), ('/', '/'), ('b', Char.ofNat 8), ('f', Char.ofNat 12), ('n', '\n'),
   ('r', '\r'), ('t', '\t')]

/-- An escape, with the character that it stands for before what follows it. -/
inductive IsEscape : Char → List Char → List Char → Prop
  | letter {letter char : Char} {rest : List Char}
      (listed : (letter, char) ∈ escapeLetters) :
      IsEscape char ['\\', letter] rest
  /-- A code; a high surrogate has no partner after it. -/
  | code {code : Nat} {digits rest : List Char}
      (isCode : IsCode code digits)
      (alone : IsHighSurrogate code → ¬StartsLow rest) :
      IsEscape (charOf code) ('\\' :: 'u' :: digits) rest
  /-- The codes of two surrogates. -/
  | pair {high low : Nat} {digits digits' rest : List Char}
      (isHigh : IsCode high digits)
      (high_surrogate : IsHighSurrogate high)
      (isLow : IsCode low digits')
      (low_surrogate : IsLowSurrogate low) :
      IsEscape (Char.ofNat (joinSurrogates high low))
        ('\\' :: 'u' :: (digits ++ '\\' :: 'u' :: digits')) rest

theorem readCode?_eq_some_iff
    {chars rest : List Char}
    {char : Char} :
    readCode? chars = some (char, rest) ↔
      ∃ written, IsEscape char ('\\' :: 'u' :: written) rest ∧ chars = written ++ rest := by
  constructor
  · intro found
    unfold readCode? at found
    split at found
    · exact absurd found (by simp)
    · next code after readDigits =>
      obtain ⟨digits, isCode, rfl⟩ := fourDigits?_eq_some_iff.mp readDigits
      split_ifs at found with high
      · replace high : IsHighSurrogate code := by simpa [IsHighSurrogate] using high
        split at found
        · next low rest' readLow =>
          obtain ⟨digits', isLow, low_surrogate, rfl⟩ := lowSurrogate?_eq_some_iff.mp readLow
          obtain ⟨rfl, rfl⟩ := Prod.mk.inj (Option.some.inj found)
          exact ⟨_, .pair isCode high isLow low_surrogate, by simp⟩
        · next none =>
          obtain ⟨rfl, rfl⟩ := Prod.mk.inj (Option.some.inj found)
          exact ⟨_, .code isCode fun _ => lowSurrogate?_eq_none_iff.mp none, rfl⟩
      · obtain ⟨rfl, rfl⟩ := Prod.mk.inj (Option.some.inj found)
        refine ⟨_, .code isCode fun isHigh => absurd ?_ high, rfl⟩
        simpa [IsHighSurrogate] using isHigh
  · rintro ⟨written, isEscape, rfl⟩
    generalize isWritten : '\\' :: 'u' :: written = whole at isEscape
    cases isEscape with
    | @letter letter _ _ listed =>
        obtain ⟨rfl, -⟩ := List.cons.inj (List.cons.inj isWritten).2
        exact absurd listed (by simp [escapeLetters])
    | @code code digits _ isCode alone =>
        obtain rfl := (List.cons.inj (List.cons.inj isWritten).2).2
        rw [readCode?, fourDigits?_eq_some_iff.mpr ⟨written, isCode, rfl⟩]
        dsimp only
        split_ifs with high
        · rw [lowSurrogate?_eq_none_iff.mpr (alone (by simpa [IsHighSurrogate] using high))]
        · rfl
    | @pair high low digits digits' _ isHigh high_surrogate isLow low_surrogate =>
        obtain rfl := (List.cons.inj (List.cons.inj isWritten).2).2
        rw [readCode?, List.append_assoc, fourDigits?_eq_some_iff.mpr ⟨digits, isHigh, rfl⟩]
        dsimp only
        rw [if_pos (by simpa [IsHighSurrogate] using high_surrogate), List.cons_append,
          List.cons_append,
          lowSurrogate?_eq_some_iff.mpr ⟨digits', isLow, low_surrogate, rfl⟩]

theorem readEscape?_eq_some_iff
    {chars rest : List Char}
    {char : Char} :
    readEscape? chars = some (char, rest) ↔
      ∃ written, IsEscape char ('\\' :: written) rest ∧ chars = written ++ rest := by
  constructor
  · intro found
    unfold readEscape? at found
    split at found
    case h_9 =>
      obtain ⟨written, isEscape, rfl⟩ := readCode?_eq_some_iff.mp found
      exact ⟨_, isEscape, rfl⟩
    case h_10 => exact absurd found (by simp)
    all_goals
      obtain ⟨rfl, rfl⟩ := Prod.mk.inj (Option.some.inj found)
      exact ⟨_, .letter (by simp [escapeLetters]), rfl⟩
  · rintro ⟨written, isEscape, rfl⟩
    generalize isWritten : '\\' :: written = whole at isEscape
    cases isEscape with
    | @letter letter _ _ listed =>
        obtain rfl := (List.cons.inj isWritten).2
        simp only [escapeLetters, List.mem_cons, Prod.mk.injEq, List.not_mem_nil, or_false]
          at listed
        obtain ⟨rfl, rfl⟩ | ⟨rfl, rfl⟩ | ⟨rfl, rfl⟩ | ⟨rfl, rfl⟩ | ⟨rfl, rfl⟩ | ⟨rfl, rfl⟩ |
          ⟨rfl, rfl⟩ | ⟨rfl, rfl⟩ := listed <;> rfl
    | code isCode alone =>
        obtain rfl := (List.cons.inj isWritten).2
        exact readCode?_eq_some_iff.mpr ⟨_, .code isCode alone, rfl⟩
    | pair isHigh high_surrogate isLow low_surrogate =>
        obtain rfl := (List.cons.inj isWritten).2
        exact readCode?_eq_some_iff.mpr ⟨_, .pair isHigh high_surrogate isLow low_surrogate, rfl⟩

/-! ## Contents -/

/-- What stands between the quotes of a text, with the characters that it writes. -/
inductive IsContent : List Char → List Char → Prop
  | nil : IsContent [] []
  | plain {char : Char} {content body : List Char}
      (noQuote : char ≠ '"')
      (noBackslash : char ≠ '\\')
      (printable : 32 ≤ char.toNat)
      (others : IsContent content body) :
      IsContent (char :: content) (char :: body)
  | escape {char : Char} {written content body : List Char}
      (isEscape : IsEscape char written body)
      (others : IsContent content body) :
      IsContent (char :: content) (written ++ body)

/-- What ends before some character of a text ends before it whatever follows. -/
theorem exists_of_append_cons_eq_append
    {front rest taken after : List Char}
    {stop : Char}
    (same : front ++ stop :: rest = taken ++ after)
    (notTaken : stop ∉ taken) :
    ∃ left, front = taken ++ left ∧ after = left ++ stop :: rest := by
  obtain ⟨more, rfl, isAfter⟩ | ⟨left, isFront, isAfter⟩ := List.append_eq_append_iff.mp same
  · cases more with
    | nil => exact ⟨[], by simp, by simpa using isAfter.symm⟩
    | cons first more =>
        obtain ⟨rfl, -⟩ := List.cons.inj isAfter
        exact absurd (by simp) notTaken
  · exact ⟨left, isFront, isAfter⟩

theorem quote_notMem_of_isCode
    {code : Nat}
    {digits : List Char}
    (isCode : IsCode code digits) :
    '"' ∉ digits := by
  have noDigit : Text.hexValue? '"' = none := by decide
  obtain ⟨isFirst, isSecond, isThird, isFourth⟩ := isCode
  simp only [List.mem_cons, List.not_mem_nil, or_false, not_or]
  refine ⟨?_, ?_, ?_, ?_⟩ <;> rintro rfl <;> simp_all

/-- A quote is no part of an escape. -/
theorem startsLow_append_quote_iff
    {body rest : List Char} :
    StartsLow (body ++ '"' :: rest) ↔ StartsLow body := by
  constructor
  · rintro ⟨code, digits, after, isCode, isLow, starts⟩
    have noQuote : '"' ∉ '\\' :: 'u' :: digits := by
      simp [quote_notMem_of_isCode isCode]
    obtain ⟨left, rfl, -⟩ := exists_of_append_cons_eq_append
      (starts : _ = ('\\' :: 'u' :: digits) ++ after) noQuote
    exact ⟨code, digits, left, isCode, isLow, rfl⟩
  · rintro ⟨code, digits, after, isCode, isLow, rfl⟩
    exact ⟨code, digits, after ++ '"' :: rest, isCode, isLow, by simp⟩

theorem isEscape_append_quote_iff
    {char : Char}
    {written body rest : List Char} :
    IsEscape char written (body ++ '"' :: rest) ↔ IsEscape char written body := by
  constructor
  · rintro (listed | ⟨isCode, alone⟩ | ⟨isHigh, high, isLow, low⟩)
    · exact .letter listed
    · exact .code isCode fun high starts => alone high (startsLow_append_quote_iff.mpr starts)
    · exact .pair isHigh high isLow low
  · rintro (listed | ⟨isCode, alone⟩ | ⟨isHigh, high, isLow, low⟩)
    · exact .letter listed
    · exact .code isCode fun high starts => alone high (startsLow_append_quote_iff.mp starts)
    · exact .pair isHigh high isLow low

/-- An escape starts with a backslash. -/
theorem IsEscape.exists_cons
    {char : Char}
    {written rest : List Char}
    (isEscape : IsEscape char written rest) :
    ∃ others, written = '\\' :: others := by
  cases isEscape <;> exact ⟨_, rfl⟩

theorem exists_isContent_of_readText?
    {steps : Nat}
    {chars content rest : List Char}
    (found : readText? steps chars = some (content, rest)) :
    ∃ body, IsContent content body ∧ chars = body ++ '"' :: rest := by
  induction steps generalizing chars content rest with
  | zero => exact absurd found (by simp [readText?])
  | succ steps inductionHypothesis =>
      unfold readText? at found
      split at found
      · exact absurd found (by simp)
      · obtain ⟨rfl, rfl⟩ := Prod.mk.inj (Option.some.inj found)
        exact ⟨[], .nil, rfl⟩
      · split at found
        · next char after readEscape =>
            obtain ⟨⟨others, rest'⟩, readOthers, same⟩ := Option.map_eq_some_iff.mp found
            obtain ⟨rfl, rfl⟩ := Prod.mk.inj same
            obtain ⟨written, isEscape, rfl⟩ := readEscape?_eq_some_iff.mp readEscape
            obtain ⟨body, isContent, rfl⟩ := inductionHypothesis readOthers
            exact ⟨_, .escape (isEscape_append_quote_iff.mp isEscape) isContent, by simp⟩
        · exact absurd found (by simp)
      · next char after noQuote noBackslash =>
          split_ifs at found with control
          obtain ⟨⟨others, rest'⟩, readOthers, same⟩ := Option.map_eq_some_iff.mp found
          obtain ⟨rfl, rfl⟩ := Prod.mk.inj same
          obtain ⟨body, isContent, rfl⟩ := inductionHypothesis readOthers
          exact ⟨_, .plain noQuote noBackslash (Nat.not_lt.mp control) isContent, rfl⟩

theorem readText?_of_isContent
    {steps : Nat}
    {content body rest : List Char}
    (isContent : IsContent content body)
    (enough : (body ++ '"' :: rest).length < steps) :
    readText? steps (body ++ '"' :: rest) = some (content, rest) := by
  induction isContent generalizing steps with
  | nil =>
      obtain ⟨steps, rfl⟩ := Nat.exists_eq_succ_of_ne_zero (Nat.ne_zero_of_lt enough)
      rfl
  | plain noQuote noBackslash printable others inductionHypothesis =>
      obtain ⟨steps, rfl⟩ := Nat.exists_eq_succ_of_ne_zero (Nat.ne_zero_of_lt enough)
      rw [List.cons_append, readText?, if_neg (Nat.not_lt.mpr printable),
        inductionHypothesis (Nat.lt_of_succ_lt_succ enough)]
      · rfl
      · exact noQuote
      · exact noBackslash
  | @escape char written content body isEscape others inductionHypothesis =>
      obtain ⟨steps, rfl⟩ := Nat.exists_eq_succ_of_ne_zero (Nat.ne_zero_of_lt enough)
      obtain ⟨after, rfl⟩ := isEscape.exists_cons
      have readEscape : readEscape? (after ++ (body ++ '"' :: rest)) =
          some (char, body ++ '"' :: rest) :=
        readEscape?_eq_some_iff.mpr ⟨after, isEscape_append_quote_iff.mpr isEscape, rfl⟩
      rw [List.append_assoc, List.cons_append, readText?, readEscape]
      dsimp only
      rw [inductionHypothesis]
      · rfl
      · simp only [List.length_append, List.length_cons] at enough ⊢
        omega

/-- A text is read up to its closing quote. -/
theorem readText?_eq_some_iff
    {steps : Nat}
    {chars content rest : List Char}
    (enough : chars.length < steps) :
    readText? steps chars = some (content, rest) ↔
      ∃ body, IsContent content body ∧ chars = body ++ '"' :: rest := by
  constructor
  · exact exists_isContent_of_readText?
  · rintro ⟨body, isContent, rfl⟩
    exact readText?_of_isContent isContent enough

end Json
end RoutineGate
