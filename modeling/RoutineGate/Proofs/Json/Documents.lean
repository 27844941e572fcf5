import RoutineGate.Proofs.Json.Lists

/-!
# Reading documents

What reading a text gives is the value that the text spells, and every text that spells a value
is read.  Any other text is refused as malformed, unless reading it gets to an integer of too
many digits.
-/

namespace RoutineGate
namespace Json

/-! ## Values -/

theorem isStart_word
    {word : List Char}
    {value : Value}
    (listed : (word, value) ∈ words) :
    IsStart word := by
  simp only [words, List.mem_cons, List.not_mem_nil, or_false, Prod.mk.injEq] at listed
  obtain ⟨rfl, -⟩ | ⟨rfl, -⟩ | ⟨rfl, -⟩ | ⟨rfl, -⟩ | ⟨rfl, -⟩ | ⟨rfl, -⟩ := listed <;>
    exact ⟨_, _, rfl, by decide, by decide, by decide⟩

/-- Whether a text starts with a digit, with a minus before it or without one. -/
def StartsNumber (chars : List Char) : Prop :=
  ∃ negative first others, first.isDigit = true ∧
    chars = NumberParts.signText negative ++ first :: others

theorem StartsNumber.isStart
    {chars : List Char}
    (starts : StartsNumber chars) :
    IsStart chars := by
  obtain ⟨negative, first, others, digit, rfl⟩ := starts
  cases negative with
  | true => exact ⟨'-', _, rfl, by decide, by decide, by decide⟩
  | false =>
      refine ⟨first, others, rfl, ?_, ne_of_isDigit digit (by decide),
        ne_of_isDigit digit (by decide)⟩
      simp [isSpace, ne_of_isDigit digit]

theorem startsNumber_whole
    (negative : Bool)
    {whole : List Char}
    (nonempty : whole ≠ [])
    (areDigits : AreDigits whole)
    (rest : List Char) :
    StartsNumber (NumberParts.signText negative ++ (whole ++ rest)) := by
  obtain ⟨first, others, rfl⟩ := List.exists_cons_of_ne_nil nonempty
  exact ⟨negative, first, others ++ rest, areDigits first List.mem_cons_self, rfl⟩

theorem IsNumeral.startsNumber
    {chars : List Char}
    {value : Value}
    (isNumeral : IsNumeral chars value) :
    StartsNumber chars := by
  obtain ⟨parts, -, -⟩ := isNumeral
  exact startsNumber_whole _ parts.wholeNonempty parts.wholeAreDigits _

theorem IsLongInteger.startsNumber
    {count : Nat}
    {chars : List Char}
    (isLong : IsLongInteger count chars) :
    StartsNumber chars := by
  obtain ⟨negative, areDigits, noZero, rfl, many, ends⟩ := isLong
  refine startsNumber_whole _ ?_ areDigits _
  rintro rfl
  exact absurd many (Nat.not_lt.mpr (Nat.zero_le _))

theorem Spells.isStart
    {chars : List Char}
    {value : Value}
    (spells : Spells chars value) :
    IsStart chars := by
  cases spells with
  | word listed => exact isStart_word listed
  | number isNumeral => exact isNumeral.startsNumber.isStart
  | text | noItem | list | noEntry | record =>
      exact ⟨_, _, rfl, by decide, by decide, by decide⟩

theorem ReachesLong.isStart
    {count : Nat}
    {chars : List Char}
    (reaches : ReachesLong count chars) :
    IsStart chars := by
  cases reaches with
  | integer isLong => exact isLong.startsNumber.isStart
  | list | record => exact ⟨_, _, rfl, by decide, by decide, by decide⟩

theorem exists_of_dropWord?
    {word chars rest : List Char}
    (found : dropWord? word chars = some rest) :
    chars = word ++ rest := by
  induction word generalizing chars with
  | nil => exact Option.some.inj found
  | cons expected word inductionHypothesis =>
      cases chars with
      | nil => exact absurd found (by simp [dropWord?])
      | cons char chars =>
          rw [dropWord?] at found
          split_ifs at found with same
          rw [same, inductionHypothesis found, List.cons_append]

theorem exists_of_readWord?
    {chars rest : List Char}
    {value : Value}
    (found : readWord? chars = some (value, rest)) :
    ∃ word, (word, value) ∈ words ∧ chars = word ++ rest := by
  obtain ⟨⟨word, value'⟩, listed, isWord⟩ := List.exists_of_findSome?_eq_some found
  obtain ⟨rest', dropped, same⟩ := Option.map_eq_some_iff.mp isWord
  obtain ⟨rfl, rfl⟩ := Prod.mk.inj same
  exact ⟨word, listed, exists_of_dropWord? dropped⟩

theorem readValue_bracket (steps : Nat) (chars : List Char) :
    readValue (steps + 1) ('[' :: chars) =
      enclosed (listing readValue ']' steps) ']' .list chars := by
  rw [readValue, enclosed]
  simp only [readItems_eq_listing]
  cases skipSpace chars with
  | nil =>
      dsimp only
      cases listing readValue ']' steps [] <;> rfl
  | cons first rest =>
      dsimp only
      by_cases closes : first = ']'
      · subst closes
        rw [if_pos rfl]
        rfl
      · rw [if_neg closes]
        split
        · next same => exact absurd (List.cons.inj same).1 closes
        · cases listing readValue ']' steps (first :: rest) <;> rfl

theorem readValue_brace (steps : Nat) (chars : List Char) :
    readValue (steps + 1) ('\x7b' :: chars) =
      enclosed (listing entry '\x7d' steps) '\x7d'
        (fun entries => .record (Value.gather entries)) chars := by
  rw [readValue, enclosed]
  simp only [readEntries_eq_listing]
  cases skipSpace chars with
  | nil =>
      dsimp only
      cases listing entry '\x7d' steps [] <;> rfl
  | cons first rest =>
      dsimp only
      by_cases closes : first = '\x7d'
      · subst closes
        rw [if_pos rfl]
        rfl
      · rw [if_neg closes]
        split
        · next same => exact absurd (List.cons.inj same).1 closes
        · cases listing entry '\x7d' steps (first :: rest) <;> rfl

/-- Whether a text starts with neither a text nor a list nor a record. -/
def IsPlain (chars : List Char) : Prop :=
  ∀ first ∈ chars.head?, first ≠ '"' ∧ first ≠ '[' ∧ first ≠ '\x7b'

/-- The ways in which a text may start. -/
theorem cases_of_head (chars : List Char) :
    (∃ rest, chars = '"' :: rest) ∨ (∃ rest, chars = '[' :: rest) ∨
      (∃ rest, chars = '\x7b' :: rest) ∨ IsPlain chars := by
  cases chars with
  | nil => exact .inr (.inr (.inr (by simp [IsPlain])))
  | cons first rest =>
      by_cases quote : first = '"'
      · exact .inl ⟨rest, by rw [quote]⟩
      · by_cases bracket : first = '['
        · exact .inr (.inl ⟨rest, by rw [bracket]⟩)
        · by_cases brace : first = '\x7b'
          · exact .inr (.inr (.inl ⟨rest, by rw [brace]⟩))
          · exact .inr (.inr (.inr (by simp [IsPlain, quote, bracket, brace])))

theorem readValue_isPlain
    {chars : List Char}
    (isPlain : IsPlain chars)
    (steps : Nat) :
    readValue (steps + 1) chars =
      match readWord? chars with
      | some found => .ok found
      | none => readNumber chars := by
  rw [readValue.eq_def]
  dsimp only
  split
  · exact absurd rfl (isPlain _ rfl).1
  · exact absurd rfl (isPlain _ rfl).2.1
  · exact absurd rfl (isPlain _ rfl).2.2
  · rfl

theorem readValue_startsNumber
    {chars : List Char}
    (starts : StartsNumber chars)
    (steps : Nat) :
    readValue (steps + 1) chars = readNumber chars := by
  obtain ⟨negative, first, others, digit, rfl⟩ := starts
  have isPlain : IsPlain (NumberParts.signText negative ++ first :: others) := by
    cases negative with
    | true => simp [IsPlain, NumberParts.signText]
    | false =>
        have apart : ∀ {other : Char}, other.isDigit = false → first ≠ other :=
          ne_of_isDigit digit
        simp [IsPlain, NumberParts.signText, apart]
  rw [readValue_isPlain isPlain, readWord?_number digit]

theorem readValue_text
    {content body : List Char}
    (isContent : IsContent content body)
    (steps : Nat)
    (rest : List Char) :
    readValue (steps + 1) ('"' :: (body ++ '"' :: rest)) =
      .ok (.text (String.ofList content), rest) := by
  have read : readText? ((body ++ '"' :: rest).length + 1) (body ++ '"' :: rest) =
      some (content, rest) :=
    (readText?_eq_some_iff (Nat.lt_succ_self _)).mpr ⟨body, isContent, rfl⟩
  rw [readValue, read]

section Values

variable {steps limit : Nat}

theorem readValue_quote_cases (rest : List Char) :
    readValue (steps + 1) ('"' :: rest) = .error .malformed ∨
      ∃ content body after, IsContent content body ∧ rest = body ++ '"' :: after := by
  rw [readValue]
  cases read : readText? (rest.length + 1) rest with
  | none => exact .inl rfl
  | some found =>
      obtain ⟨content, after⟩ := found
      obtain ⟨body, isContent, same⟩ := (readText?_eq_some_iff (Nat.lt_succ_self _)).mp read
      exact .inr ⟨content, body, after, isContent, same⟩

variable (follows : ∀ fewer < steps, ∀ limit, 2 * limit ≤ fewer →
  Follows (readValue fewer) limit Spells ReachesLong)

include follows

theorem follows_entries :
    ∀ fewer < steps, ∀ limit, 2 * limit ≤ fewer →
      Follows (entry fewer) limit (IsEntry Spells)
        (fun count => IsEntryOf (ReachesLong count)) :=
  fun fewer less limit enough => follows_entry (follows fewer less limit enough)

/-- What is read as a value spells it. -/
theorem exists_spells_of_readValue
    {chars rest : List Char}
    {value : Value}
    (found : readValue (steps + 1) chars = .ok (value, rest)) :
    ∃ front, Spells front value ∧ chars = front ++ rest := by
  obtain ⟨after, rfl⟩ | ⟨after, rfl⟩ | ⟨after, rfl⟩ | isPlain := cases_of_head chars
  · obtain malformed | ⟨content, body, after, isContent, rfl⟩ := @readValue_quote_cases steps after
    · rw [malformed] at found
      exact absurd found (by simp)
    · rw [readValue_text isContent] at found
      obtain ⟨rfl, rfl⟩ := Prod.mk.inj (Except.ok.inj found)
      exact ⟨_, .text isContent, by simp⟩
  · rw [readValue_bracket] at found
    obtain ⟨gap, isGap, rfl, rfl⟩ | ⟨gap, front, items, isGap, isListing, rfl, rfl⟩ :=
      exists_of_enclosed follows found
    · exact ⟨_, .noItem isGap, by simp⟩
    · exact ⟨_, .list isGap isListing, by simp⟩
  · rw [readValue_brace] at found
    obtain ⟨gap, isGap, rfl, rfl⟩ | ⟨gap, front, entries, isGap, isListing, rfl, rfl⟩ :=
      exists_of_enclosed (follows_entries follows) found
    · exact ⟨_, .noEntry isGap, by simp⟩
    · exact ⟨_, .record isGap isListing, by simp⟩
  · rw [readValue_isPlain isPlain] at found
    split at found
    · next isWord =>
      obtain rfl := Except.ok.inj found
      obtain ⟨word, listed, rfl⟩ := exists_of_readWord? isWord
      exact ⟨word, .word listed, rfl⟩
    · obtain ⟨front, isNumeral, rfl⟩ := exists_isNumeral_of_readNumber found
      exact ⟨front, .number isNumeral, rfl⟩

/-- A spelled value is read. -/
theorem readValue_of_spells
    {front rest : List Char}
    {value : Value}
    (spells : Spells front value)
    (ends : EndsNumber rest)
    (enough : 2 * limit ≤ steps + 1)
    (within : front.length ≤ limit) :
    readValue (steps + 1) (front ++ rest) = .ok (value, rest) := by
  cases spells with
  | word listed => exact (represents_word listed).reads _ rest (by omega) ends
  | number isNumeral =>
      obtain ⟨negative, first, others, digit, same⟩ := isNumeral.startsNumber
      have starts : StartsNumber (front ++ rest) :=
        ⟨negative, first, others ++ rest, digit, by rw [same, List.append_assoc]; rfl⟩
      rw [readValue_startsNumber starts, isNumeral.readNumber_append ends]
  | text isContent =>
      rw [List.cons_append, List.append_assoc, List.singleton_append, readValue_text isContent]
  | noItem isGap =>
      rw [List.cons_append, List.append_assoc, List.singleton_append, readValue_bracket,
        enclosed_gap_closing (.inl rfl) isGap]
  | @list gap chars items isGap isListing =>
      simp only [List.length_append, List.length_cons] at within
      have starts := (isListing.isStart Spells.isStart).append (']' :: rest)
      have read := listing_of_isListing (.inl rfl) follows isListing
        (by omega : 2 * chars.length + 1 ≤ steps) (Nat.le_refl _) rest
      rw [List.cons_append, List.append_assoc, List.append_assoc, List.singleton_append,
        readValue_bracket, enclosed_gap_append (.inl rfl) isGap starts, read]
      rfl
  | noEntry isGap =>
      rw [List.cons_append, List.append_assoc, List.singleton_append, readValue_brace,
        enclosed_gap_closing (.inr rfl) isGap]
      rfl
  | @record gap chars entries isGap isListing =>
      simp only [List.length_append, List.length_cons] at within
      have starts := (isListing.isStart IsEntry.isStart).append ('\x7d' :: rest)
      have read := listing_of_isListing (.inr rfl) (follows_entries follows) isListing
        (by omega : 2 * chars.length + 1 ≤ steps) (Nat.le_refl _) rest
      rw [List.cons_append, List.append_assoc, List.append_assoc, List.singleton_append,
        readValue_brace, enclosed_gap_append (.inr rfl) isGap starts, read]
      rfl

/-- Reading a value gets to an integer of too many digits exactly if it fails with a fault. -/
theorem readValue_eq_fault_iff
    {chars : List Char}
    (enough : 2 * limit ≤ steps + 1)
    (within : chars.length ≤ limit)
    {fault : Fault} :
    readValue (steps + 1) chars = .error (.fault fault) ↔
      ∃ count, fault = .integer (.tooManyDigits count) ∧ ReachesLong count chars := by
  constructor
  · intro failed
    obtain ⟨after, rfl⟩ | ⟨after, rfl⟩ | ⟨after, rfl⟩ | isPlain := cases_of_head chars
    · obtain malformed | ⟨content, body, after, isContent, rfl⟩ :=
        @readValue_quote_cases steps after
      · rw [malformed] at failed
        exact absurd failed (by simp)
      · rw [readValue_text isContent] at failed
        exact absurd failed (by simp)
    · rw [List.length_cons] at within
      rw [readValue_bracket, enclosed_eq_fault_iff (.inl rfl) follows Spells.isStart
        ReachesLong.isStart (by omega : 2 * after.length + 1 ≤ steps) (Nat.le_refl _)] at failed
      obtain ⟨count, gap, rest, rfl, isGap, rfl, reaches⟩ := failed
      exact ⟨count, rfl, .list isGap reaches⟩
    · rw [List.length_cons] at within
      rw [readValue_brace, enclosed_eq_fault_iff (.inr rfl) (follows_entries follows)
        IsEntry.isStart IsEntryOf.isStart (by omega : 2 * after.length + 1 ≤ steps)
        (Nat.le_refl _)] at failed
      obtain ⟨count, gap, rest, rfl, isGap, rfl, reaches⟩ := failed
      exact ⟨count, rfl, .record isGap reaches⟩
    · rw [readValue_isPlain isPlain] at failed
      split at failed
      · exact absurd failed (by simp)
      · obtain ⟨count, rfl, isLong⟩ := readNumber_eq_fault_iff.mp failed
        exact ⟨count, rfl, .integer isLong⟩
  · rintro ⟨count, rfl, reaches⟩
    cases reaches with
    | integer isLong =>
        rw [readValue_startsNumber isLong.startsNumber]
        exact readNumber_eq_fault_iff.mpr ⟨count, rfl, isLong⟩
    | @list gap rest isGap reaches =>
        rw [List.length_cons] at within
        rw [readValue_bracket, enclosed_eq_fault_iff (.inl rfl) follows Spells.isStart
          ReachesLong.isStart (by omega : 2 * (gap ++ rest).length + 1 ≤ steps) (Nat.le_refl _)]
        exact ⟨count, gap, rest, rfl, isGap, rfl, reaches⟩
    | @record gap rest isGap reaches =>
        rw [List.length_cons] at within
        rw [readValue_brace, enclosed_eq_fault_iff (.inr rfl) (follows_entries follows)
          IsEntry.isStart IsEntryOf.isStart (by omega : 2 * (gap ++ rest).length + 1 ≤ steps)
          (Nat.le_refl _)]
        exact ⟨count, gap, rest, rfl, isGap, rfl, reaches⟩

end Values

/-- Reading follows the grammar. -/
theorem follows_value
    {steps limit : Nat}
    (enough : 2 * limit ≤ steps) :
    Follows (readValue steps) limit Spells ReachesLong := by
  induction steps using Nat.strongRecOn generalizing limit with
  | ind steps inductionHypothesis =>
      cases steps with
      | zero =>
          refine ⟨Spells.isStart, ReachesLong.isStart, ?_, ?_, ?_⟩
          · intro chars value rest found
            exact absurd found (by simp [readValue])
          · intro front value rest spells ends within
            have := spells.isStart.length_pos
            omega
          · intro chars fault within
            refine iff_of_false (by simp [readValue]) ?_
            rintro ⟨count, -, reaches⟩
            have := reaches.isStart.length_pos
            omega
      | succ steps =>
          have follows : ∀ fewer < steps, ∀ limit, 2 * limit ≤ fewer →
              Follows (readValue fewer) limit Spells ReachesLong :=
            fun fewer less limit enough => inductionHypothesis fewer (by omega) enough
          exact ⟨Spells.isStart, ReachesLong.isStart, exists_spells_of_readValue follows,
            fun spells ends within => readValue_of_spells follows spells ends enough within,
            fun within => readValue_eq_fault_iff follows enough within⟩

/-! ## Documents -/

/-- A value with nothing but space around it. -/
def IsDocument (chars : List Char) (value : Value) : Prop :=
  ∃ before text after, IsGap before ∧ IsGap after ∧ Spells text value ∧
    chars = before ++ (text ++ after)

/-- A text in which an integer of too many digits comes before anything that is malformed. -/
def HasLong (count : Nat) (chars : List Char) : Prop :=
  ∃ before text, IsGap before ∧ ReachesLong count text ∧ chars = before ++ text

theorem skipSpace_eq_nil_iff
    {chars : List Char} :
    skipSpace chars = [] ↔ IsGap chars :=
  List.dropWhile_eq_nil_iff

/-- A text is read exactly as the value that it spells. -/
theorem parse_eq_ok_iff
    {chars : List Char}
    {value : Value} :
    parse chars = .ok value ↔ IsDocument chars value := by
  constructor
  · intro found
    obtain ⟨before, isBefore, same⟩ := exists_gap chars
    obtain ⟨⟨value', after⟩, read, ended⟩ := bind_eq_ok_iff.mp found
    obtain ⟨text, spells, isText⟩ :=
      (follows_value (Nat.le_add_right (2 * chars.length) 2)).sound read
    dsimp only at ended
    split_ifs at ended with empty
    obtain rfl := Except.ok.inj ended
    exact ⟨before, text, after, isBefore, skipSpace_eq_nil_iff.mp (List.isEmpty_iff.mp empty),
      spells, by rw [← isText]; exact same⟩
  · rintro ⟨before, text, after, isBefore, isAfter, spells, rfl⟩
    have ends : EndsNumber after := by
      rw [← List.append_nil after]
      exact endsNumber_gap_append isAfter (by simp [EndsNumber])
    have read := (follows_value (Nat.le_add_right
      (2 * (before ++ (text ++ after)).length) 2)).complete spells ends
      (by simp only [List.length_append]; omega)
    rw [parse, skipSpace_gap_append isBefore (spells.isStart.append after), read]
    simp only [bind, Except.bind]
    rw [skipSpace_eq_nil_iff.mpr isAfter]
    rfl

/-- Reading a text fails with a fault exactly at an integer of too many digits. -/
theorem parse_eq_fault_iff
    {chars : List Char}
    {fault : Fault} :
    parse chars = .error (.fault fault) ↔
      ∃ count, fault = .integer (.tooManyDigits count) ∧ HasLong count chars := by
  constructor
  · intro failed
    obtain ⟨before, isBefore, same⟩ := exists_gap chars
    have shorter : (skipSpace chars).length ≤ chars.length := by
      have lengths := congrArg List.length same
      rw [List.length_append] at lengths
      omega
    obtain readFailed | ⟨_, -, notEnded⟩ := bind_eq_error_iff.mp failed
    · obtain ⟨count, rfl, reaches⟩ :=
        ((follows_value (Nat.le_add_right (2 * chars.length) 2)).fault_iff shorter).mp readFailed
      exact ⟨count, rfl, before, _, isBefore, reaches, same⟩
    · dsimp only at notEnded
      split_ifs at notEnded
      · exact absurd notEnded (by simp [pure, Except.pure])
      · exact absurd notEnded (by simp [throw, throwThe, MonadExceptOf.throw])
  · rintro ⟨count, rfl, before, text, isBefore, reaches, rfl⟩
    have failed := ((follows_value (Nat.le_add_right (2 * (before ++ text).length) 2)).fault_iff
      (by rw [List.length_append]; omega)).mpr ⟨count, rfl, reaches⟩
    rw [parse, skipSpace_gap_append isBefore reaches.isStart, failed]
    rfl

end Json
end RoutineGate
