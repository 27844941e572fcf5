import RoutineGate.Proofs.Json.Numbers

/-!
# Reading written values

What is written is read back: no written value can be taken for another one, and none of them
holds a control character.
-/

namespace RoutineGate

namespace Value

variable {Datum : Type}

theorem put_of_notMem
    {key : String}
    {entries : List (String × Datum)}
    (absent : key ∉ entries.map Prod.fst)
    (value : Datum) :
    put key value entries = entries ++ [(key, value)] := by
  induction entries with
  | nil => rfl
  | cons entry entries inductionHypothesis =>
      obtain ⟨other, old⟩ := entry
      obtain ⟨different, others⟩ := not_or.mp (List.mem_cons.not.mp absent)
      rw [put, if_neg (Ne.symm different), inductionHypothesis others]
      rfl

/-- Pairs with distinct keys stay as they are. -/
theorem gather_of_nodup
    {pairs : List (String × Datum)}
    (distinct : (pairs.map Prod.fst).Nodup) :
    gather pairs = pairs := by
  have extended : ∀ later earlier : List (String × Datum),
      ((earlier ++ later).map Prod.fst).Nodup →
      later.foldl (fun entries pair => put pair.1 pair.2 entries) earlier = earlier ++ later := by
    intro later
    induction later with
    | nil => exact fun earlier _ => (List.append_nil earlier).symm
    | cons pair later inductionHypothesis =>
        intro earlier distinct
        have absent : pair.1 ∉ earlier.map Prod.fst := by
          rw [List.map_append, List.map_cons] at distinct
          exact fun member => List.disjoint_of_nodup_append distinct member List.mem_cons_self
        rw [List.foldl_cons, put_of_notMem absent, inductionHypothesis, List.append_assoc]
        · rfl
        · rw [List.append_assoc]
          exact distinct
  exact extended pairs [] distinct

end Value

namespace Json

/-! ## Texts -/

theorem hexValue?_hexDigit :
    ∀ number < 16, Text.hexValue? (hexDigit number) = some number := by
  decide

theorem printable_hexDigit :
    ∀ number < 16, 32 ≤ (hexDigit number).toNat := by
  decide

/-- A control character is read back from its code. -/
theorem readEscape?_code
    {code : Nat}
    (control : code < 32)
    (rest : List Char) :
    readEscape? ('u' :: '0' :: '0' :: hexDigit (code / 16) :: hexDigit (code % 16) :: rest) =
      some (Char.ofNat code, rest) := by
  have nought : Text.hexValue? '0' = some 0 := by decide
  have joined : ((0 * 16 + 0) * 16 + code / 16) * 16 + code % 16 = code := by omega
  have noSurrogate : ¬0xD800 ≤ code := by omega
  have digits : fourDigits? ('0' :: '0' :: hexDigit (code / 16) :: hexDigit (code % 16) :: rest) =
      some (code, rest) := by
    rw [fourDigits?, nought, hexValue?_hexDigit (code / 16) (by omega),
      hexValue?_hexDigit (code % 16) (by omega)]
    dsimp only
    rw [joined]
  rw [readEscape?, readCode?, digits]
  simp [charOf, noSurrogate]

/-- A written character is read back in one step. -/
theorem readText?_writeChar
    (char : Char)
    (steps : Nat)
    (rest : List Char) :
    readText? (steps + 1) (writeChar char ++ rest) =
      (readText? steps rest).map fun (chars, rest) => (char :: chars, rest) := by
  have restored : Char.ofNat char.toNat = char := Char.ofNat_toNat char
  unfold writeChar
  split
  · rfl
  · rfl
  · rfl
  · rfl
  · rfl
  · next noQuote noBackslash _ _ _ =>
    dsimp only
    split
    · next code =>
        rw [← restored, code]
        rfl
    · split
      · next code =>
          rw [← restored, code]
          rfl
      · split
        · next control =>
            have escaped := readEscape?_code control rest
            rw [restored] at escaped
            simp only [List.cons_append, List.nil_append, readText?, escaped]
        · next plain =>
            rw [List.cons_append, List.nil_append, readText?, if_neg plain]
            · exact noQuote
            · exact noBackslash

/-- A written text is read back up to its closing quote. -/
theorem readText?_flatMap
    {content : List Char}
    {steps : Nat}
    (enough : content.length < steps)
    (rest : List Char) :
    readText? steps (content.flatMap writeChar ++ '"' :: rest) = some (content, rest) := by
  induction content generalizing steps with
  | nil =>
      obtain ⟨steps, rfl⟩ := Nat.exists_eq_succ_of_ne_zero enough.ne'
      rfl
  | cons char content inductionHypothesis =>
      obtain ⟨steps, rfl⟩ := Nat.exists_eq_succ_of_ne_zero (Nat.ne_zero_of_lt enough)
      rw [List.flatMap_cons, List.append_assoc, readText?_writeChar,
        inductionHypothesis (Nat.lt_of_succ_lt_succ enough)]
      rfl

theorem writeText_append
    (content : String)
    (rest : List Char) :
    writeText content ++ rest = '"' :: (content.toList.flatMap writeChar ++ '"' :: rest) := by
  rw [writeText, List.cons_append, List.cons_append, List.append_assoc, List.singleton_append]

/-- A character is written as itself, or behind a backslash by its letter or its code. -/
theorem writeChar_cases (char : Char) :
    (∃ letter, 32 ≤ letter.toNat ∧ writeChar char = ['\\', letter]) ∨
      (char.toNat < 32 ∧ writeChar char = ['\\', 'u', '0', '0', hexDigit (char.toNat / 16),
        hexDigit (char.toNat % 16)]) ∨
      (32 ≤ char.toNat ∧ writeChar char = [char]) := by
  unfold writeChar
  split
  · exact .inl ⟨'"', by decide, rfl⟩
  · exact .inl ⟨'\\', by decide, rfl⟩
  · exact .inl ⟨'n', by decide, rfl⟩
  · exact .inl ⟨'r', by decide, rfl⟩
  · exact .inl ⟨'t', by decide, rfl⟩
  · dsimp only
    split
    · exact .inl ⟨'b', by decide, rfl⟩
    · split
      · exact .inl ⟨'f', by decide, rfl⟩
      · split
        · next control => exact .inr (.inl ⟨control, rfl⟩)
        · next plain => exact .inr (.inr ⟨Nat.not_lt.mp plain, rfl⟩)

theorem length_le_flatMap_writeChar (content : List Char) :
    content.length ≤ (content.flatMap writeChar).length := by
  induction content with
  | nil => rfl
  | cons char content inductionHypothesis =>
      have some : 0 < (writeChar char).length := by
        obtain ⟨letter, -, same⟩ | ⟨-, same⟩ | ⟨-, same⟩ := writeChar_cases char <;>
          rw [same] <;> exact Nat.succ_pos _
      rw [List.flatMap_cons, List.length_append, List.length_cons]
      omega

/-- As many steps as there are characters are enough to read a written text. -/
theorem readText?_length
    (content : List Char)
    (rest : List Char) :
    readText? ((content.flatMap writeChar ++ '"' :: rest).length + 1)
      (content.flatMap writeChar ++ '"' :: rest) = some (content, rest) := by
  have few := length_le_flatMap_writeChar content
  refine readText?_flatMap ?_ rest
  rw [List.length_append, List.length_cons]
  omega

/-- Whether there are no control characters below the space. -/
def IsPrintable (chars : List Char) : Prop :=
  ∀ char ∈ chars, 32 ≤ char.toNat

theorem IsPrintable.append
    {first second : List Char}
    (firstPrintable : IsPrintable first)
    (secondPrintable : IsPrintable second) :
    IsPrintable (first ++ second) :=
  List.forall_mem_append.mpr ⟨firstPrintable, secondPrintable⟩

theorem IsPrintable.cons
    {char : Char}
    {chars : List Char}
    (first : 32 ≤ char.toNat)
    (others : IsPrintable chars) :
    IsPrintable (char :: chars) :=
  List.forall_mem_cons.mpr ⟨first, others⟩

theorem isPrintable_of_all
    {chars : List Char}
    (all : (chars.all fun char => 32 ≤ char.toNat) = true) :
    IsPrintable chars := fun char member =>
  of_decide_eq_true (List.all_eq_true.mp all char member)

theorem isPrintable_nil : IsPrintable [] := fun _ member =>
  absurd member List.not_mem_nil

theorem IsPrintable.enclosed
    {before after : Char}
    {chars : List Char}
    (printable : IsPrintable chars)
    (first : 32 ≤ before.toNat)
    (last : 32 ≤ after.toNat) :
    IsPrintable (before :: chars ++ [after]) :=
  .append (.cons first printable) (.cons last isPrintable_nil)

theorem isPrintable_writeChar (char : Char) : IsPrintable (writeChar char) := by
  obtain ⟨letter, printable, same⟩ | ⟨control, same⟩ | ⟨plain, same⟩ := writeChar_cases char
  · rw [same]
    exact .cons (by decide) (.cons printable isPrintable_nil)
  · have high := printable_hexDigit (char.toNat / 16) (by omega)
    have low := printable_hexDigit (char.toNat % 16) (by omega)
    rw [same]
    exact .cons (by decide) (.cons (by decide) (.cons (by decide) (.cons (by decide)
      (.cons high (.cons low isPrintable_nil)))))
  · rw [same]
    exact .cons plain isPrintable_nil

theorem isPrintable_writeText (content : String) : IsPrintable (writeText content) := by
  have body : IsPrintable (content.toList.flatMap writeChar) := fun written member => by
    obtain ⟨char, -, here⟩ := List.mem_flatMap.mp member
    exact isPrintable_writeChar char written here
  exact body.enclosed (by decide) (by decide)

/-! ## Values -/

/-- Whether a text stands for a value, whatever follows it. -/
structure Represents (value : Value) (chars : List Char) : Prop where
  isPrintable : IsPrintable chars
  /-- The text starts with neither space nor the end of a list. -/
  starts : ∃ first others, chars = first :: others ∧ isSpace first = false ∧ first ≠ ']'
  reads : ∀ (steps : Nat) (rest : List Char), chars.length ≤ steps → EndsNumber rest →
    readValue steps (chars ++ rest) = .ok (value, rest)

/-- A word stands for its value. -/
theorem represents_word
    {word : List Char}
    {value : Value}
    (listed : (word, value) ∈ words) :
    Represents value word := by
  simp only [words, List.mem_cons, List.not_mem_nil, or_false, Prod.mk.injEq] at listed
  obtain ⟨rfl, rfl⟩ | ⟨rfl, rfl⟩ | ⟨rfl, rfl⟩ | ⟨rfl, rfl⟩ | ⟨rfl, rfl⟩ | ⟨rfl, rfl⟩ := listed
  all_goals
    refine ⟨isPrintable_of_all rfl, ⟨_, _, rfl, by decide, by decide⟩,
      fun steps rest enough _ => ?_⟩
    obtain ⟨steps, rfl⟩ := Nat.exists_eq_succ_of_ne_zero (Nat.ne_zero_of_lt enough)
    rfl

theorem represents_text (content : String) : Represents (.text content) (writeText content) := by
  refine ⟨isPrintable_writeText content, ⟨'"', _, rfl, by decide, by decide⟩,
    fun steps rest enough _ => ?_⟩
  obtain ⟨steps, rfl⟩ := Nat.exists_eq_succ_of_ne_zero (Nat.ne_zero_of_lt enough)
  rw [writeText_append, readValue, readText?_length]
  dsimp only
  rw [String.ofList_toList]

theorem ne_of_isDigit
    {digit other : Char}
    (isDigit : digit.isDigit = true)
    (notDigit : other.isDigit = false) :
    digit ≠ other := by
  rintro rfl
  exact Bool.noConfusion (isDigit.symm.trans notDigit)

theorem AreDigits.isPrintable
    {chars : List Char}
    (areDigits : AreDigits chars) :
    IsPrintable chars := fun char member =>
  Nat.le_trans (by decide) (Text.toNat_bounds_of_isDigit (areDigits char member)).1

theorem NumberParts.isPrintable_text (parts : NumberParts) : IsPrintable parts.text := by
  refine .append ?_ (.append parts.wholeAreDigits.isPrintable (.append ?_ ?_))
  · rw [signText]
    split
    · exact .cons (by decide) isPrintable_nil
    · exact isPrintable_nil
  · rw [fractionText]
    split
    · exact isPrintable_nil
    · exact .cons (by decide) parts.fractionAreDigits.isPrintable
  · cases exponent : parts.exponent with
    | none => exact isPrintable_nil
    | some part =>
        obtain ⟨negative, digits⟩ := part
        have areDigits := (parts.exponentIsNumeral _ exponent).2
        cases negative <;> exact .cons (by decide) (.cons (by decide) areDigits.isPrintable)

/-- No word starts like a number. -/
theorem readWord?_number
    {first : Char}
    (digit : first.isDigit = true)
    (negative : Bool)
    (others : List Char) :
    readWord? (NumberParts.signText negative ++ first :: others) = none := by
  have apart : ∀ {other : Char}, other.isDigit = false → ¬other = first := fun notDigit same =>
    ne_of_isDigit digit notDigit same.symm
  cases negative <;>
    simp [readWord?, words, NumberParts.signText, dropWord?, apart]

/-- The parts of a number stand for the number. -/
theorem represents_parts
    (parts : NumberParts)
    (few : parts.isInteger = true → parts.whole.length ≤ Number.maxDigits) :
    Represents parts.value parts.text := by
  obtain ⟨first, others, digit, start⟩ := parts.exists_text_eq
  refine ⟨parts.isPrintable_text, ?_, fun steps rest enough ends => ?_⟩
  · rw [start]
    cases parts.negative with
    | true => exact ⟨'-', _, rfl, by decide, by decide⟩
    | false =>
        refine ⟨first, others, rfl, ?_, ne_of_isDigit digit (by decide)⟩
        simp [isSpace, ne_of_isDigit digit]
  · have number := parts.readNumber_text_append few ends
    have noWord := readWord?_number digit parts.negative (others ++ rest)
    have atNumber : ∀ other : Char, other.isDigit = false → other ≠ '-' → ∀ after,
        parts.text ++ rest ≠ other :: after := fun other notDigit notMinus after same => by
      rw [start] at same
      cases sign : parts.negative with
      | true =>
          rw [sign] at same
          exact notMinus (List.cons.inj same).1.symm
      | false =>
          rw [sign] at same
          exact ne_of_isDigit digit notDigit (List.cons.inj same).1
    have nonempty : parts.text.length ≠ 0 := by
      rw [start]
      simp
    obtain ⟨steps, rfl⟩ := Nat.exists_eq_succ_of_ne_zero (by omega : steps ≠ 0)
    rw [← List.cons_append, ← List.append_assoc, ← start] at noWord
    rw [readValue]
    · rw [noWord]
      exact number
    · exact fun after => atNumber '"' (by decide) (by decide) after
    · exact fun after => atNumber '[' (by decide) (by decide) after
    · exact fun after => atNumber '\x7b' (by decide) (by decide) after

/-! ## Lists -/

theorem skipSpace_cons
    {first : Char}
    (noSpace : isSpace first = false)
    (others : List Char) :
    skipSpace (first :: others) = first :: others :=
  List.dropWhile_cons_of_neg (by simp [noSpace])

theorem endsNumber_cons
    {first : Char}
    (punctuation : first = ',' ∨ first = ']' ∨ first = '\x7d')
    (others : List Char) :
    EndsNumber (first :: others) := by
  intro char here
  obtain rfl := Option.some.inj here
  obtain rfl | rfl | rfl := punctuation <;> decide

/-- Whether a text stands for the items of a list, up to its end. -/
structure RepresentsItems (items : List Value) (chars : List Char) : Prop where
  isPrintable : IsPrintable chars
  starts : ∃ first others, chars = first :: others ∧ isSpace first = false ∧ first ≠ ']'
  reads : ∀ (steps : Nat) (rest : List Char), chars.length < steps →
    readItems steps (chars ++ ']' :: rest) = .ok (items, rest)

theorem representsItems_singleton
    {item : Value}
    {chars : List Char}
    (represents : Represents item chars) :
    RepresentsItems [item] chars := by
  refine ⟨represents.isPrintable, represents.starts, fun steps rest enough => ?_⟩
  obtain ⟨steps, rfl⟩ := Nat.exists_eq_succ_of_ne_zero (Nat.ne_zero_of_lt enough)
  have first := represents.reads steps _ (Nat.lt_succ_iff.mp enough)
    (endsNumber_cons (.inr (.inl rfl)) rest)
  rw [readItems, first]
  rfl

theorem representsItems_cons
    {item : Value}
    {items : List Value}
    {head chars : List Char}
    (represents : Represents item head)
    (others : RepresentsItems items chars) :
    RepresentsItems (item :: items) (head ++ ',' :: chars) := by
  refine ⟨represents.isPrintable.append (.cons (by decide) others.isPrintable), ?_,
    fun steps rest enough => ?_⟩
  · obtain ⟨first, others, rfl, notSpace, notEnd⟩ := represents.starts
    exact ⟨first, _, rfl, notSpace, notEnd⟩
  · rw [List.length_append, List.length_cons] at enough
    obtain ⟨steps, rfl⟩ := Nat.exists_eq_succ_of_ne_zero (Nat.ne_zero_of_lt enough)
    have first := represents.reads steps _ (by omega)
      (endsNumber_cons (.inl rfl) (chars ++ ']' :: rest))
    have next := others.reads steps rest (by omega)
    have noSpace : skipSpace (chars ++ ']' :: rest) = chars ++ ']' :: rest := by
      obtain ⟨first, others, rfl, notSpace, -⟩ := others.starts
      exact skipSpace_cons notSpace _
    have separator : skipSpace (',' :: (chars ++ ']' :: rest)) = ',' :: (chars ++ ']' :: rest) :=
      skipSpace_cons (by decide) _
    rw [List.append_assoc, List.cons_append, readItems, first]
    simp only [bind, Except.bind, separator, noSpace, next]
    rfl

theorem represents_nil : Represents (.list []) ['[', ']'] := by
  refine ⟨isPrintable_nil.enclosed (by decide) (by decide), ⟨_, _, rfl, by decide, by decide⟩,
    fun steps rest enough _ => ?_⟩
  obtain ⟨steps, rfl⟩ := Nat.exists_eq_succ_of_ne_zero (Nat.ne_zero_of_lt enough)
  rfl

theorem represents_list
    {items : List Value}
    {chars : List Char}
    (represents : RepresentsItems items chars) :
    Represents (.list items) ('[' :: chars ++ [']']) := by
  refine ⟨represents.isPrintable.enclosed (by decide) (by decide),
    ⟨_, _, rfl, by decide, by decide⟩, fun steps rest enough _ => ?_⟩
  rw [List.length_append, List.length_cons, List.length_singleton] at enough
  obtain ⟨steps, rfl⟩ := Nat.exists_eq_succ_of_ne_zero (Nat.ne_zero_of_lt enough)
  have read := represents.reads steps rest (by omega)
  obtain ⟨first, others, rfl, notSpace, notEnd⟩ := represents.starts
  rw [List.cons_append, List.cons_append, List.append_assoc, List.singleton_append, readValue,
    List.cons_append, skipSpace_cons notSpace]
  split
  · next same => exact absurd (List.cons.inj same).1 notEnd
  · rw [← List.cons_append, read]
    rfl

/-! ## Records -/

/-- Whether a text stands for the entries of a record, up to its end. -/
structure RepresentsEntries (entries : List (String × Value)) (chars : List Char) : Prop where
  isPrintable : IsPrintable chars
  /-- The text starts with the first key. -/
  starts : ∃ others, chars = '"' :: others
  reads : ∀ (steps : Nat) (rest : List Char), chars.length < steps →
    readEntries steps (chars ++ '\x7d' :: rest) = .ok (entries, rest)

theorem starts_entry
    (key : String)
    (rest : List Char) :
    ∃ others, writeText key ++ rest = '"' :: others :=
  ⟨_, writeText_append key rest⟩

section Entries

variable {key : String} {value : Value} {head : List Char} (represents : Represents value head)

include represents

theorem isPrintable_entry : IsPrintable (writeText key ++ ':' :: head) :=
  (isPrintable_writeText key).append (.cons (by decide) represents.isPrintable)

/-- An entry is read back, and after it what is left of the record. -/
theorem readEntries_entry
    {steps : Nat}
    {rest : List Char}
    (enough : head.length ≤ steps)
    (ends : EndsNumber rest) :
    readEntries (steps + 1) (writeText key ++ ':' :: head ++ rest) =
      match skipSpace rest with
      | ',' :: rest => do
          let (entries, rest) ← readEntries steps (skipSpace rest)
          return ((key, value) :: entries, rest)
      | '\x7d' :: rest => return ([(key, value)], rest)
      | _ => throw .malformed := by
  have read := represents.reads steps rest enough ends
  obtain ⟨first, others, rfl, notSpace, -⟩ := represents.starts
  have colon : skipSpace (':' :: (first :: others ++ rest)) = ':' :: (first :: others ++ rest) :=
    skipSpace_cons (by decide) _
  have stays : skipSpace (first :: others ++ rest) = first :: others ++ rest :=
    skipSpace_cons notSpace _
  rw [List.append_assoc, writeText_append, readEntries, readText?_length]
  simp only [List.cons_append] at colon stays read ⊢
  conv_lhs => simp only [colon, stays, read, bind, Except.bind, String.ofList_toList]
  rfl

theorem representsEntries_singleton :
    RepresentsEntries [(key, value)] (writeText key ++ ':' :: head) := by
  refine ⟨isPrintable_entry represents, starts_entry key _, fun steps rest enough => ?_⟩
  rw [List.length_append, List.length_cons] at enough
  obtain ⟨steps, rfl⟩ := Nat.exists_eq_succ_of_ne_zero (Nat.ne_zero_of_lt enough)
  rw [readEntries_entry represents (by omega) (endsNumber_cons (.inr (.inr rfl)) rest),
    skipSpace_cons (by decide)]
  rfl

theorem representsEntries_cons
    {entries : List (String × Value)}
    {chars : List Char}
    (others : RepresentsEntries entries chars) :
    RepresentsEntries ((key, value) :: entries) (writeText key ++ ':' :: head ++ ',' :: chars) := by
  refine ⟨(isPrintable_entry represents).append (.cons (by decide) others.isPrintable), ?_,
    fun steps rest enough => ?_⟩
  · rw [List.append_assoc]
    exact starts_entry key _
  · rw [List.length_append, List.length_append, List.length_cons, List.length_cons] at enough
    obtain ⟨steps, rfl⟩ := Nat.exists_eq_succ_of_ne_zero (Nat.ne_zero_of_lt enough)
    have next := others.reads steps rest (by omega)
    have stays : skipSpace (chars ++ '\x7d' :: rest) = chars ++ '\x7d' :: rest := by
      obtain ⟨after, rfl⟩ := others.starts
      exact skipSpace_cons (by decide) _
    rw [List.append_assoc, List.cons_append,
      readEntries_entry represents (by omega) (endsNumber_cons (.inl rfl) _),
      skipSpace_cons (by decide)]
    change (readEntries steps (skipSpace (chars ++ '\x7d' :: rest))).bind _ = _
    rw [stays, next]
    rfl

end Entries

theorem represents_noEntry : Represents (.record []) ['\x7b', '\x7d'] := by
  refine ⟨isPrintable_nil.enclosed (by decide) (by decide), ⟨_, _, rfl, by decide, by decide⟩,
    fun steps rest enough _ => ?_⟩
  obtain ⟨steps, rfl⟩ := Nat.exists_eq_succ_of_ne_zero (Nat.ne_zero_of_lt enough)
  rfl

theorem represents_record
    {entries : List (String × Value)}
    {chars : List Char}
    (distinct : (entries.map Prod.fst).Nodup)
    (represents : RepresentsEntries entries chars) :
    Represents (.record entries) ('\x7b' :: chars ++ ['\x7d']) := by
  refine ⟨represents.isPrintable.enclosed (by decide) (by decide),
    ⟨_, _, rfl, by decide, by decide⟩, fun steps rest enough _ => ?_⟩
  rw [List.length_append, List.length_cons, List.length_singleton] at enough
  obtain ⟨steps, rfl⟩ := Nat.exists_eq_succ_of_ne_zero (Nat.ne_zero_of_lt enough)
  have read := represents.reads steps rest (by omega)
  obtain ⟨others, rfl⟩ := represents.starts
  rw [List.cons_append, List.cons_append, List.append_assoc, List.singleton_append, readValue,
    List.cons_append, skipSpace_cons (by decide)]
  change (readEntries steps ('"' :: others ++ '\x7d' :: rest)).bind _ = _
  rw [read]
  change Except.ok (Value.record (Value.gather entries), rest) = _
  rw [Value.gather_of_nodup distinct]

end Json
end RoutineGate
