import RoutineGate.Database.Connection
import RoutineGate.Database.Template
import RoutineGate.Proofs.Text.Splitting
import RoutineGate.Proofs.Traversal

/-!
# Statements as they are run

A driver writes the arguments of a statement as texts and fills its template with them; what is
run is the filled template.  The name of a procedure is quoted for the database, but it is a part
of the template too.  So it never gets out of its quotes, and the procedure is called by its name
exactly if no percent sign is in the name.
-/

namespace RoutineGate
namespace Database

/-! ## Reading a conversion -/

namespace Conversion

/-- Whether a character may stand between the mark of a conversion and its kind. -/
def isModifier (char : Char) : Bool :=
  isFlag char || char.isDigit || char = '.' || isSize char

theorem exists_of_readField
    {largest number : Nat}
    {hasNext : Bool}
    {chars rest : List Char}
    (done : readField largest hasNext chars = .ok (number, rest)) :
    ∃ digits, chars = digits ++ rest ∧ ∀ char ∈ digits, isModifier char := by
  unfold readField at done
  split at done
  · exact absurd done (by simp)
  · dsimp only at done
    split at done
    · exact absurd done (by simp)
    · obtain ⟨-, rfl⟩ := Prod.mk.inj (Except.ok.inj done)
      refine ⟨chars.takeWhile Char.isDigit, List.takeWhile_append_dropWhile.symm, ?_⟩
      intro char member
      have digit : char.isDigit = true := List.all_eq_true.mp List.all_takeWhile char member
      simp [isModifier, digit]

theorem exists_of_readPrecision
    {hasNext : Bool}
    {chars rest : List Char}
    {precision : Option Nat}
    (done : readPrecision hasNext chars = .ok (precision, rest)) :
    ∃ taken, chars = taken ++ rest ∧ ∀ char ∈ taken, isModifier char := by
  unfold readPrecision at done
  split at done
  · next point =>
      obtain ⟨others, rfl⟩ := List.head?_eq_some_iff.mp point
      cases field : readField largestPrecision hasNext others with
      | error problem => simp [field, Except.map] at done
      | ok found =>
          obtain ⟨number, after⟩ := found
          obtain ⟨digits, rfl, areModifiers⟩ := exists_of_readField field
          obtain ⟨-, rfl⟩ : _ ∧ after = rest := by simpa [field, Except.map] using done
          refine ⟨'.' :: digits, rfl, fun char member => ?_⟩
          obtain rfl | member := List.mem_cons.mp member
          · decide
          · exact areModifiers char member
  · obtain ⟨-, rfl⟩ := Prod.mk.inj (Except.ok.inj done)
    exact ⟨[], rfl, by simp⟩

theorem exists_of_skipSize (chars : List Char) :
    ∃ taken, chars = taken ++ skipSize chars ∧ ∀ char ∈ taken, isModifier char := by
  cases chars with
  | nil => exact ⟨[], rfl, by simp⟩
  | cons char rest =>
      by_cases size : isSize char = true
      · exact ⟨[char], by simp [skipSize, size], by simp [isModifier, size]⟩
      · exact ⟨[], by simp [skipSize, size], by simp⟩

/-- A conversion consists of modifiers and of its kind. -/
theorem exists_of_read
    {hasNext : Bool}
    {chars rest : List Char}
    {conversion : Conversion}
    (done : read hasNext chars = .ok (conversion, rest)) :
    ∃ modifiers, chars = modifiers ++ conversion.kind :: rest ∧
      ∀ char ∈ modifiers, isModifier char := by
  unfold read at done
  split at done
  · simp [throw, throwThe, MonadExceptOf.throw, bind, Except.bind] at done
  · cases field : readField largestWidth hasNext (chars.dropWhile isFlag) with
    | error problem => simp [field, bind, Except.bind] at done
    | ok found =>
        obtain ⟨width, afterWidth⟩ := found
        cases precise : readPrecision hasNext afterWidth with
        | error problem => simp [field, precise, bind, Except.bind] at done
        | ok found =>
            obtain ⟨precision, afterPrecision⟩ := found
            obtain ⟨digits, isWidth, widthModifiers⟩ := exists_of_readField field
            obtain ⟨taken, isPrecision, precisionModifiers⟩ := exists_of_readPrecision precise
            obtain ⟨size, isSize, sizeModifiers⟩ := exists_of_skipSize afterPrecision
            simp only [field, precise, bind, Except.bind, pure, Except.pure] at done
            split at done
            · exact absurd done (by simp [throw, throwThe, MonadExceptOf.throw])
            · next kind after last =>
                obtain ⟨rfl, rfl⟩ := Prod.mk.inj (Except.ok.inj done)
                refine ⟨chars.takeWhile isFlag ++ (digits ++ (taken ++ size)), ?_, ?_⟩
                · rw [last] at isSize
                  simp only [List.append_assoc]
                  rw [← isSize, ← isPrecision, ← isWidth, List.takeWhile_append_dropWhile]
                · intro char member
                  simp only [List.mem_append] at member
                  obtain flag | digit | precision | size := member
                  · have isFlag : isFlag char = true :=
                      List.all_eq_true.mp List.all_takeWhile char flag
                    simp [isModifier, isFlag]
                  · exact widthModifiers char digit
                  · exact precisionModifiers char precision
                  · exact sizeModifiers char size

end Conversion

/-! ## Filling a template -/

variable {char : Char} {rest sql : List Char} {texts : List (List Char)}

/-- A character that starts no conversion stands for itself. -/
theorem fill_cons_of_ne
    (plain : char ≠ conversionMark)
    (rest : List Char)
    (texts : List (List Char)) :
    fill (char :: rest) texts = (fill rest texts).map (char :: ·) := by
  rw [fill, if_pos plain]

theorem fill_append_of_notMem
    {front : List Char}
    (plain : conversionMark ∉ front)
    (rest : List Char)
    (texts : List (List Char)) :
    fill (front ++ rest) texts = (fill rest texts).map (front ++ ·) := by
  induction front with
  | nil => cases filled : fill rest texts <;> simp [filled, Except.map]
  | cons char front inductionHypothesis =>
      obtain ⟨different, others⟩ := not_or.mp (List.mem_cons.not.mp plain)
      rw [List.cons_append, fill_cons_of_ne (Ne.symm different), inductionHypothesis others]
      cases fill rest texts <;> rfl

/-- Two marks write one. -/
theorem fill_doubled
    (rest : List Char)
    (texts : List (List Char)) :
    fill (conversionMark :: conversionMark :: rest) texts =
      (fill rest texts).map (conversionMark :: ·) := by
  rw [fill]
  simp

/-- A conversion is written with the first text, and what follows it with the other ones. -/
theorem exists_of_fill_conversion
    (single : rest.head? ≠ some conversionMark)
    (filled : fill (conversionMark :: rest) texts = .ok sql) :
    ∃ conversion after content others written filledAfter,
      Conversion.read true rest = .ok (conversion, after) ∧ texts = content :: others ∧
        conversion.write content = .ok written ∧ fill after others = .ok filledAfter ∧
        sql = written ++ filledAfter := by
  rw [fill] at filled
  simp only [ne_eq, not_true_eq_false, if_false, single] at filled
  split at filled
  · exact absurd filled (by simp)
  · next conversion after done =>
      cases texts with
      | nil => exact absurd filled (by simp)
      | cons content others =>
          dsimp only at filled
          split at filled
          · exact absurd filled (by simp)
          · next written wrote =>
              obtain ⟨filledAfter, isFilled, rfl⟩ := map_eq_ok_iff.mp filled
              exact ⟨conversion, after, content, others, written, filledAfter, done, rfl, wrote,
                isFilled, rfl⟩

/-- A placeholder is replaced by the first text. -/
theorem fill_placeholder
    (rest content : List Char)
    (others : List (List Char)) :
    fill (conversionMark :: 's' :: rest) (content :: others) =
      (fill rest others).map (content ++ ·) := by
  have done : Conversion.read true ('s' :: rest) =
      .ok ({ alignsLeft := false, width := 0, precision := none, kind := 's' }, rest) := rfl
  rw [fill]
  simp [conversionMark, done, Conversion.write, Conversion.pad, Conversion.cut]

/-- What stands between placeholders, and between the texts that they are replaced by. -/
def argumentSeparator : List Char := [',', ' ']

theorem fill_end_eq_ok_iff :
    fill [')'] texts = .ok sql ↔ texts = [] ∧ sql = [')'] := by
  rw [fill_cons_of_ne (by decide), fill]
  cases texts <;> simp [Except.map, eq_comm]

/-- Placeholders are filled exactly if there are as many texts, which take their places. -/
theorem fill_placeholders_eq_ok_iff
    {count : Nat} :
    fill (Text.joinWith argumentSeparator (List.replicate count placeholder.toList) ++ [')'])
        texts = .ok sql ↔
      texts.length = count ∧ sql = Text.joinWith argumentSeparator texts ++ [')'] := by
  induction count generalizing texts sql with
  | zero =>
      refine fill_end_eq_ok_iff.trans ?_
      rw [List.length_eq_zero_iff]
      refine and_congr_right fun none => ?_
      rw [none]
      rfl
  | succ count inductionHypothesis =>
      have start : ∃ rest,
          Text.joinWith argumentSeparator (List.replicate (count + 1) placeholder.toList) ++ [')'] =
            conversionMark :: 's' :: rest := by
        cases count with
        | zero => exact ⟨[')'], rfl⟩
        | succ count => exact ⟨_, rfl⟩
      cases texts with
      | nil =>
          refine iff_of_false (fun filled => ?_) (by simp)
          obtain ⟨rest, isStart⟩ := start
          rw [isStart] at filled
          obtain ⟨_, _, _, _, _, _, _, none, -⟩ :=
            exists_of_fill_conversion (by simp [conversionMark]) filled
          exact absurd none (by simp)
      | cons content others =>
          cases count with
          | zero =>
              change fill (conversionMark :: 's' :: [')']) (content :: others) = .ok sql ↔ _
              rw [fill_placeholder, map_eq_ok_iff]
              simp only [fill_end_eq_ok_iff, List.length_cons, Nat.add_eq_right,
                List.length_eq_zero_iff]
              constructor
              · rintro ⟨_, ⟨rfl, rfl⟩, rfl⟩
                exact ⟨rfl, rfl⟩
              · rintro ⟨rfl, rfl⟩
                exact ⟨_, ⟨rfl, rfl⟩, rfl⟩
          | succ count =>
              change fill (conversionMark :: 's' :: (argumentSeparator ++
                (Text.joinWith argumentSeparator (List.replicate (count + 1) placeholder.toList) ++
                  [')']))) (content :: others) = .ok sql ↔ _
              rw [fill_placeholder, fill_append_of_notMem (by decide)]
              simp only [map_eq_ok_iff, inductionHypothesis, List.length_cons,
                Nat.add_right_cancel_iff]
              constructor
              · rintro ⟨_, ⟨_, ⟨many, rfl⟩, rfl⟩, rfl⟩
                obtain ⟨next, others, rfl⟩ := List.exists_cons_of_length_eq_add_one many
                exact ⟨many, by simp [Text.joinWith]⟩
              · rintro ⟨many, rfl⟩
                obtain ⟨next, others, rfl⟩ := List.exists_cons_of_length_eq_add_one many
                exact ⟨_, ⟨_, ⟨many, rfl⟩, rfl⟩, by simp [Text.joinWith]⟩

/-! ## Names in quotes -/

/-- A name with its quotes doubled, the closing quote, and what follows it. -/
def inQuotes (name rest : List Char) : List Char :=
  Text.replaceChar identifierQuote [identifierQuote, identifierQuote] name ++
    identifierQuote :: rest

theorem inQuotes_nil (rest : List Char) : inQuotes [] rest = identifierQuote :: rest := rfl

theorem inQuotes_quote (name rest : List Char) :
    inQuotes (identifierQuote :: name) rest =
      identifierQuote :: identifierQuote :: inQuotes name rest := rfl

theorem inQuotes_cons
    (plain : char ≠ identifierQuote)
    (name rest : List Char) :
    inQuotes (char :: name) rest = char :: inQuotes name rest := by
  rw [inQuotes, Text.replaceChar, List.flatMap_cons, if_neg plain]
  rfl

/-- What holds no quote belongs to the name. -/
theorem exists_of_inQuotes_eq_append
    {name taken after : List Char}
    (plain : identifierQuote ∉ taken)
    (same : inQuotes name rest = taken ++ after) :
    ∃ left, name = taken ++ left ∧ after = inQuotes left rest := by
  induction taken generalizing name with
  | nil => exact ⟨name, rfl, same.symm⟩
  | cons first taken inductionHypothesis =>
      obtain ⟨different, others⟩ := not_or.mp (List.mem_cons.not.mp plain)
      cases name with
      | nil => exact absurd (List.cons.inj same).1 different
      | cons char name =>
          by_cases quote : char = identifierQuote
          · rw [quote, inQuotes_quote] at same
            exact absurd (List.cons.inj same).1 different
          · rw [inQuotes_cons quote] at same
            obtain ⟨rfl, continued⟩ := List.cons.inj same
            obtain ⟨left, rfl, isAfter⟩ := inductionHypothesis others continued
            exact ⟨left, rfl, isAfter⟩

/-- What a name becomes when a template is filled in which it stands: of two marks one is left. -/
inductive Collapses : List Char → List Char → Prop
  | nil : Collapses [] []
  | plain {char : Char} {name called : List Char}
      (notMark : char ≠ conversionMark)
      (collapses : Collapses name called) :
      Collapses (char :: name) (char :: called)
  | doubled {name called : List Char}
      (collapses : Collapses name called) :
      Collapses (conversionMark :: conversionMark :: name) (conversionMark :: called)

namespace Collapses

variable {name called : List Char}

theorem length_le (collapses : Collapses name called) : called.length ≤ name.length := by
  induction collapses with
  | nil => exact Nat.le_refl 0
  | plain _ _ inductionHypothesis => exact Nat.succ_le_succ inductionHypothesis
  | doubled _ inductionHypothesis => exact Nat.le_succ_of_le (Nat.succ_le_succ inductionHypothesis)

theorem of_notMem (plain : conversionMark ∉ name) : Collapses name name := by
  induction name with
  | nil => exact .nil
  | cons char name inductionHypothesis =>
      obtain ⟨different, others⟩ := not_or.mp (List.mem_cons.not.mp plain)
      exact .plain (Ne.symm different) (inductionHypothesis others)

/-- Only a name without marks stays what it is. -/
theorem eq_iff (collapses : Collapses name called) : called = name ↔ conversionMark ∉ name := by
  induction collapses with
  | nil => simp
  | plain notMark _ inductionHypothesis =>
      simp only [List.cons.injEq, true_and, inductionHypothesis, List.mem_cons, not_or]
      exact (and_iff_right (Ne.symm notMark)).symm
  | @doubled name called collapses _ =>
      refine iff_of_false (fun same => ?_) (by simp)
      have shorter := collapses.length_le
      have longer := congrArg List.length same
      simp only [List.length_cons] at longer
      omega

end Collapses

/-- A template with a name in quotes writes what the name becomes. -/
theorem fill_inQuotes_of_collapses
    {name called : List Char}
    (collapses : Collapses name called)
    (rest : List Char)
    (texts : List (List Char)) :
    fill (inQuotes name rest) texts = (fill rest texts).map (inQuotes called ·) := by
  have quotePlain : identifierQuote ≠ conversionMark := by decide
  induction collapses with
  | nil => exact fill_cons_of_ne quotePlain rest texts
  | @plain char name called notMark _ inductionHypothesis =>
      by_cases quote : char = identifierQuote
      · rw [quote, inQuotes_quote, fill_cons_of_ne quotePlain, fill_cons_of_ne quotePlain,
          inductionHypothesis]
        cases fill rest texts <;> rfl
      · rw [inQuotes_cons quote, fill_cons_of_ne notMark, inductionHypothesis]
        cases filled : fill rest texts with
        | error problem => rfl
        | ok after => exact congrArg Except.ok (inQuotes_cons quote called after).symm
  | @doubled name called _ inductionHypothesis =>
      rw [inQuotes_cons quotePlain.symm, inQuotes_cons quotePlain.symm, fill_doubled,
        inductionHypothesis]
      cases filled : fill rest texts with
      | error problem => rfl
      | ok after => exact congrArg Except.ok (inQuotes_cons quotePlain.symm called after).symm

/-- The kind of a conversion that writes a text is no quote. -/
theorem Conversion.kind_ne_of_write
    {conversion : Conversion}
    {content written : List Char}
    (wrote : conversion.write content = .ok written) :
    conversion.kind ≠ identifierQuote := by
  intro quote
  simp [write, quote, identifierQuote] at wrote

/--
A template with a name in quotes is filled only if the name becomes another one, or if a
conversion in the name takes a text away from what follows the name.
-/
theorem exists_of_fill_inQuotes
    {name : List Char}
    (filled : fill (inQuotes name rest) texts = .ok sql) :
    (∃ called, Collapses name called) ∨
      ∃ fewer after, fewer.length < texts.length ∧ fill rest fewer = .ok after := by
  have quotePlain : identifierQuote ≠ conversionMark := by decide
  induction size : name.length using Nat.strongRecOn generalizing name texts sql with
  | ind _ inductionHypothesis =>
  subst size
  cases name with
  | nil => exact .inl ⟨[], .nil⟩
  | cons char name =>
  by_cases mark : char = conversionMark
  · subst mark
    rw [inQuotes_cons quotePlain.symm] at filled
    by_cases single : (inQuotes name rest).head? = some conversionMark
    · -- the second mark belongs to the name too, as the closing quote is none
      obtain ⟨after, doubled⟩ := List.head?_eq_some_iff.mp single
      have plain : identifierQuote ∉ [conversionMark] := by decide
      obtain ⟨left, rfl, rfl⟩ := exists_of_inQuotes_eq_append plain doubled
      rw [doubled, fill_doubled] at filled
      obtain ⟨filledLeft, isFilled, -⟩ := map_eq_ok_iff.mp filled
      obtain ⟨called, collapses⟩ | fewer :=
        inductionHypothesis left.length
          (by simp only [List.length_cons, List.length_append]; omega) isFilled rfl
      · exact .inl ⟨_, .doubled collapses⟩
      · exact .inr fewer
    · obtain ⟨conversion, after, content, others, written, filledAfter, done, rfl, wrote, isFilled,
        rfl⟩ := exists_of_fill_conversion single filled
      obtain ⟨modifiers, isRead, areModifiers⟩ := Conversion.exists_of_read done
      -- the conversion ends before the closing quote, which is neither a modifier nor a kind
      have plain : identifierQuote ∉ modifiers ++ [conversion.kind] := by
        intro member
        obtain modifier | kind := List.mem_append.mp member
        · exact absurd (areModifiers _ modifier) (by decide)
        · exact Conversion.kind_ne_of_write wrote (List.mem_singleton.mp kind).symm
      rw [← List.singleton_append, ← List.append_assoc] at isRead
      obtain ⟨left, rfl, rfl⟩ := exists_of_inQuotes_eq_append plain isRead
      have fewer : others.length < (content :: others).length := Nat.lt_succ_self _
      obtain ⟨called, collapses⟩ | ⟨least, filledRest, less, restFilled⟩ :=
        inductionHypothesis left.length
          (by simp only [List.length_cons, List.length_append]; omega) isFilled rfl
      · rw [fill_inQuotes_of_collapses collapses] at isFilled
        obtain ⟨filledRest, restFilled, -⟩ := map_eq_ok_iff.mp isFilled
        exact .inr ⟨others, filledRest, fewer, restFilled⟩
      · exact .inr ⟨least, filledRest, Nat.lt_trans less fewer, restFilled⟩
  · have shorter : ∃ filledName, fill (inQuotes name rest) texts = .ok filledName := by
      by_cases quote : char = identifierQuote
      · rw [quote, inQuotes_quote, fill_cons_of_ne quotePlain, fill_cons_of_ne quotePlain] at filled
        obtain ⟨_, isFilled, -⟩ := map_eq_ok_iff.mp filled
        obtain ⟨filledName, isFilled, -⟩ := map_eq_ok_iff.mp isFilled
        exact ⟨filledName, isFilled⟩
      · rw [inQuotes_cons quote, fill_cons_of_ne mark] at filled
        obtain ⟨filledName, isFilled, -⟩ := map_eq_ok_iff.mp filled
        exact ⟨filledName, isFilled⟩
    obtain ⟨filledName, isFilled⟩ := shorter
    obtain ⟨called, collapses⟩ | fewer :=
      inductionHypothesis name.length (Nat.lt_succ_self _) isFilled rfl
    · exact .inl ⟨_, .plain mark collapses⟩
    · exact .inr fewer

/-! ## Statements -/

/-- The text of a call of a procedure with written arguments. -/
def callText (name : List Char) (texts : List (List Char)) : List Char :=
  "CALL ".toList ++ identifierQuote ::
    inQuotes name ('(' :: (Text.joinWith argumentSeparator texts ++ [')']))

/-- The statement of a call has placeholders for its arguments. -/
theorem toList_callStatement
    (name : String)
    (count : Nat) :
    (callStatement name count).toList =
      callText name.toList (List.replicate count placeholder.toList) := by
  rw [callText, Text.joinWith_eq_intercalate, callStatement]
  simp [quoteIdentifier, inQuotes, argumentSeparator]

/-- Filling the statement of a call writes a call under what the name becomes, or nothing. -/
theorem fill_callStatement_eq_ok_iff
    {name : String} :
    fill (callStatement name texts.length).toList texts = .ok sql ↔
      ∃ called, Collapses name.toList called ∧ sql = callText called texts := by
  have opening : conversionMark ∉ "CALL ".toList ++ [identifierQuote] := by decide
  have front (called : List Char) (pieces : List (List Char)) :
      callText called pieces = ("CALL ".toList ++ [identifierQuote]) ++ inQuotes called
        (['('] ++ (Text.joinWith argumentSeparator pieces ++ [')'])) := by
    rw [callText, List.append_assoc]
    rfl
  have arguments {others : List (List Char)} {after : List Char} :
      fill (['('] ++ (Text.joinWith argumentSeparator
          (List.replicate texts.length placeholder.toList) ++ [')'])) others = .ok after ↔
        others.length = texts.length ∧
          after = ['('] ++ (Text.joinWith argumentSeparator others ++ [')']) := by
    rw [fill_append_of_notMem (by decide), map_eq_ok_iff]
    simp only [fill_placeholders_eq_ok_iff]
    constructor
    · rintro ⟨_, ⟨many, rfl⟩, rfl⟩
      exact ⟨many, rfl⟩
    · rintro ⟨many, rfl⟩
      exact ⟨_, ⟨many, rfl⟩, rfl⟩
  rw [toList_callStatement, front, fill_append_of_notMem opening, map_eq_ok_iff]
  constructor
  · rintro ⟨filledName, filled, rfl⟩
    obtain ⟨called, collapses⟩ | ⟨fewer, after, less, filledRest⟩ := exists_of_fill_inQuotes filled
    · rw [fill_inQuotes_of_collapses collapses, map_eq_ok_iff] at filled
      obtain ⟨after, filledRest, rfl⟩ := filled
      obtain ⟨-, rfl⟩ := arguments.mp filledRest
      exact ⟨called, collapses, (front called texts).symm⟩
    · exact absurd (arguments.mp filledRest).1 (Nat.ne_of_lt less)
  · rintro ⟨called, collapses, rfl⟩
    refine ⟨_, ?_, (front called texts).symm⟩
    rw [fill_inQuotes_of_collapses collapses, arguments.mpr ⟨rfl, rfl⟩]
    rfl

/-! ## What is run -/

/-- The name up to the closing quote, in which doubled quotes stand for one, and the rest. -/
def closeQuotes? : List Char → Option (List Char × List Char)
  | [] => none
  | [char] => if char = identifierQuote then some ([], []) else none
  | char :: next :: rest =>
      if char ≠ identifierQuote then
        (closeQuotes? (next :: rest)).map fun (name, after) => (char :: name, after)
      else if next ≠ identifierQuote then some ([], next :: rest)
      else (closeQuotes? rest).map fun (name, after) => (identifierQuote :: name, after)

/-- Reads an identifier in quotes at the start of a text. -/
def readIdentifier? : List Char → Option (List Char × List Char)
  | [] => none
  | first :: rest => if first = identifierQuote then closeQuotes? rest else none

/-- A text calls the procedure of a name, in quotes, with written arguments in parentheses. -/
def Calls (sql name : List Char) (texts : List (List Char)) : Prop :=
  ∃ rest, sql = "CALL ".toList ++ rest ∧
    readIdentifier? rest =
      some (name, '(' :: (Text.joinWith argumentSeparator texts ++ [')']))

theorem closeQuotes?_cons
    (plain : char ≠ identifierQuote)
    (rest : List Char) :
    closeQuotes? (char :: rest) =
      (closeQuotes? rest).map fun (name, after) => (char :: name, after) := by
  cases rest <;> simp [closeQuotes?, plain]

/-- A name in quotes is read back, whatever it holds. -/
theorem closeQuotes?_inQuotes
    {first : Char}
    (noQuote : first ≠ identifierQuote)
    (name rest : List Char) :
    closeQuotes? (inQuotes name (first :: rest)) = some (name, first :: rest) := by
  induction name with
  | nil => simp [inQuotes_nil, closeQuotes?, noQuote]
  | cons char name inductionHypothesis =>
      by_cases quote : char = identifierQuote
      · rw [quote, inQuotes_quote]
        simp [closeQuotes?, inductionHypothesis]
      · rw [inQuotes_cons quote, closeQuotes?_cons quote, inductionHypothesis]
        rfl

/-- A text of a call calls the procedure of its name, and no other one. -/
theorem calls_callText_iff
    {called name : List Char} :
    Calls (callText called texts) name texts ↔ called = name := by
  have read : readIdentifier? (identifierQuote ::
      inQuotes called ('(' :: (Text.joinWith argumentSeparator texts ++ [')']))) =
        some (called, '(' :: (Text.joinWith argumentSeparator texts ++ [')'])) := by
    rw [readIdentifier?, if_pos rfl, closeQuotes?_inQuotes (by decide)]
  constructor
  · rintro ⟨rest, same, found⟩
    obtain rfl := List.append_cancel_left same
    rw [read] at found
    exact (Prod.mk.inj (Option.some.inj found)).1
  · rintro rfl
    exact ⟨_, rfl, read⟩

/-- What is run for a statement whose arguments are written as texts. -/
def Statement.filled (write : Value → List Char) (statement : Statement) :
    Except FillError (List Char) :=
  fill statement.text.toList (statement.arguments.map write)

/-- What is run for a statement calls the procedure of a name with the written arguments. -/
def Statement.Runs (statement : Statement) (write : Value → List Char) (name : List Char)
    (arguments : List Value) : Prop :=
  ∃ sql, statement.filled write = .ok sql ∧ Calls sql name (arguments.map write)

/-- A connection that keeps the statements that it is given. -/
def recorded {World : Type} (connection : Connection World) :
    Connection (World × List Statement) :=
  fun statement (world, earlier) =>
    let (outcome, world) := connection statement world
    (outcome, (world, earlier ++ [statement]))

/--
A call gives the connection one statement.  The procedure of the name is what it runs exactly if
no percent sign is in the name; with one, it runs nothing, or only a procedure of the name that
is left when each two percent signs become one.
-/
theorem runs_call_iff
    {World : Type}
    (connection : Connection World)
    (database start procedure : String)
    (arguments : List Value)
    (write : Value → List Char)
    (world : World)
    (earlier : List Statement) :
    ∃ statement,
      ((ofConnection (recorded connection) database start).call procedure arguments
        (world, earlier)).2.2 = earlier ++ [statement] ∧
      (statement.Runs write procedure.toList arguments ↔ '%' ∉ procedure.toList) ∧
      ∀ sql, statement.filled write = .ok sql →
        ∃ called, Collapses procedure.toList called ∧ Calls sql called (arguments.map write) := by
  refine ⟨⟨callStatement procedure arguments.length, arguments⟩, rfl, ?_, ?_⟩
  · constructor
    · rintro ⟨sql, filled, calls⟩
      rw [Statement.filled, ← List.length_map write, fill_callStatement_eq_ok_iff] at filled
      obtain ⟨called, collapses, rfl⟩ := filled
      exact collapses.eq_iff.mp (calls_callText_iff.mp calls)
    · intro plain
      refine ⟨callText procedure.toList (arguments.map write), ?_, calls_callText_iff.mpr rfl⟩
      rw [Statement.filled, ← List.length_map write, fill_callStatement_eq_ok_iff]
      exact ⟨_, .of_notMem plain, rfl⟩
  · intro sql filled
    rw [Statement.filled, ← List.length_map write, fill_callStatement_eq_ok_iff] at filled
    obtain ⟨called, collapses, rfl⟩ := filled
    exact ⟨called, collapses, calls_callText_iff.mpr rfl⟩

/-- A name with a percent sign leaves a conversion in the statement that no driver knows. -/
theorem not_runs_percentName :
    ∃ statement,
      ((ofConnection (recorded fun _ => return .results [] none) "app" "api_").call
        "api_get_50%" [.text "x"] ((), [])).2.2 = [statement] ∧
      statement.filled (fun _ => "'x'".toList) = .error (.unsupported identifierQuote) ∧
      ¬statement.Runs (fun _ => "'x'".toList) "api_get_50%".toList [.text "x"] := by
  have filled : Statement.filled (fun _ => "'x'".toList)
      ⟨callStatement "api_get_50%" 1, [.text "x"]⟩ = .error (.unsupported identifierQuote) := by
    have template : (callStatement "api_get_50%" 1).toList =
        "CALL `api_get_50".toList ++ conversionMark :: "`(%s)".toList := by decide
    have refused : fill (conversionMark :: "`(%s)".toList) ["'x'".toList] =
        .error (.unsupported identifierQuote) := by
      rw [fill]
      rfl
    rw [Statement.filled, template, fill_append_of_notMem (by decide)]
    exact congrArg (Except.map _) refused
  refine ⟨⟨callStatement "api_get_50%" 1, [.text "x"]⟩, rfl, filled, ?_⟩
  rintro ⟨sql, isFilled, -⟩
  rw [filled] at isFilled
  contradiction

end Database
end RoutineGate
