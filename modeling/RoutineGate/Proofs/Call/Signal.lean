import Mathlib.Data.List.Forall2
import RoutineGate.Call.Failure
import RoutineGate.Proofs.Number.Numerals
import RoutineGate.Proofs.Text.Splitting

/-!
# The form of signals

A signal tells an application error by its parts between bars, with any blanks around each of
them: a status, a type, a code, a message and, for the type that concerns one field, the field.
Only the message may contain bars.  Reading a text finds an error exactly if the text has this
form, so reading undoes writing.
-/

namespace RoutineGate

namespace Text

/-- Some pieces in a row may be joined before the others. -/
theorem joinWith_append_joinWith_cons
    {inner : List (List Char)}
    (separator : List Char)
    (nonempty : inner ≠ [])
    (first last : List (List Char)) :
    joinWith separator (first ++ joinWith separator inner :: last) =
      joinWith separator (first ++ (inner ++ last)) := by
  have single : ∀ piece : List Char, [piece] ≠ [] := fun piece => List.cons_ne_nil piece []
  have ends : joinWith separator (first ++ [joinWith separator inner]) =
      joinWith separator (first ++ inner) := by
    cases first with
    | nil => rfl
    | cons piece first =>
        have some := List.cons_ne_nil piece first
        rw [joinWith_append separator some (single _), joinWith_append separator some nonempty]
        rfl
  cases last with
  | nil => rw [List.append_nil, ends]
  | cons next last =>
      have some := List.cons_ne_nil next last
      rw [List.append_cons, joinWith_append separator (by simp) some, ends,
        ← joinWith_append separator (by simp [nonempty]) some, List.append_assoc]

end Text

namespace Call
namespace ApplicationError

/-! ## The status -/

/-- Decimal digits of any scripts write the status of a response. -/
def WritesStatus (chars : List Char) (status : Nat) : Prop :=
  chars ≠ [] ∧ chars.length ≤ Number.maxDigits ∧ (100 ≤ status ∧ status ≤ 599) ∧
    ∃ values, Number.digitValues? chars = some values ∧ Number.ofDigits values = status

/-- Digits that are no numeral, with what becomes of them. -/
inductive NoNumeral (digits : List Char) : Fault → Prop
  /-- Some digit is not decimal. -/
  | other {char : Char}
      (member : char ∈ digits)
      (notDecimal : Text.isDecimal char = false) :
      NoNumeral digits (.integer (.malformed (String.ofList digits)))
  /-- There are more digits than are converted. -/
  | tooMany
      (decimal : ∀ char ∈ digits, Text.isDecimal char = true)
      (many : Number.maxDigits < digits.length) :
      NoNumeral digits (.integer (.tooManyDigits digits.length))

theorem isDigits_iff
    {chars : List Char} :
    isDigits chars = true ↔ chars ≠ [] ∧ ∀ char ∈ chars, Text.isDigit char = true := by
  simp [isDigits]

/-- Decimal digits are digits. -/
theorem isDigits_of_digitValues?
    {chars : List Char}
    {values : List Nat}
    (nonempty : chars ≠ [])
    (found : Number.digitValues? chars = some values) :
    isDigits chars = true := by
  refine isDigits_iff.mpr ⟨nonempty, fun char member => Text.isDigit_of_isDecimal ?_⟩
  by_contra notDecimal
  have none := Number.digitValues?_eq_none_iff.mpr ⟨char, member, by simpa using notDecimal⟩
  rw [none] at found
  contradiction

theorem isStatus_natCast_iff
    {number : Nat} :
    isStatus number = true ↔ 100 ≤ number ∧ number ≤ 599 := by
  simp only [isStatus, Bool.and_eq_true, decide_eq_true_eq]
  omega

/-- What becomes of digits that are read as a status. -/
theorem readStatus_of_isDigits
    {chars : List Char}
    (digits : isDigits chars = true) :
    readStatus chars =
      match Number.digitValues? chars with
      | none => .error (.integer (.malformed (String.ofList chars)))
      | some values =>
          if Number.maxDigits < chars.length then
            .error (.integer (.tooManyDigits chars.length))
          else if 100 ≤ Number.ofDigits values ∧ Number.ofDigits values ≤ 599 then
            .ok (some (Number.ofDigits values))
          else .ok none := by
  obtain ⟨nonempty, areDigits⟩ := isDigits_iff.mp digits
  rw [readStatus, if_pos digits, Number.readInteger_of_digits areDigits nonempty]
  cases Number.digitValues? chars with
  | none => rfl
  | some values =>
      by_cases many : Number.maxDigits < chars.length
      · simp only [if_pos many]
      · simp only [if_neg many, isStatus_natCast_iff, Int.toNat_natCast]
        split <;> rfl

/-- A status is read exactly if it is written. -/
theorem readStatus_eq_some_iff
    {chars : List Char}
    {status : Nat} :
    readStatus chars = .ok (some status) ↔ WritesStatus chars status := by
  constructor
  · intro done
    have digits : isDigits chars = true := by
      by_contra others
      simp [readStatus, others] at done
    rw [readStatus_of_isDigits digits] at done
    cases found : Number.digitValues? chars with
    | none => simp [found] at done
    | some values =>
        simp only [found] at done
        split at done
        · contradiction
        · next few =>
            split at done
            · next bounds =>
                obtain rfl := Option.some.inj (Except.ok.inj done)
                exact ⟨(isDigits_iff.mp digits).1, Nat.le_of_not_lt few, bounds, values, found, rfl⟩
            · simp at done
  · rintro ⟨nonempty, few, bounds, values, found, rfl⟩
    rw [readStatus_of_isDigits (isDigits_of_digitValues? nonempty found), found]
    simp only [if_neg (Nat.not_lt.mpr few), if_pos bounds]

/-- Exactly digits that are no numeral are not read at all. -/
theorem readStatus_eq_error_iff
    {chars : List Char}
    {fault : Fault} :
    readStatus chars = .error fault ↔ isDigits chars = true ∧ NoNumeral chars fault := by
  by_cases digits : isDigits chars = true
  · rw [readStatus_of_isDigits digits, and_iff_right digits]
    cases found : Number.digitValues? chars with
    | none =>
        obtain ⟨char, member, notDecimal⟩ := Number.digitValues?_eq_none_iff.mp found
        constructor
        · intro failed
          obtain rfl := Except.error.inj failed
          exact .other member notDecimal
        · rintro (_ | ⟨decimal, -⟩)
          · rfl
          · exact absurd (decimal char member) (by simp [notDecimal])
    | some values =>
        have decimal : ∀ char ∈ chars, Text.isDecimal char = true := by
          by_contra some
          simp only [not_forall, Bool.not_eq_true, exists_prop] at some
          rw [Number.digitValues?_eq_none_iff.mpr some] at found
          contradiction
        constructor
        · intro failed
          dsimp only at failed
          split at failed
          · next many =>
              obtain rfl := Except.error.inj failed
              exact .tooMany decimal many
          · split at failed <;> contradiction
        · rintro (⟨member, notDecimal⟩ | ⟨-, many⟩)
          · exact absurd (decimal _ member) (by simp [notDecimal])
          · exact if_pos many
  · rw [readStatus, if_neg digits]
    simp [digits]

/-! ## The parts -/

/-- A text tells an error: its parts stand between bars, with any blanks around them. -/
inductive Tells : List Char → ApplicationError → Prop
  | general {status type code message : List Char} {number : Nat}
      (unbarred : ∀ part ∈ [status, type, code], '|' ∉ part)
      (numeral : WritesStatus (Text.trim status) number)
      (named : Text.trim type = ErrorType.general.name.toList) :
      Tells (Text.joinWith ['|'] [status, type, code, message]) {
        status := number
        type := .general
        code := String.ofList (Text.trim code)
        message := String.ofList (Text.trim message) }
  | field {status type code message field : List Char} {number : Nat}
      (unbarred : ∀ part ∈ [status, type, code, field], '|' ∉ part)
      (numeral : WritesStatus (Text.trim status) number)
      (named : Text.trim type = ErrorType.field.name.toList) :
      Tells (Text.joinWith ['|'] [status, type, code, message, field]) {
        status := number
        type := .field
        code := String.ofList (Text.trim code)
        message := String.ofList (Text.trim message)
        field := some (String.ofList (Text.trim field)) }

theorem ofName?_eq_some_iff
    {chars : List Char}
    {type : ErrorType} :
    ErrorType.ofName? (String.ofList chars) = some type ↔ chars = type.name.toList := by
  have named : ErrorType.ofName? (String.ofList chars) = some type ↔
      String.ofList chars = type.name := by
    generalize String.ofList chars = content
    by_cases general : content = "general"
    · subst general
      cases type <;> decide
    · by_cases field : content = "field"
      · subst field
        cases type <;> decide
      · cases type <;>
          simp [ErrorType.ofName?, ErrorType.name, general, field, Ne.symm general, Ne.symm field]
  rw [named, ← String.toList_inj, String.toList_ofList]

/-- The parts after the status, once it is read. -/
theorem ofParts?_eq_some
    {status : Nat}
    {type code message : List Char}
    {rest : List (List Char)}
    {error : ApplicationError}
    (found : ofParts? status type code (message :: rest) = some error) :
    Text.trim type = ErrorType.general.name.toList ∧
        error = {
          status
          type := .general
          code := String.ofList (Text.trim code)
          message := joinParts (message :: rest) } ∨
      Text.trim type = ErrorType.field.name.toList ∧
        ∃ before field, message :: rest = before ++ [field] ∧ before ≠ [] ∧
          error = {
            status
            type := .field
            code := String.ofList (Text.trim code)
            message := joinParts before
            field := some (String.ofList (Text.trim field)) } := by
  unfold ofParts? at found
  dsimp only at found
  split at found
  · next named =>
      left
      obtain rfl := Option.some.inj found
      exact ⟨ofName?_eq_some_iff.mp named, rfl⟩
  · next field last before named reversed =>
      right
      obtain rfl := Option.some.inj found
      refine ⟨ofName?_eq_some_iff.mp named, (last :: before).reverse,
        field, ?_, by simp, rfl⟩
      rw [← List.reverse_cons, ← reversed, List.reverse_reverse]
  · contradiction

theorem ofParts?_of_general
    {type : List Char}
    (named : Text.trim type = ErrorType.general.name.toList)
    (status : Nat)
    (code : List Char)
    (rest : List (List Char)) :
    ofParts? status type code rest = some {
      status
      type := .general
      code := String.ofList (Text.trim code)
      message := joinParts rest } := by
  rw [ofParts?, ofName?_eq_some_iff.mpr named]

theorem ofParts?_of_field
    {type : List Char}
    (named : Text.trim type = ErrorType.field.name.toList)
    (status : Nat)
    (code field : List Char)
    {before : List (List Char)}
    (nonempty : before ≠ []) :
    ofParts? status type code (before ++ [field]) = some {
      status
      type := .field
      code := String.ofList (Text.trim code)
      message := joinParts before
      field := some (String.ofList (Text.trim field)) } := by
  obtain ⟨last, others, reversed⟩ :=
    List.exists_cons_of_ne_nil (List.reverse_ne_nil_iff.mpr nonempty)
  have same : before = (last :: others).reverse := by rw [← reversed, List.reverse_reverse]
  rw [ofParts?, ofName?_eq_some_iff.mpr named, List.reverse_append, List.reverse_singleton,
    List.singleton_append, reversed, same]

/-- What the parts between the bars come to, once the status is read. -/
theorem read_eq_some_iff_exists
    {content : String}
    {error : ApplicationError} :
    read content = .ok (some error) ↔
      ∃ status type code message rest number,
        Text.splitAt '|' content.toList = status :: type :: code :: message :: rest ∧
          WritesStatus (Text.trim status) number ∧
          ofParts? number type code (message :: rest) = some error := by
  unfold read
  split
  · next status type code message rest parts =>
      rw [parts]
      constructor
      · intro done
        split at done
        · next number known =>
            exact ⟨status, type, code, message, rest, number, rfl,
              readStatus_eq_some_iff.mp known, Except.ok.inj done⟩
        · simp at done
        · contradiction
      · rintro ⟨_, _, _, _, _, number, same, numeral, found⟩
        obtain ⟨rfl, rfl, rfl, rfl, rfl⟩ := by simpa using same
        rw [readStatus_eq_some_iff.mpr numeral]
        exact congrArg Except.ok found
  · next fewer =>
      constructor
      · intro done
        simp at done
      · rintro ⟨status, type, code, message, rest, -, parts, -⟩
        exact absurd parts (fewer status type code message rest)

/-- Parts that come to an error are joined to a text that tells it. -/
theorem tells_of_ofParts?_eq_some
    {status type code message : List Char}
    {rest : List (List Char)}
    {number : Nat}
    {error : ApplicationError}
    (unbarred : ∀ part ∈ status :: type :: code :: message :: rest, '|' ∉ part)
    (numeral : WritesStatus (Text.trim status) number)
    (found : ofParts? number type code (message :: rest) = some error) :
    Tells (Text.joinWith ['|'] (status :: type :: code :: message :: rest)) error := by
  obtain ⟨named, rfl⟩ | ⟨named, before, field, same, some, rfl⟩ := ofParts?_eq_some found
  · have joined := Text.joinWith_append_joinWith_cons ['|'] (List.cons_ne_nil message rest)
      [status, type, code] []
    rw [List.append_nil] at joined
    refine joined ▸ Tells.general (fun part member => unbarred part ?_) numeral named
    simp only [List.mem_cons, List.not_mem_nil, or_false] at member
    simp only [List.mem_cons]
    tauto
  · have joined := Text.joinWith_append_joinWith_cons ['|'] some [status, type, code] [field]
    rw [same] at unbarred ⊢
    refine joined ▸ Tells.field (fun part member => unbarred part ?_) numeral named
    simp only [List.mem_cons, List.not_mem_nil, or_false] at member
    simp only [List.mem_cons, List.mem_append, List.not_mem_nil, or_false]
    tauto

/-- A text that tells an error is cut into parts that come to this error. -/
theorem exists_splitAt_of_tells
    {chars : List Char}
    {error : ApplicationError}
    (told : Tells chars error) :
    ∃ status type code message rest number,
      Text.splitAt '|' chars = status :: type :: code :: message :: rest ∧
        WritesStatus (Text.trim status) number ∧
        ofParts? number type code (message :: rest) = some error := by
  cases told with
  | @general status type code message number unbarred numeral named =>
      obtain ⟨first, rest, pieces⟩ :=
        List.exists_cons_of_ne_nil (Text.splitAt_ne_nil '|' message)
      have whole := Text.joinWith_splitAt '|' message
      refine ⟨status, type, code, first, rest, number, ?_, numeral, ?_⟩
      · have cut := @Text.splitAt_joinWith_append_cons '|' [status, type, code] []
          (by rwa [List.append_nil]) message
        rwa [pieces, List.append_nil] at cut
      · rw [ofParts?_of_general named, joinParts, ← pieces, whole]
  | @field status type code message field number unbarred numeral named =>
      have nonempty := Text.splitAt_ne_nil '|' message
      obtain ⟨first, rest, pieces⟩ := List.exists_cons_of_ne_nil nonempty
      have whole := Text.joinWith_splitAt '|' message
      refine ⟨status, type, code, first, rest ++ [field], number, ?_, numeral, ?_⟩
      · have cut := @Text.splitAt_joinWith_append_cons '|' [status, type, code] [field]
          unbarred message
        rwa [pieces] at cut
      · rw [← List.cons_append, ← pieces, ofParts?_of_field named number code field nonempty,
          joinParts, whole]

/-- A text tells an error exactly if it is read as this error. -/
theorem read_eq_some_iff
    {content : String}
    {error : ApplicationError} :
    read content = .ok (some error) ↔ Tells content.toList error := by
  rw [read_eq_some_iff_exists]
  constructor
  · rintro ⟨status, type, code, message, rest, number, parts, numeral, found⟩
    have whole := Text.joinWith_splitAt '|' content.toList
    rw [parts] at whole
    have unbarred : ∀ part ∈ status :: type :: code :: message :: rest, '|' ∉ part := by
      intro part member
      rw [← parts] at member
      exact Text.notMem_of_mem_splitAt member
    exact whole ▸ tells_of_ofParts?_eq_some unbarred numeral found
  · exact exists_splitAt_of_tells

/-- A text has the parts of a signal, but digits that are no numeral for the status. -/
inductive Breaks (chars : List Char) : Fault → Prop
  | intro {status type code message : List Char} {rest : List (List Char)} {fault : Fault}
      (parts : Text.splitAt '|' chars = status :: type :: code :: message :: rest)
      (digits : isDigits (Text.trim status) = true)
      (noNumeral : NoNumeral (Text.trim status) fault) :
      Breaks chars fault

/-- Exactly a text with digits that are no numeral for the status is not read at all. -/
theorem read_eq_error_iff
    {content : String}
    {fault : Fault} :
    read content = .error fault ↔ Breaks content.toList fault := by
  unfold read
  split
  · next status type code message rest parts =>
      have failed : Breaks content.toList fault ↔ readStatus (Text.trim status) = .error fault := by
        rw [readStatus_eq_error_iff]
        constructor
        · rintro ⟨same, digits, noNumeral⟩
          obtain ⟨rfl, -⟩ := List.cons.inj (parts.symm.trans same)
          exact ⟨digits, noNumeral⟩
        · rintro ⟨digits, noNumeral⟩
          exact .intro parts digits noNumeral
      rw [failed]
      split <;> simp_all
  · next fewer =>
      constructor
      · intro failed
        contradiction
      · rintro ⟨parts, -, -⟩
        exact absurd parts (fewer _ _ _ _ _)

/-! ## Writing -/

/-- An error that a signal can tell. -/
structure IsTellable (error : ApplicationError) : Prop where
  status_bounds : 100 ≤ error.status ∧ error.status ≤ 599
  /-- The code has no blanks around it. -/
  trim_code : Text.trim error.code.toList = error.code.toList
  /-- The code has no bars. -/
  unbarred_code : '|' ∉ error.code.toList
  /-- The message has no blanks around it. -/
  trim_message : Text.trim error.message.toList = error.message.toList
  /-- The field has no blanks around it. -/
  trim_field : ∀ field ∈ error.field, Text.trim field.toList = field.toList
  /-- The field has no bars. -/
  unbarred_field : ∀ field ∈ error.field, '|' ∉ field.toList
  /-- Exactly an error that concerns one field tells it. -/
  isSome_field_iff : error.field.isSome = true ↔ error.type = .field

/-- The parts of the signal of an error. -/
def parts (error : ApplicationError) : List (List Char) :=
  [Nat.toDigits 10 error.status, error.type.name.toList, error.code.toList,
    error.message.toList] ++ (error.field.map String.toList).toList

/-- The signal of an error. -/
def render (error : ApplicationError) : String :=
  String.ofList (Text.joinWith ['|'] error.parts)

/-- A part of a signal with any blanks around it. -/
def IsPadded (part padded : List Char) : Prop :=
  ∃ before after, (∀ char ∈ before, Text.isBlank char = true) ∧
    (∀ char ∈ after, Text.isBlank char = true) ∧ padded = before ++ part ++ after

theorem IsPadded.refl (part : List Char) : IsPadded part part :=
  ⟨[], [], by simp, by simp, by simp⟩

theorem IsPadded.trim_eq
    {part padded : List Char}
    (isPadded : IsPadded part padded)
    (trimmed : Text.trim part = part) :
    Text.trim padded = part := by
  obtain ⟨before, after, blankBefore, blankAfter, rfl⟩ := isPadded
  exact Text.trim_of_blanks trimmed blankBefore blankAfter

/-- Blanks bring no bars along. -/
theorem IsPadded.unbarred
    {part padded : List Char}
    (isPadded : IsPadded part padded)
    (absent : '|' ∉ part) :
    '|' ∉ padded := by
  obtain ⟨before, after, blankBefore, blankAfter, rfl⟩ := isPadded
  simp only [List.mem_append, not_or]
  refine ⟨⟨fun member => ?_, absent⟩, fun member => ?_⟩
  · exact absurd (blankBefore '|' member) (by decide)
  · exact absurd (blankAfter '|' member) (by decide)

/-- The numeral of a status writes it. -/
theorem writesStatus_toDigits
    {status : Nat}
    (bounds : 100 ≤ status ∧ status ≤ 599) :
    WritesStatus (Nat.toDigits 10 status) status := by
  obtain ⟨values, found, number⟩ := Number.exists_digitValues?_toDigits status
  have short := Nat.toDigits_length 10 status 3 (by decide) (by omega)
  exact ⟨Nat.toDigits_ne_nil, short.trans (by decide), bounds, values, found, number⟩

/-- A numeral has no blanks around it. -/
theorem trim_toDigits (number : Nat) :
    Text.trim (Nat.toDigits 10 number) = Nat.toDigits 10 number := by
  have unbroken : ∀ char ∈ Nat.toDigits 10 number, Text.isBlank char = false := fun char member =>
    Text.isBlank_eq_false_of_isDecimal (Number.isDecimal_of_mem_toDigits member)
  exact Text.trim_eq_self_iff.mpr
    ⟨Text.trimStart_of_forall unbroken, Text.trimEnd_of_forall unbroken⟩

/-- A numeral has no bars. -/
theorem unbarred_toDigits (number : Nat) : '|' ∉ Nat.toDigits 10 number :=
  fun member => absurd (Number.isDecimal_of_mem_toDigits member) (by decide)

/-- The parts of an error, with any blanks around them, tell the error. -/
theorem tells_of_isPadded
    {error : ApplicationError}
    (tellable : error.IsTellable)
    {pieces : List (List Char)}
    (padded : List.Forall₂ IsPadded error.parts pieces) :
    Tells (Text.joinWith ['|'] pieces) error := by
  obtain ⟨number, type, code, message, field⟩ := error
  have typed : ∀ type : ErrorType, Text.trim type.name.toList = type.name.toList ∧
      '|' ∉ type.name.toList := by
    intro type
    cases type <;> decide
  simp only [parts, List.cons_append, List.nil_append, List.forall₂_cons_left_iff] at padded
  obtain ⟨first, _, statusPadded, ⟨second, _, typePadded, ⟨third, _, codePadded,
    ⟨fourth, rest, messagePadded, others, rfl⟩, rfl⟩, rfl⟩, rfl⟩ := padded
  have unbarred : '|' ∉ first ∧ '|' ∉ second ∧ '|' ∉ third :=
    ⟨statusPadded.unbarred (unbarred_toDigits number), typePadded.unbarred (typed type).2,
      codePadded.unbarred tellable.unbarred_code⟩
  have numeral : WritesStatus (Text.trim first) number := by
    rw [statusPadded.trim_eq (trim_toDigits number)]
    exact writesStatus_toDigits tellable.status_bounds
  have named := typePadded.trim_eq (typed type).1
  have codeTrimmed := codePadded.trim_eq tellable.trim_code
  have messageTrimmed := messagePadded.trim_eq tellable.trim_message
  cases field with
  | none =>
      have general : type = .general := by
        have untold := tellable.isSome_field_iff
        cases type <;> simp_all
      subst general
      obtain rfl := List.forall₂_nil_left_iff.mp others
      have told := @Tells.general first second third fourth _
        (by simpa using unbarred) numeral named
      rwa [codeTrimmed, messageTrimmed, String.ofList_toList, String.ofList_toList] at told
  | some field =>
      have concerns : type = .field := tellable.isSome_field_iff.mp rfl
      subst concerns
      obtain ⟨fifth, _, fieldPadded, none, rfl⟩ := List.forall₂_cons_left_iff.mp others
      obtain rfl := List.forall₂_nil_left_iff.mp none
      have fieldUnbarred := fieldPadded.unbarred (tellable.unbarred_field field rfl)
      have fieldTrimmed := fieldPadded.trim_eq (tellable.trim_field field rfl)
      have told := @Tells.field first second third fourth fifth _
        (by simpa [and_assoc] using And.intro unbarred fieldUnbarred) numeral named
      rwa [codeTrimmed, messageTrimmed, fieldTrimmed, String.ofList_toList, String.ofList_toList,
        String.ofList_toList] at told

/-- What a text tells can be told. -/
theorem isTellable_of_tells
    {chars : List Char}
    {error : ApplicationError}
    (told : Tells chars error) :
    error.IsTellable := by
  have unbarredTrim : ∀ {part : List Char}, '|' ∉ part → '|' ∉ Text.trim part :=
    fun absent member => absent (Text.mem_of_mem_trim member)
  cases told with
  | @general status type code message number unbarred numeral named =>
      have codeUnbarred : '|' ∉ code := unbarred code (by simp)
      constructor <;> simp [numeral.2.2.1, unbarredTrim codeUnbarred]
  | @field status type code message field number unbarred numeral named =>
      have codeUnbarred : '|' ∉ code := unbarred code (by simp)
      have fieldUnbarred : '|' ∉ field := unbarred field (by simp)
      constructor <;> simp [numeral.2.2.1, unbarredTrim codeUnbarred, unbarredTrim fieldUnbarred]

/-- Padding is optional. -/
theorem isPadded_parts (error : ApplicationError) :
    List.Forall₂ IsPadded error.parts error.parts :=
  List.forall₂_same.mpr fun part _ => .refl part

/--
Reading undoes writing: the parts of an error, with any blanks around each of them, are read as
this error, and every error that is read is read again from its signal, with a status of a
response and a field exactly if it concerns one.
-/
theorem read_inverts_render :
    (∀ {error : ApplicationError}, error.IsTellable →
      ∀ {pieces : List (List Char)}, List.Forall₂ IsPadded error.parts pieces →
        read (String.ofList (Text.joinWith ['|'] pieces)) = .ok (some error)) ∧
    ∀ {content : String} {error : ApplicationError}, read content = .ok (some error) →
      read error.render = .ok (some error) ∧ (100 ≤ error.status ∧ error.status ≤ 599) ∧
        (error.field.isSome = true ↔ error.type = .field) := by
  have restored : ∀ {error : ApplicationError}, error.IsTellable →
      ∀ {pieces : List (List Char)}, List.Forall₂ IsPadded error.parts pieces →
        read (String.ofList (Text.joinWith ['|'] pieces)) = .ok (some error) := by
    intro error tellable pieces padded
    rw [read_eq_some_iff, String.toList_ofList]
    exact tells_of_isPadded tellable padded
  refine ⟨restored, fun {content error} done => ?_⟩
  have tellable := isTellable_of_tells (read_eq_some_iff.mp done)
  exact ⟨restored tellable error.isPadded_parts, tellable.status_bounds,
    tellable.isSome_field_iff⟩

/-- An error about a field, with a bar in its message. -/
def takenError : ApplicationError where
  status := 409
  type := .field
  code := "TAKEN"
  message := "mail|name"
  field := some "user.mail"

/-- The parts of an error about a field, with blanks around some of them. -/
def takenPieces : List (List Char) :=
  [" 409".toList, "field\t".toList, "TAKEN".toList, "\n mail|name ".toList, "user.mail".toList]

/-- The error is read from its parts with blanks, and again from its signal. -/
theorem read_inverts_render_taken :
    takenError.IsTellable ∧ List.Forall₂ IsPadded takenError.parts takenPieces ∧
      read (String.ofList (Text.joinWith ['|'] takenPieces)) = .ok (some takenError) ∧
      read takenError.render = .ok (some takenError) := by
  have tellable : takenError.IsTellable := by
    constructor <;> simp only [takenError, Option.mem_some_iff, forall_eq'] <;> decide
  have padded : List.Forall₂ IsPadded takenError.parts takenPieces :=
    .cons ⟨[' '], [], List.all_eq_true.mp rfl, List.all_eq_true.mp rfl, rfl⟩ <|
      .cons ⟨[], ['\t'], List.all_eq_true.mp rfl, List.all_eq_true.mp rfl, rfl⟩ <|
        .cons (.refl _) <|
          .cons ⟨['\n', ' '], [' '], List.all_eq_true.mp rfl, List.all_eq_true.mp rfl, rfl⟩ <|
            .cons (.refl _) .nil
  have restored := read_inverts_render.1 tellable padded
  exact ⟨tellable, padded, restored, (read_inverts_render.2 restored).1⟩

end ApplicationError
end Call
end RoutineGate
