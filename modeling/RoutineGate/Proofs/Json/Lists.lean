import RoutineGate.Proofs.Json.Grammar
import RoutineGate.Proofs.Traversal

/-!
# Reading lists and records

Items and entries are read one after the other by readers that follow the grammar, and so what
is read of all of them follows the grammar too.
-/

namespace RoutineGate
namespace Json

variable {Item : Type}

/-! ## Reading by the grammar -/

/--
A reader follows a grammar on texts up to some length: what it reads is an item, every item is
read, and it fails with a fault exactly if it gets to an integer of too many digits.
-/
structure Follows
    (read : List Char → Except ReadError (Item × List Char))
    (limit : Nat)
    (IsItem : List Char → Item → Prop)
    (IsLong : Nat → List Char → Prop) : Prop where
  starts : ∀ {chars item}, IsItem chars item → IsStart chars
  long_starts : ∀ {count chars}, IsLong count chars → IsStart chars
  sound : ∀ {chars item rest}, read chars = .ok (item, rest) →
    ∃ front, IsItem front item ∧ chars = front ++ rest
  complete : ∀ {front item rest}, IsItem front item → EndsNumber rest → front.length ≤ limit →
    read (front ++ rest) = .ok (item, rest)
  fault_iff : ∀ {chars fault}, chars.length ≤ limit →
    (read chars = .error (.fault fault) ↔
      ∃ count, fault = .integer (.tooManyDigits count) ∧ IsLong count chars)

/-! ## Lists -/

/-- Reads items with commas between them, up to an end. -/
def listing (item : Nat → List Char → Except ReadError (Item × List Char)) (closing : Char) :
    Nat → List Char → Except ReadError (List Item × List Char)
  | 0, _ => .error .malformed
  | steps + 1, chars => do
      let (first, rest) ← item steps chars
      match skipSpace rest with
      | [] => throw .malformed
      | char :: rest =>
          if char = ',' then
            let (items, rest) ← listing item closing steps (skipSpace rest)
            return (first :: items, rest)
          else if char = closing then return ([first], rest)
          else throw .malformed

/-- Reads what stands in brackets, with items or without any. -/
def enclosed (read : List Char → Except ReadError (List Item × List Char)) (closing : Char)
    (wrap : List Item → Value) (chars : List Char) : Except ReadError (Value × List Char) :=
  match skipSpace chars with
  | [] => (read []).map fun (items, rest) => (wrap items, rest)
  | char :: rest =>
      if char = closing then .ok (wrap [], rest)
      else (read (char :: rest)).map fun (items, rest) => (wrap items, rest)

theorem readItems_eq_listing (steps : Nat) (chars : List Char) :
    readItems steps chars = listing readValue ']' steps chars := by
  induction steps generalizing chars with
  | zero => rfl
  | succ steps inductionHypothesis =>
      rw [readItems, listing]
      cases readValue steps chars with
      | error error => rfl
      | ok found =>
          obtain ⟨first, rest⟩ := found
          simp only [bind, Except.bind]
          cases skipSpace rest with
          | nil => rfl
          | cons char after => split <;> simp_all

/-- Reads a key and a colon. -/
def key? : List Char → Option (String × List Char)
  | '"' :: rest =>
      match readText? (rest.length + 1) rest with
      | none => none
      | some (key, rest) =>
          match skipSpace rest with
          | ':' :: rest => some (String.ofList key, skipSpace rest)
          | _ => none
  | _ => none

/-- Reads a key and a value. -/
def entry (steps : Nat) (chars : List Char) :
    Except ReadError ((String × Value) × List Char) :=
  match key? chars with
  | none => .error .malformed
  | some (key, rest) =>
      (readValue steps rest).map fun (value, rest) => ((key, value), rest)

theorem readEntries_of_key?
    {chars rest : List Char}
    {key : String}
    (found : key? chars = some (key, rest))
    (steps : Nat) :
    readEntries (steps + 1) chars = (do
      let (value, rest) ← readValue steps rest
      match skipSpace rest with
      | ',' :: rest =>
          let (entries, rest) ← readEntries steps (skipSpace rest)
          return ((key, value) :: entries, rest)
      | '\x7d' :: rest => return ([(key, value)], rest)
      | _ => throw .malformed) := by
  unfold key? at found
  split at found
  · split at found
    · exact absurd found (by simp)
    · next read =>
      split at found
      · next colon =>
        obtain ⟨rfl, rfl⟩ := Prod.mk.inj (Option.some.inj found)
        rw [readEntries, read]
        dsimp only
        rw [colon]
        rfl
      · exact absurd found (by simp)
  · exact absurd found (by simp)

theorem readEntries_of_key?_eq_none
    {chars : List Char}
    (none : key? chars = none)
    (steps : Nat) :
    readEntries (steps + 1) chars = .error .malformed := by
  unfold key? at none
  split at none
  · split at none
    · next read => rw [readEntries, read]
    · next read =>
      split at none
      · exact absurd none (by simp)
      · next noColon =>
        rw [readEntries, read]
        dsimp only
        split
        · next colon => exact absurd colon (noColon _)
        · rfl
  · next noQuote =>
    rw [readEntries]
    exact noQuote

theorem readEntries_eq_listing (steps : Nat) (chars : List Char) :
    readEntries steps chars = listing entry '\x7d' steps chars := by
  induction steps generalizing chars with
  | zero => rfl
  | succ steps inductionHypothesis =>
      rw [listing, entry]
      cases isKey : key? chars with
      | none => rw [readEntries_of_key?_eq_none isKey]; rfl
      | some found =>
          obtain ⟨key, rest⟩ := found
          rw [readEntries_of_key? isKey]
          dsimp only
          cases readValue steps rest with
          | error error => rfl
          | ok found =>
              obtain ⟨value, rest⟩ := found
              simp only [bind, Except.bind, Except.map]
              cases skipSpace rest with
              | nil => rfl
              | cons char after => split <;> simp_all

theorem enclosed_gap_closing
    {closing : Char}
    (isClosing : closing = ']' ∨ closing = '\x7d')
    {read : List Char → Except ReadError (List Item × List Char)}
    {wrap : List Item → Value}
    {gap : List Char}
    (isGap : IsGap gap)
    (rest : List Char) :
    enclosed read closing wrap (gap ++ closing :: rest) = .ok (wrap [], rest) := by
  have closingNoSpace : isSpace closing = false := by
    obtain rfl | rfl := isClosing <;> decide
  rw [enclosed, skipSpace_gap_cons isGap closingNoSpace]
  exact if_pos rfl

theorem enclosed_gap_append
    {closing : Char}
    (isClosing : closing = ']' ∨ closing = '\x7d')
    {read : List Char → Except ReadError (List Item × List Char)}
    {wrap : List Item → Value}
    {gap chars : List Char}
    (isGap : IsGap gap)
    (isStart : IsStart chars) :
    enclosed read closing wrap (gap ++ chars) =
      (read chars).map fun (items, rest) => (wrap items, rest) := by
  rw [enclosed, skipSpace_gap_append isGap isStart]
  obtain ⟨first, others, rfl, -, noBracket, noBrace⟩ := isStart
  refine if_neg ?_
  rintro rfl
  obtain rfl | rfl := isClosing
  · exact noBracket rfl
  · exact noBrace rfl

section Listing

variable {item : Nat → List Char → Except ReadError (Item × List Char)}
variable {IsItem : List Char → Item → Prop} {IsLong : Nat → List Char → Prop} {steps limit : Nat}
variable {closing : Char}

theorem IsListing.isStart
    (starts : ∀ {chars item}, IsItem chars item → IsStart chars)
    {chars : List Char}
    {items : List Item}
    (isListing : IsListing IsItem chars items) :
    IsStart chars := by
  cases isListing with
  | last isItem => exact (starts isItem).append _
  | more isItem => exact (starts isItem).append _

theorem Reaches.isStart
    {Next : List Char → Prop}
    (starts : ∀ {chars item}, IsItem chars item → IsStart chars)
    (next_starts : ∀ {chars}, Next chars → IsStart chars)
    {chars : List Char}
    (reaches : Reaches IsItem Next chars) :
    IsStart chars := by
  cases reaches with
  | here next => exact next_starts next
  | later isItem => exact (starts isItem).append _

variable (isClosing : closing = ']' ∨ closing = '\x7d')
variable (follows : ∀ fewer < steps, ∀ limit, 2 * limit ≤ fewer →
  Follows (item fewer) limit IsItem IsLong)

include follows

theorem exists_isListing_of_listing
    {chars rest : List Char}
    {items : List Item}
    (found : listing item closing steps chars = .ok (items, rest)) :
    ∃ front, IsListing IsItem front items ∧ chars = front ++ closing :: rest := by
  induction steps generalizing chars items rest with
  | zero => exact absurd found (by simp [listing])
  | succ steps inductionHypothesis =>
      obtain ⟨⟨first, after⟩, readFirst, continued⟩ := bind_eq_ok_iff.mp found
      clear found
      obtain ⟨front, isItem, rfl⟩ :=
        (follows steps (Nat.lt_succ_self _) 0 (Nat.zero_le _)).sound readFirst
      dsimp only at continued
      split at continued
      · exact absurd continued throw_ne_ok
      · next char left skipped =>
        obtain ⟨before, isBefore, rfl⟩ := exists_gap_of_skipSpace skipped
        split_ifs at continued with comma closes
        · obtain ⟨⟨others, rest'⟩, readOthers, same⟩ := bind_eq_ok_iff.mp continued
          obtain ⟨rfl, rfl⟩ := Prod.mk.inj (Except.ok.inj same)
          obtain ⟨back, isListing, isBack⟩ :=
            inductionHypothesis (fun fewer less => follows fewer (by omega)) readOthers
          obtain ⟨between, isAfter, rfl⟩ := exists_gap_of_skipSpace isBack
          exact ⟨_, .more isItem isBefore isAfter isListing, by simp [comma]⟩
        · obtain ⟨rfl, rfl⟩ := Prod.mk.inj (Except.ok.inj continued)
          exact ⟨_, .last isItem isBefore, by simp [closes]⟩

theorem exists_reaches_of_listing
    {chars : List Char}
    (enough : 2 * limit + 1 ≤ steps)
    (within : chars.length ≤ limit)
    {fault : Fault}
    (found : listing item closing steps chars = .error (.fault fault)) :
    ∃ count, fault = .integer (.tooManyDigits count) ∧ Reaches IsItem (IsLong count) chars := by
  induction steps generalizing chars limit with
  | zero => exact absurd found (by simp [listing])
  | succ steps inductionHypothesis =>
      have follow := follows steps (Nat.lt_succ_self _) limit (by omega)
      obtain first | ⟨⟨first, after⟩, readFirst, continued⟩ := bind_eq_error_iff.mp found
      · obtain ⟨count, rfl, isLong⟩ := (follow.fault_iff within).mp first
        exact ⟨count, rfl, .here isLong⟩
      · obtain ⟨front, isItem, rfl⟩ := follow.sound readFirst
        have some := (follow.starts isItem).length_pos
        clear found
        dsimp only at continued
        split at continued
        · exact absurd continued (by simp [throw, throwThe, MonadExceptOf.throw])
        · next char left skipped =>
          obtain ⟨before, isBefore, rfl⟩ := exists_gap_of_skipSpace skipped
          split_ifs at continued with comma closes
          · obtain ⟨between, isAfter, isLeft⟩ := exists_gap left
            have lengths := congrArg List.length isLeft
            simp only [List.length_append, List.length_cons] at within lengths
            obtain others | ⟨_, -, same⟩ := bind_eq_error_iff.mp continued
            · obtain ⟨count, rfl, reaches⟩ := @inductionHypothesis (skipSpace left).length
                (fun fewer less => follows fewer (by omega)) _ (by omega) (Nat.le_refl _) others
              refine ⟨count, rfl, ?_⟩
              rw [isLeft, comma]
              exact .later isItem isBefore isAfter reaches
            · exact absurd same (by simp [pure, Except.pure])
          · exact absurd continued (by simp [pure, Except.pure])
          · exact absurd continued (by simp [throw, throwThe, MonadExceptOf.throw])

theorem listing_of_reaches
    {chars : List Char}
    (enough : 2 * limit + 1 ≤ steps)
    (within : chars.length ≤ limit)
    {count : Nat}
    (reaches : Reaches IsItem (IsLong count) chars) :
    listing item closing steps chars = .error (.fault (.integer (.tooManyDigits count))) := by
  induction reaches generalizing steps limit with
  | here isLong =>
      obtain ⟨steps, rfl⟩ := Nat.exists_eq_succ_of_ne_zero (by omega : steps ≠ 0)
      have follow := follows steps (Nat.lt_succ_self _) limit (by omega)
      rw [listing, (follow.fault_iff within).mpr ⟨count, rfl, isLong⟩]
      rfl
  | @later chars before after others first isItem isBefore isAfter reaches inductionHypothesis =>
      obtain ⟨steps, rfl⟩ := Nat.exists_eq_succ_of_ne_zero (by omega : steps ≠ 0)
      simp only [List.length_append, List.length_cons] at within
      have follow := follows steps (Nat.lt_succ_self _) limit (by omega)
      have read := follow.complete isItem
        (endsNumber_gap_cons isBefore (.inl rfl) (after ++ others)) (by omega)
      have readOthers := @inductionHypothesis steps others.length
        (fun fewer less => follows fewer (by omega)) (by omega) (Nat.le_refl _)
      have starts := reaches.isStart follow.starts follow.long_starts
      rw [listing, read]
      simp only [bind, Except.bind]
      rw [skipSpace_gap_cons isBefore (by decide)]
      dsimp only
      rw [if_pos rfl, skipSpace_gap_append isAfter starts, readOthers]

/-- Reading the items fails with a fault exactly if it reaches a long integer. -/
theorem listing_eq_fault_iff
    {chars : List Char}
    (enough : 2 * limit + 1 ≤ steps)
    (within : chars.length ≤ limit)
    {fault : Fault} :
    listing item closing steps chars = .error (.fault fault) ↔
      ∃ count, fault = .integer (.tooManyDigits count) ∧
        Reaches IsItem (IsLong count) chars := by
  constructor
  · exact exists_reaches_of_listing follows enough within
  · rintro ⟨count, rfl, reaches⟩
    exact listing_of_reaches follows enough within reaches

/-- What is read in brackets are no items or the items of a list. -/
theorem exists_of_enclosed
    {wrap : List Item → Value}
    {chars rest : List Char}
    {value : Value}
    (found : enclosed (listing item closing steps) closing wrap chars = .ok (value, rest)) :
    (∃ gap, IsGap gap ∧ chars = gap ++ closing :: rest ∧ value = wrap []) ∨
      ∃ gap front items, IsGap gap ∧ IsListing IsItem front items ∧
        chars = gap ++ (front ++ closing :: rest) ∧ value = wrap items := by
  obtain ⟨gap, isGap, same⟩ := exists_gap chars
  have isListing {left : List Char} (skipped : skipSpace chars = left)
      (read : (listing item closing steps left).map
        (fun (items, rest) => (wrap items, rest)) = .ok (value, rest)) :
      ∃ gap front items, IsGap gap ∧ IsListing IsItem front items ∧
        chars = gap ++ (front ++ closing :: rest) ∧ value = wrap items := by
    obtain ⟨⟨items, rest'⟩, readItems, both⟩ := map_eq_ok_iff.mp read
    obtain ⟨rfl, rfl⟩ := Prod.mk.inj both
    obtain ⟨front, isListing, rfl⟩ := exists_isListing_of_listing follows readItems
    exact ⟨gap, front, items, isGap, isListing, by rw [← skipped]; exact same, rfl⟩
  unfold enclosed at found
  split at found
  · next skipped => exact .inr (isListing skipped found)
  · next first left skipped =>
    split_ifs at found with closes
    · obtain ⟨rfl, rfl⟩ := Prod.mk.inj (Except.ok.inj found)
      exact .inl ⟨gap, isGap, by rw [same, skipped, closes], rfl⟩
    · exact .inr (isListing skipped found)

include isClosing

theorem listing_of_isListing
    {front : List Char}
    {items : List Item}
    (isListing : IsListing IsItem front items)
    (enough : 2 * limit + 1 ≤ steps)
    (within : front.length ≤ limit)
    (rest : List Char) :
    listing item closing steps (front ++ closing :: rest) = .ok (items, rest) := by
  have closingNoSpace : isSpace closing = false := by
    obtain rfl | rfl := isClosing <;> decide
  have closingNoComma : closing ≠ ',' := by
    obtain rfl | rfl := isClosing <;> decide
  induction isListing generalizing steps limit with
  | @last chars gap first isItem isGap =>
      obtain ⟨steps, rfl⟩ := Nat.exists_eq_succ_of_ne_zero (by omega : steps ≠ 0)
      rw [List.length_append] at within
      have read := (follows steps (Nat.lt_succ_self _) limit (by omega)).complete isItem
        (endsNumber_gap_cons isGap (.inr isClosing) rest) (by omega)
      rw [List.append_assoc, listing, read]
      simp only [bind, Except.bind]
      rw [skipSpace_gap_cons isGap closingNoSpace]
      dsimp only
      rw [if_neg closingNoComma, if_pos rfl]
      rfl
  | @more chars before after others first items isItem isBefore isAfter isListing
      inductionHypothesis =>
      obtain ⟨steps, rfl⟩ := Nat.exists_eq_succ_of_ne_zero (by omega : steps ≠ 0)
      simp only [List.length_append, List.length_cons] at within
      have follow := follows steps (Nat.lt_succ_self _) limit (by omega)
      have read := follow.complete isItem
        (endsNumber_gap_cons isBefore (.inl rfl) (after ++ (others ++ closing :: rest))) (by omega)
      have readOthers := @inductionHypothesis steps others.length
        (fun fewer less => follows fewer (by omega)) (by omega) (Nat.le_refl _)
      have starts := (isListing.isStart follow.starts).append (closing :: rest)
      rw [List.append_assoc, List.append_assoc, List.cons_append, List.append_assoc, listing, read]
      simp only [bind, Except.bind]
      rw [skipSpace_gap_cons isBefore (by decide)]
      dsimp only
      rw [if_pos rfl, skipSpace_gap_append isAfter starts, readOthers]
      rfl

/-- Reading in brackets gets to an integer of too many digits exactly if reading the items does. -/
theorem enclosed_eq_fault_iff
    {wrap : List Item → Value}
    {chars : List Char}
    (starts : ∀ {chars item}, IsItem chars item → IsStart chars)
    (long_starts : ∀ {count chars}, IsLong count chars → IsStart chars)
    (enough : 2 * limit + 1 ≤ steps)
    (within : chars.length ≤ limit)
    {fault : Fault} :
    enclosed (listing item closing steps) closing wrap chars = .error (.fault fault) ↔
      ∃ count gap rest, fault = .integer (.tooManyDigits count) ∧ IsGap gap ∧
        chars = gap ++ rest ∧ Reaches IsItem (IsLong count) rest := by
  constructor
  · intro failed
    obtain ⟨gap, isGap, same⟩ := exists_gap chars
    have lengths := congrArg List.length same
    rw [List.length_append] at lengths
    have reaches {left : List Char} (skipped : skipSpace chars = left)
        (read : (listing item closing steps left).map
          (fun (items, rest) => (wrap items, rest)) = .error (.fault fault)) :
        ∃ count gap rest, fault = .integer (.tooManyDigits count) ∧ IsGap gap ∧
          chars = gap ++ rest ∧ Reaches IsItem (IsLong count) rest := by
      subst skipped
      obtain ⟨count, isFault, reaches⟩ :=
        (listing_eq_fault_iff follows enough (by omega)).mp (map_eq_error_iff.mp read)
      exact ⟨count, gap, _, isFault, isGap, same, reaches⟩
    unfold enclosed at failed
    split at failed
    · next skipped => exact reaches skipped failed
    · next first left skipped =>
      split_ifs at failed with closes
      exact reaches skipped failed
  · rintro ⟨count, gap, rest, rfl, isGap, rfl, reaches⟩
    rw [List.length_append] at within
    rw [enclosed_gap_append isClosing isGap (reaches.isStart starts long_starts)]
    exact map_eq_error_iff.mpr
      ((listing_eq_fault_iff follows enough (by omega)).mpr ⟨count, rfl, reaches⟩)

end Listing

/-! ## Entries -/

theorem exists_of_key?
    {chars rest : List Char}
    {key : String}
    (found : key? chars = some (key, rest)) :
    ∃ content body before after, IsContent content body ∧ IsGap before ∧ IsGap after ∧
      chars = '"' :: (body ++ '"' :: (before ++ ':' :: (after ++ rest))) ∧
        key = String.ofList content := by
  unfold key? at found
  split at found
  · split at found
    · exact absurd found (by simp)
    · next content left read =>
      split at found
      · next colon =>
        obtain ⟨rfl, rfl⟩ := Prod.mk.inj (Option.some.inj found)
        obtain ⟨body, isContent, rfl⟩ := (readText?_eq_some_iff (Nat.lt_succ_self _)).mp read
        obtain ⟨before, isBefore, rfl⟩ := exists_gap_of_skipSpace colon
        obtain ⟨after, isAfter, same⟩ := exists_gap_of_skipSpace rfl
        exact ⟨content, body, before, after, isContent, isBefore, isAfter, by rw [← same], rfl⟩
      · exact absurd found (by simp)
  · exact absurd found (by simp)

theorem key?_eq_some
    {content body before after rest : List Char}
    (isContent : IsContent content body)
    (isBefore : IsGap before)
    (isAfter : IsGap after)
    (isStart : IsStart rest) :
    key? ('"' :: (body ++ '"' :: (before ++ ':' :: (after ++ rest)))) =
      some (String.ofList content, rest) := by
  have read := (readText?_eq_some_iff (Nat.lt_succ_self _)).mpr
    ⟨body, isContent, (rfl : body ++ '"' :: (before ++ ':' :: (after ++ rest)) = _)⟩
  rw [key?, read]
  dsimp only
  rw [skipSpace_gap_cons isBefore (by decide)]
  change some (String.ofList content, skipSpace (after ++ rest)) = _
  rw [skipSpace_gap_append isAfter isStart]

theorem IsEntry.isStart
    {IsItem : List Char → Value → Prop}
    {chars : List Char}
    {entry : String × Value}
    (isEntry : IsEntry IsItem chars entry) :
    IsStart chars := by
  cases isEntry
  exact ⟨'"', _, rfl, by decide, by decide, by decide⟩

theorem IsEntryOf.isStart
    {Next : List Char → Prop}
    {chars : List Char}
    (isEntry : IsEntryOf Next chars) :
    IsStart chars := by
  cases isEntry
  exact ⟨'"', _, rfl, by decide, by decide, by decide⟩

/-- An entry follows the grammar if its value does. -/
theorem follows_entry
    {steps limit : Nat}
    (follows : Follows (readValue steps) limit Spells ReachesLong) :
    Follows (entry steps) limit (IsEntry Spells) (fun count => IsEntryOf (ReachesLong count)) where
  starts := IsEntry.isStart
  long_starts := IsEntryOf.isStart
  sound := by
    intro chars found rest read
    unfold entry at read
    split at read
    · exact absurd read (by simp)
    · next key left isKey =>
      obtain ⟨⟨value, rest'⟩, readValue, same⟩ := map_eq_ok_iff.mp read
      obtain ⟨rfl, rfl⟩ := Prod.mk.inj same
      obtain ⟨content, body, before, after, isContent, isBefore, isAfter, rfl, rfl⟩ :=
        exists_of_key? isKey
      obtain ⟨front, spells, rfl⟩ := follows.sound readValue
      exact ⟨_, .intro isContent isBefore isAfter spells, by simp⟩
  complete := by
    rintro _ _ rest ⟨isContent, isBefore, isAfter, spells⟩ ends within
    simp only [List.length_append, List.length_cons] at within
    have isStart := (follows.starts spells).append rest
    have isKey := key?_eq_some isContent isBefore isAfter isStart
    have read := follows.complete spells ends (by omega)
    simp only [List.cons_append, List.append_assoc]
    rw [entry, isKey]
    dsimp only
    rw [read]
    rfl
  fault_iff := by
    intro chars fault within
    constructor
    · intro failed
      unfold entry at failed
      split at failed
      · exact absurd failed (by simp)
      · next key left isKey =>
        obtain ⟨content, body, before, after, isContent, isBefore, isAfter, rfl, rfl⟩ :=
          exists_of_key? isKey
        simp only [List.length_append, List.length_cons] at within
        obtain ⟨count, rfl, reaches⟩ :=
          (follows.fault_iff (by omega)).mp (map_eq_error_iff.mp failed)
        exact ⟨count, rfl, .intro isContent isBefore isAfter reaches⟩
    · rintro ⟨count, rfl, ⟨isContent, isBefore, isAfter, reaches⟩⟩
      simp only [List.length_append, List.length_cons] at within
      have isKey := key?_eq_some isContent isBefore isAfter (follows.long_starts reaches)
      rw [entry, isKey]
      exact map_eq_error_iff.mpr ((follows.fault_iff (by omega)).mpr ⟨count, rfl, reaches⟩)

end Json
end RoutineGate
