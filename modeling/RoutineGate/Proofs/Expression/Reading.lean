import RoutineGate.Proofs.Expression.Grammar

/-!
# Reading follows the grammar

Tokens are read as an expression exactly if they write it, with at most `maxNesting`
expressions nested in one another.  Otherwise the error is at one of the tokens, of which the
last is the end, and nothing after the end is looked at.
-/

namespace RoutineGate
namespace Expression

variable {Item : Type}

/-- Tokens of which the last one is an end. -/
def IsEnded (tokens : List Token) : Prop :=
  ∃ front position, tokens = front ++ [⟨.finish, position⟩]

/-- An error at one of some tokens. -/
def IsAt (tokens : List Token) (error : Error) : Prop :=
  ∃ cause, ∃ token ∈ tokens, error = .located cause token.position

theorem IsAt.of_suffix
    {tokens rest : List Token}
    (suffix : rest <:+ tokens)
    {error : Error}
    (found : IsAt rest error) :
    IsAt tokens error := by
  obtain ⟨cause, token, member, rfl⟩ := found
  exact ⟨cause, token, suffix.mem member, rfl⟩

namespace Parse

/-! ## The next token -/

@[simp] theorem peek_cons (token : Token) (rest : List Token) : peek (token :: rest) = token := rfl

theorem advance_cons_of_ne
    {token : Token}
    (unfinished : token.symbol ≠ .finish)
    (rest : List Token) :
    advance (token :: rest) = rest := by
  simp [advance, unfinished]

/-- A next token other than the end is the first of the tokens, and it is taken. -/
theorem eq_cons_advance
    {tokens : List Token}
    (unfinished : (peek tokens).symbol ≠ .finish) :
    tokens = peek tokens :: advance tokens := by
  cases tokens with
  | nil => exact absurd rfl unfinished
  | cons token rest =>
      rw [peek_cons] at unfinished
      rw [peek_cons, advance_cons_of_ne unfinished]

/-- Tokens that start with a symbol other than the end. -/
theorem eq_cons_of_peek
    {tokens : List Token}
    {symbol : Symbol}
    (next : (peek tokens).symbol = symbol)
    (unfinished : symbol ≠ .finish) :
    tokens = ⟨symbol, (peek tokens).position⟩ :: advance tokens := by
  have taken : tokens = peek tokens :: advance tokens := eq_cons_advance (by rwa [next])
  rw [← next]
  exact taken

theorem advance_suffix (tokens : List Token) : advance tokens <:+ tokens := by
  cases tokens with
  | nil => exact List.suffix_rfl
  | cons token rest =>
      simp only [advance]
      split
      · exact List.suffix_rfl
      · exact List.suffix_cons token rest

section Ended

variable {tokens : List Token}

theorem peek_mem (ended : IsEnded tokens) : peek tokens ∈ tokens := by
  obtain ⟨front, position, rfl⟩ := ended
  cases front <;> simp

theorem peek_append (ended : IsEnded tokens) (after : List Token) :
    peek (tokens ++ after) = peek tokens := by
  obtain ⟨front, position, rfl⟩ := ended
  cases front <;> rfl

/-- Taking a token leaves an end. -/
theorem isEnded_advance (ended : IsEnded tokens) : IsEnded (advance tokens) := by
  obtain ⟨front, position, rfl⟩ := ended
  cases front with
  | nil => exact ⟨[], position, rfl⟩
  | cons token front =>
      simp only [List.cons_append, advance]
      split
      · exact ⟨token :: front, position, rfl⟩
      · exact ⟨front, position, rfl⟩

theorem advance_append (ended : IsEnded tokens) (after : List Token) :
    advance (tokens ++ after) = advance tokens ++ after := by
  obtain ⟨front, position, rfl⟩ := ended
  cases front with
  | nil => rfl
  | cons token front =>
      simp only [List.cons_append, advance]
      split <;> simp

/-- What is left after tokens without an end still has one. -/
theorem isEnded_of_append
    {front rest : List Token}
    (ended : IsEnded (front ++ rest))
    (unended : Unended front) :
    IsEnded rest := by
  obtain ⟨before, position, same⟩ := ended
  obtain rfl | ⟨kept, last, rfl⟩ := List.eq_nil_or_concat rest
  · have inside : ⟨.finish, position⟩ ∈ front := by
      rw [← List.append_nil front, same]
      simp
    exact absurd rfl (unended _ inside)
  · rw [List.concat_eq_append, ← List.append_assoc] at same
    obtain ⟨-, ends⟩ := List.append_inj' same rfl
    exact ⟨kept, position, by rw [List.concat_eq_append, ends]⟩

theorem isEnded_of_cons
    {token : Token}
    {rest : List Token}
    (ended : IsEnded (token :: rest))
    (unfinished : token.symbol ≠ .finish) :
    IsEnded rest :=
  isEnded_of_append (List.singleton_append ▸ ended) (by simpa using unfinished)

end Ended

/-! ## Marks -/

section Marks

variable {mark : Char} {tokens rest : List Token}

theorem accept?_eq_some_iff :
    accept? mark tokens = some rest ↔ ∃ position, tokens = ⟨.mark mark, position⟩ :: rest := by
  unfold accept?
  constructor
  · intro accepted
    split at accepted
    · next same =>
        obtain rfl := Option.some.inj accepted
        exact ⟨(peek tokens).position, eq_cons_of_peek same (by simp)⟩
    · exact absurd accepted (by simp)
  · rintro ⟨position, rfl⟩
    simp [advance]

theorem accept?_eq_none_iff :
    accept? mark tokens = none ↔ (peek tokens).symbol ≠ .mark mark := by
  unfold accept?
  split <;> simp_all

theorem expect_eq_ok_iff :
    expect mark tokens = .ok rest ↔ ∃ position, tokens = ⟨.mark mark, position⟩ :: rest := by
  rw [← accept?_eq_some_iff, expect, accept?]
  split <;> simp

@[simp] theorem advance_mark (mark : Char) (position : Nat) (rest : List Token) :
    advance (⟨.mark mark, position⟩ :: rest) = rest :=
  advance_cons_of_ne (by simp) rest

@[simp] theorem accept?_mark (mark : Char) (position : Nat) (rest : List Token) :
    accept? mark (⟨.mark mark, position⟩ :: rest) = some rest :=
  accept?_eq_some_iff.mpr ⟨position, rfl⟩

@[simp] theorem expect_mark (mark : Char) (position : Nat) (rest : List Token) :
    expect mark (⟨.mark mark, position⟩ :: rest) = .ok rest :=
  expect_eq_ok_iff.mpr ⟨position, rfl⟩

theorem accept?_append (ended : IsEnded tokens) (after : List Token) :
    accept? mark (tokens ++ after) = (accept? mark tokens).map (· ++ after) := by
  rw [accept?, accept?, peek_append ended, advance_append ended]
  split <;> rfl

theorem expect_append (ended : IsEnded tokens) (after : List Token) :
    expect mark (tokens ++ after) = (expect mark tokens).map (· ++ after) := by
  simp only [expect, peek_append ended, advance_append ended]
  split <;> rfl

theorem isAt_of_expect
    (ended : IsEnded tokens)
    {error : Error}
    (refused : expect mark tokens = .error error) :
    IsAt tokens error := by
  simp only [expect] at refused
  split at refused
  · exact absurd refused (by simp)
  · obtain rfl := Except.error.inj refused
    exact ⟨_, peek tokens, peek_mem ended, rfl⟩

end Marks

/-! ## Readers -/

/-- Tokens that do not continue an expression: neither a dot nor a parenthesis comes next. -/
def Stops (tokens : List Token) : Prop :=
  (peek tokens).symbol ≠ .mark '.' ∧ (peek tokens).symbol ≠ .mark '('

/-- A reader that takes exactly what is written in some way. -/
structure Follows (read : Parse Item) (IsItem : List Token → Item → Prop) : Prop where
  /-- What is written has a first token, which closes nothing. -/
  opens : ∀ {tokens item}, IsItem tokens item → Opens tokens
  /-- What is written has no end in it. -/
  unended : ∀ {tokens item}, IsItem tokens item → Unended tokens
  /-- What is read is what the tokens taken write. -/
  sound : ∀ {tokens item rest}, read tokens = .ok (item, rest) →
    ∃ front, tokens = front ++ rest ∧ IsItem front item
  /-- What is written is read, unless it goes on. -/
  complete : ∀ {front item rest}, IsItem front item → Stops rest →
    read (front ++ rest) = .ok (item, rest)
  /-- What is not read is wrong at one of the tokens. -/
  refused : ∀ {tokens error}, IsEnded tokens → read tokens = .error error → IsAt tokens error
  /-- Nothing after the end is looked at. -/
  unseen : ∀ {tokens} after, IsEnded tokens →
    read (tokens ++ after) = (read tokens).map fun found => (found.1, found.2 ++ after)

namespace Follows

variable {read : Parse Item} {IsItem : List Token → Item → Prop}
variable {tokens rest : List Token} {item : Item}

/-- What is read takes at least one token. -/
theorem length_lt
    (follows : Follows read IsItem)
    (found : read tokens = .ok (item, rest)) :
    rest.length < tokens.length := by
  obtain ⟨front, rfl, written⟩ := follows.sound found
  obtain ⟨token, others, rfl, -⟩ := follows.opens written
  simp only [List.cons_append, List.length_cons, List.length_append]
  omega

theorem suffix
    (follows : Follows read IsItem)
    (found : read tokens = .ok (item, rest)) :
    rest <:+ tokens := by
  obtain ⟨front, rfl, -⟩ := follows.sound found
  exact List.suffix_append front rest

/-- Reading leaves an end. -/
theorem isEnded
    (follows : Follows read IsItem)
    (ended : IsEnded tokens)
    (found : read tokens = .ok (item, rest)) :
    IsEnded rest := by
  obtain ⟨front, rfl, written⟩ := follows.sound found
  exact isEnded_of_append ended (follows.unended written)

end Follows

/-! ## Items between commas -/

/-- Reads items with commas between them up to a closing mark. -/
def listing (item : Parse Item) (closing : Char) : Nat → Parse (List Item)
  | 0, tokens => .error (.located (.unexpected (peek tokens).symbol.display) (peek tokens).position)
  | steps + 1, tokens =>
      match accept? closing tokens with
      | some rest => .ok ([], rest)
      | none =>
          item tokens >>= fun first =>
            match accept? ',' first.2 with
            | some rest =>
                (listing item closing steps rest).map fun others =>
                  (first.1 :: others.1, others.2)
            | none => (expect closing first.2).map fun rest => ([first.1], rest)

theorem sequence_eq_listing (item : Parse Expression) (closing : Char) :
    sequence item closing = listing item closing := by
  funext steps
  induction steps with
  | zero => rfl
  | succ steps inductionHypothesis =>
      funext tokens
      rw [sequence, listing, inductionHypothesis]
      rfl

section Listing

variable {item : Parse Item} {IsItem : List Token → Item → Prop}
variable {closing : Char} {tokens rest : List Token} {items : List Item}

/-- What is read as a listing are items between commas with the closing mark after them. -/
theorem exists_of_listing
    (follows : Follows item IsItem)
    {steps : Nat}
    (found : listing item closing steps tokens = .ok (items, rest)) :
    ∃ inner position, tokens = inner ++ ⟨.mark closing, position⟩ :: rest ∧
      IsSequence IsItem inner items := by
  induction steps generalizing tokens items with
  | zero => simp [listing] at found
  | succ steps inductionHypothesis =>
      unfold listing at found
      split at found
      · next closed =>
          obtain ⟨position, rfl⟩ := accept?_eq_some_iff.mp closed
          simp only [Except.ok.injEq, Prod.mk.injEq] at found
          obtain ⟨rfl, rfl⟩ := found
          exact ⟨[], position, rfl, .empty⟩
      · obtain ⟨⟨first, middle⟩, read, others⟩ := bind_eq_ok_iff.mp found
        obtain ⟨front, rfl, written⟩ := follows.sound read
        split at others
        · next separated =>
            obtain ⟨position, rfl⟩ := accept?_eq_some_iff.mp separated
            obtain ⟨⟨more, last⟩, listed, same⟩ := map_eq_ok_iff.mp others
            simp only [Prod.mk.injEq] at same
            obtain ⟨rfl, rfl⟩ := same
            obtain ⟨inner, closingPosition, rfl, followed⟩ := inductionHypothesis listed
            exact ⟨_, closingPosition, by simp, .comma position written followed⟩
        · obtain ⟨last, expected, same⟩ := map_eq_ok_iff.mp others
          simp only [Prod.mk.injEq] at same
          obtain ⟨rfl, rfl⟩ := same
          obtain ⟨position, rfl⟩ := expect_eq_ok_iff.mp expected
          exact ⟨front, position, rfl, .last written⟩

/-- Reading a listing leaves an end. -/
theorem isEnded_of_listing
    (follows : Follows item IsItem)
    {steps : Nat}
    (ended : IsEnded tokens)
    (found : listing item closing steps tokens = .ok (items, rest)) :
    IsEnded rest := by
  obtain ⟨inner, position, rfl, written⟩ := exists_of_listing follows found
  have unended : Unended (inner ++ [⟨.mark closing, position⟩]) := by
    simp [written.unended fun _ _ => follows.unended]
  exact isEnded_of_append (by simpa using ended) unended

/-- Items between commas are read up to the closing mark. -/
theorem listing_of_isSequence
    (follows : Follows item IsItem)
    (closes : closing ∈ [')', ']', '\x7d'])
    {inner : List Token}
    (written : IsSequence IsItem inner items)
    {steps : Nat}
    (enough : inner.length < steps)
    (position : Nat)
    (rest : List Token) :
    listing item closing steps (inner ++ ⟨.mark closing, position⟩ :: rest) =
      .ok (items, rest) := by
  have notClosed : ∀ {front} {found : Item} (others), IsItem front found →
      accept? closing (front ++ others) = none := by
    intro front found others isItem
    obtain ⟨token, more, rfl, apart⟩ := follows.opens isItem
    exact accept?_eq_none_iff.mpr (apart closing closes)
  induction written generalizing steps with
  | empty =>
      obtain ⟨steps, rfl⟩ := Nat.exists_eq_add_one_of_ne_zero (Nat.ne_of_gt enough)
      rw [List.nil_append, listing, accept?_mark]
  | last isItem =>
      obtain ⟨steps, rfl⟩ := Nat.exists_eq_add_one_of_ne_zero (Nat.ne_zero_of_lt enough)
      have stops : Stops (⟨.mark closing, position⟩ :: rest) ∧ closing ≠ ',' := by
        simp only [List.mem_cons, List.not_mem_nil, or_false] at closes
        obtain rfl | rfl | rfl := closes <;> simp [Stops]
      have noComma : accept? ',' (⟨.mark closing, position⟩ :: rest) = none :=
        accept?_eq_none_iff.mpr (by simpa using stops.2)
      rw [listing, notClosed _ isItem, follows.complete isItem stops.1]
      simp only [bind, Except.bind, noComma, expect_mark, Except.map]
  | @comma first others found more comma isItem _ inductionHypothesis =>
      obtain ⟨steps, rfl⟩ := Nat.exists_eq_add_one_of_ne_zero (Nat.ne_zero_of_lt enough)
      have stops : Stops (⟨.mark ',', comma⟩ :: (others ++ ⟨.mark closing, position⟩ :: rest)) := by
        simp [Stops]
      have fewer : others.length < steps := by
        simp only [List.length_append, List.length_cons] at enough
        omega
      rw [List.append_assoc, List.cons_append, listing, notClosed _ isItem,
        follows.complete isItem stops]
      simp only [bind, Except.bind, accept?_mark, inductionHypothesis fewer, Except.map]

/-- A listing that is not read is wrong at one of the tokens. -/
theorem isAt_of_listing
    (follows : Follows item IsItem)
    {steps : Nat}
    (ended : IsEnded tokens)
    {error : Error}
    (refused : listing item closing steps tokens = .error error) :
    IsAt tokens error := by
  induction steps generalizing tokens with
  | zero =>
      obtain rfl := Except.error.inj refused
      exact ⟨_, peek tokens, peek_mem ended, rfl⟩
  | succ steps inductionHypothesis =>
      unfold listing at refused
      split at refused
      · exact absurd refused (by simp)
      · obtain first | ⟨⟨first, middle⟩, read, others⟩ := bind_eq_error_iff.mp refused
        · exact follows.refused ended first
        · have middleEnded := follows.isEnded ended read
          refine IsAt.of_suffix (follows.suffix read) ?_
          split at others
          · next separated =>
              obtain ⟨position, rfl⟩ := accept?_eq_some_iff.mp separated
              have more := inductionHypothesis (isEnded_of_cons middleEnded (by simp))
                (map_eq_error_iff.mp others)
              exact more.of_suffix (List.suffix_cons _ _)
          · exact isAt_of_expect middleEnded (map_eq_error_iff.mp others)

/-- A listing is read without looking at what stands after the end. -/
theorem listing_append
    (follows : Follows item IsItem)
    (after : List Token)
    (ended : IsEnded tokens)
    {steps more : Nat}
    (enough : tokens.length < steps)
    (enoughMore : tokens.length < more) :
    listing item closing more (tokens ++ after) =
      (listing item closing steps tokens).map fun found => (found.1, found.2 ++ after) := by
  induction steps generalizing more tokens with
  | zero => exact absurd enough (Nat.not_lt_zero _)
  | succ steps inductionHypothesis =>
      obtain ⟨more, rfl⟩ := Nat.exists_eq_add_one_of_ne_zero (Nat.ne_zero_of_lt enoughMore)
      rw [listing, listing, accept?_append ended]
      cases accept? closing tokens with
      | some rest => rfl
      | none =>
          simp only [Option.map_none, follows.unseen after ended]
          cases read : item tokens with
          | error error => rfl
          | ok first =>
              obtain ⟨first, middle⟩ := first
              have middleEnded := follows.isEnded ended read
              have shorter := follows.length_lt read
              simp only [Except.map, bind, Except.bind, accept?_append middleEnded]
              cases separated : accept? ',' middle with
              | none =>
                  simp only [Option.map_none, expect_append middleEnded]
                  cases expect closing middle <;> rfl
              | some rest =>
                  obtain ⟨position, rfl⟩ := accept?_eq_some_iff.mp separated
                  have restEnded : IsEnded rest := isEnded_of_cons middleEnded (by simp)
                  rw [List.length_cons] at shorter
                  have fewer : rest.length < steps := by omega
                  have fewerMore : rest.length < more := by omega
                  simp only [Option.map_some, inductionHypothesis restEnded fewer fewerMore]
                  cases listing item closing steps rest <;> rfl

end Listing

/-! ## Entries of a record -/

/-- Reads a key, a colon and an expression. -/
def entry (item : Parse Expression) : Parse (String × Expression) := fun tokens =>
  match key? (peek tokens).symbol with
  | none => .error (.located .keyExpected (peek tokens).position)
  | some key =>
      expect ':' (advance tokens) >>= fun rest =>
        (item rest).map fun found => ((key, found.1), found.2)

theorem entries_eq_listing (item : Parse Expression) :
    entries item = listing (entry item) '\x7d' := by
  funext steps
  induction steps with
  | zero => rfl
  | succ steps inductionHypothesis =>
      funext tokens
      simp only [entries, listing, inductionHypothesis, entry]
      cases accept? '\x7d' tokens with
      | some rest => rfl
      | none =>
          cases key? (peek tokens).symbol with
          | none => rfl
          | some key =>
              simp only [bind, Except.bind]
              cases expect ':' (advance tokens) with
              | error error => rfl
              | ok rest =>
                  dsimp only
                  cases item rest <;> rfl

theorem key?_eq_some_iff {symbol : Symbol} {key : String} :
    key? symbol = some key ↔ IsKey symbol key := by
  constructor
  · intro found
    unfold key? at found
    split at found
    · exact Option.some.inj found ▸ .name _
    · exact Option.some.inj found ▸ .text _
    · exact absurd found (by simp)
  · rintro (_ | _) <;> rfl

theorem IsKey.ne_finish
    {symbol : Symbol}
    {key : String}
    (named : IsKey symbol key) :
    symbol ≠ .finish := by
  cases named <;> simp

section Reading

variable {item : Parse Expression} {IsItem : List Token → Expression → Prop}
variable {tokens rest : List Token}

/-- Entries are read as they are written if their expressions are. -/
theorem follows_entry (follows : Follows item IsItem) : Follows (entry item) (IsEntry IsItem) where
  opens := IsEntry.opens
  unended := IsEntry.unended (fun _ _ => follows.unended) _ _
  sound := by
    intro tokens found rest read
    unfold entry at read
    split at read
    · exact absurd read (by simp)
    · next key isKey =>
        have named := key?_eq_some_iff.mp isKey
        obtain ⟨middle, expected, others⟩ := bind_eq_ok_iff.mp read
        obtain ⟨⟨value, last⟩, valueRead, same⟩ := map_eq_ok_iff.mp others
        simp only [Prod.mk.injEq] at same
        obtain ⟨rfl, rfl⟩ := same
        obtain ⟨colon, taken⟩ := expect_eq_ok_iff.mp expected
        obtain ⟨front, rfl, written⟩ := follows.sound valueRead
        refine ⟨_, ?_, .intro (peek tokens).position colon named written⟩
        have first : tokens = ⟨(peek tokens).symbol, (peek tokens).position⟩ :: advance tokens :=
          eq_cons_of_peek rfl (IsKey.ne_finish named)
        rw [first, taken]
        rfl
  complete := by
    intro front found rest written stops
    cases written with
    | @intro symbol key value expression position colon named written =>
        have taken : advance (⟨symbol, position⟩ :: ⟨.mark ':', colon⟩ :: (value ++ rest)) =
            ⟨.mark ':', colon⟩ :: (value ++ rest) :=
          advance_cons_of_ne (IsKey.ne_finish named) _
        simp only [entry, List.cons_append, peek_cons, key?_eq_some_iff.mpr named, taken,
          expect_mark, follows.complete written stops, bind, Except.bind, Except.map]
  refused := by
    intro tokens error ended refused
    unfold entry at refused
    split at refused
    · obtain rfl := Except.error.inj refused
      exact ⟨_, peek tokens, peek_mem ended, rfl⟩
    · have restEnded := isEnded_advance ended
      refine IsAt.of_suffix (advance_suffix tokens) ?_
      obtain first | ⟨middle, expected, others⟩ := bind_eq_error_iff.mp refused
      · exact isAt_of_expect restEnded first
      · obtain ⟨colon, taken⟩ := expect_eq_ok_iff.mp expected
        rw [taken] at restEnded ⊢
        have middleEnded : IsEnded middle := isEnded_of_cons restEnded (by simp)
        exact (follows.refused middleEnded (map_eq_error_iff.mp others)).of_suffix
          (List.suffix_cons _ _)
  unseen := by
    intro tokens after ended
    have restEnded := isEnded_advance ended
    rw [entry, entry, peek_append ended, advance_append ended, expect_append restEnded]
    cases key? (peek tokens).symbol with
    | none => rfl
    | some key =>
        cases expected : expect ':' (advance tokens) with
        | error error => rfl
        | ok middle =>
            obtain ⟨colon, taken⟩ := expect_eq_ok_iff.mp expected
            rw [taken] at restEnded
            have middleEnded : IsEnded middle := isEnded_of_cons restEnded (by simp)
            simp only [Except.map, bind, Except.bind, follows.unseen after middleEnded]
            cases item middle <;> rfl

/-! ## Primaries -/

/-- What is read as a primary is one. -/
theorem exists_of_primary
    (follows : Follows item IsItem)
    {expression : Expression}
    (read : primary item tokens = .ok (expression, rest)) :
    ∃ front, tokens = front ++ rest ∧ IsPrimary IsItem front expression := by
  simp only [primary, entries_eq_listing, sequence_eq_listing] at read
  -- one case for each kind of token that may come first
  split at read
  · next value next =>
      obtain ⟨rfl, rfl⟩ := Prod.mk.inj (Except.ok.inj read)
      exact ⟨_, eq_cons_of_peek next (by simp), .number value _⟩
  · next content next =>
      obtain ⟨rfl, rfl⟩ := Prod.mk.inj (Except.ok.inj read)
      exact ⟨_, eq_cons_of_peek next (by simp), .text content _⟩
  · next source next =>
      obtain ⟨rfl, rfl⟩ := Prod.mk.inj (Except.ok.inj read)
      exact ⟨_, eq_cons_of_peek next (by simp), .pattern source _⟩
  · next word next =>
      obtain ⟨rfl, rfl⟩ := Prod.mk.inj (Except.ok.inj read)
      exact ⟨_, eq_cons_of_peek next (by simp), .name word _⟩
  · next next =>
      split at read
      · next value operand =>
          obtain ⟨rfl, rfl⟩ := Prod.mk.inj (Except.ok.inj read)
          refine ⟨_, ?_, .minus value (peek tokens).position (peek (advance tokens)).position⟩
          rw [eq_cons_of_peek next (by simp), eq_cons_of_peek operand (by simp)]
          rfl
      · exact absurd read (by simp)
  · next next =>
      obtain ⟨⟨inner, middle⟩, innerRead, others⟩ := bind_eq_ok_iff.mp read
      obtain ⟨last, expected, same⟩ := bind_eq_ok_iff.mp others
      obtain ⟨rfl, rfl⟩ := Prod.mk.inj (Except.ok.inj same)
      obtain ⟨closing, rfl⟩ := expect_eq_ok_iff.mp expected
      obtain ⟨front, advanced, written⟩ := follows.sound innerRead
      refine ⟨_, ?_, .grouped (peek tokens).position closing written⟩
      rw [eq_cons_of_peek next (by simp), advanced]
      simp
  · next next =>
      obtain ⟨⟨items, last⟩, listed, same⟩ := bind_eq_ok_iff.mp read
      obtain ⟨rfl, rfl⟩ := Prod.mk.inj (Except.ok.inj same)
      obtain ⟨inner, closing, advanced, written⟩ := exists_of_listing follows listed
      refine ⟨_, ?_, .list (peek tokens).position closing written⟩
      rw [eq_cons_of_peek next (by simp), advanced]
      simp
  · next next =>
      obtain ⟨⟨entries, last⟩, listed, same⟩ := bind_eq_ok_iff.mp read
      obtain ⟨rfl, rfl⟩ := Prod.mk.inj (Except.ok.inj same)
      obtain ⟨inner, closing, advanced, written⟩ :=
        exists_of_listing (follows_entry follows) listed
      refine ⟨_, ?_, .record (peek tokens).position closing written⟩
      rw [eq_cons_of_peek next (by simp), advanced]
      simp
  · exact absurd read (by simp)

/-- A primary is read, whatever follows it. -/
theorem primary_of_isPrimary
    (follows : Follows item IsItem)
    {front : List Token}
    {expression : Expression}
    (written : IsPrimary IsItem front expression)
    (rest : List Token) :
    primary item (front ++ rest) = .ok (expression, rest) := by
  simp only [primary, entries_eq_listing, sequence_eq_listing]
  cases written with
  | number value position => rfl
  | text content position => rfl
  | pattern source position => rfl
  | name word position => rfl
  | minus value position operand => rfl
  | @grouped inner item opening closing written =>
      have stops : Stops (⟨.mark ')', closing⟩ :: rest) := by simp [Stops]
      simp only [List.cons_append, List.append_assoc, List.nil_append, peek_cons, advance_mark,
        follows.complete written stops, bind, Except.bind, expect_mark, pure, Except.pure]
  | @list inner items opening closing written =>
      have enough : inner.length < (inner ++ ⟨.mark ']', closing⟩ :: rest).length + 1 := by
        simp only [List.length_append]
        omega
      have closes : ']' ∈ [')', ']', '\x7d'] := by simp
      have listed := listing_of_isSequence follows closes written enough closing rest
      simp only [List.cons_append, List.append_assoc, List.nil_append, peek_cons, advance_mark,
        listed, bind, Except.bind, pure, Except.pure]
  | @record inner entries opening closing written =>
      have enough : inner.length < (inner ++ ⟨.mark '\x7d', closing⟩ :: rest).length + 1 := by
        simp only [List.length_append]
        omega
      have closes : '\x7d' ∈ [')', ']', '\x7d'] := by simp
      have listed :=
        listing_of_isSequence (follows_entry follows) closes written enough closing rest
      simp only [List.cons_append, List.append_assoc, List.nil_append, peek_cons, advance_mark,
        listed, bind, Except.bind, pure, Except.pure]

/-- A primary that is not read is wrong at one of the tokens. -/
theorem isAt_of_primary
    (follows : Follows item IsItem)
    (ended : IsEnded tokens)
    {error : Error}
    (refused : primary item tokens = .error error) :
    IsAt tokens error := by
  have restEnded := isEnded_advance ended
  have inRest : ∀ {error}, IsAt (advance tokens) error → IsAt tokens error := fun found =>
    found.of_suffix (advance_suffix tokens)
  simp only [primary, entries_eq_listing, sequence_eq_listing] at refused
  split at refused
  · exact absurd refused (by simp)
  · exact absurd refused (by simp)
  · exact absurd refused (by simp)
  · exact absurd refused (by simp)
  · split at refused
    · exact absurd refused (by simp)
    · obtain rfl := Except.error.inj refused
      exact inRest ⟨_, peek (advance tokens), peek_mem restEnded, rfl⟩
  · obtain first | ⟨⟨inner, middle⟩, innerRead, others⟩ := bind_eq_error_iff.mp refused
    · exact inRest (follows.refused restEnded first)
    · obtain last | ⟨last, -, done⟩ := bind_eq_error_iff.mp others
      · exact inRest ((isAt_of_expect (follows.isEnded restEnded innerRead) last).of_suffix
          (follows.suffix innerRead))
      · exact absurd done (by simp [pure, Except.pure])
  · obtain listed | ⟨found, -, done⟩ := bind_eq_error_iff.mp refused
    · exact inRest (isAt_of_listing follows restEnded listed)
    · exact absurd done (by simp [pure, Except.pure])
  · obtain listed | ⟨found, -, done⟩ := bind_eq_error_iff.mp refused
    · exact inRest (isAt_of_listing (follows_entry follows) restEnded listed)
    · exact absurd done (by simp [pure, Except.pure])
  · obtain rfl := Except.error.inj refused
    exact ⟨_, peek tokens, peek_mem ended, rfl⟩

/-- A primary is read without looking at what stands after the end. -/
theorem primary_append
    (follows : Follows item IsItem)
    (after : List Token)
    (ended : IsEnded tokens) :
    primary item (tokens ++ after) =
      (primary item tokens).map fun found => (found.1, found.2 ++ after) := by
  have restEnded := isEnded_advance ended
  simp only [primary, entries_eq_listing, sequence_eq_listing, peek_append ended,
    advance_append ended, peek_append restEnded, advance_append restEnded]
  split
  · rfl
  · rfl
  · rfl
  · rfl
  · split <;> rfl
  · rw [follows.unseen after restEnded]
    cases innerRead : item (advance tokens) with
    | error error => rfl
    | ok found =>
        simp only [Except.map, bind, Except.bind,
          expect_append (follows.isEnded restEnded innerRead)]
        cases expect ')' found.2 <;> rfl
  · rw [listing_append follows after restEnded (Nat.lt_succ_self _)
      (by rw [List.length_append]; omega)]
    cases listing item ']' ((advance tokens).length + 1) (advance tokens) <;> rfl
  · rw [listing_append (follows_entry follows) after restEnded (Nat.lt_succ_self _)
      (by rw [List.length_append]; omega)]
    cases listing (entry item) '\x7d' ((advance tokens).length + 1) (advance tokens) <;> rfl
  · rfl

/-! ## Suffixes -/

/-- What is read after an expression are attributes and calls. -/
theorem exists_of_suffixes
    (follows : Follows item IsItem)
    {steps : Nat}
    {target expression : Expression}
    (read : suffixes item steps target tokens = .ok (expression, rest)) :
    ∃ front, tokens = front ++ rest ∧ IsSuffixed IsItem target front expression := by
  induction steps generalizing target tokens with
  | zero =>
      obtain ⟨rfl, rfl⟩ := Prod.mk.inj (Except.ok.inj read)
      exact ⟨[], rfl, .nothing _⟩
  | succ steps inductionHypothesis =>
      simp only [suffixes, sequence_eq_listing] at read
      split at read
      · next next =>
          split at read
          · next word operand =>
              obtain ⟨front, advanced, followed⟩ := inductionHypothesis read
              refine ⟨_, ?_, .dotted word (peek tokens).position _ followed⟩
              rw [eq_cons_of_peek next (by simp), eq_cons_of_peek operand (by simp), advanced]
              rfl
          · exact absurd read (by simp)
      · next next =>
          obtain ⟨⟨arguments, middle⟩, listed, others⟩ := bind_eq_ok_iff.mp read
          obtain ⟨inner, closing, advanced, written⟩ := exists_of_listing follows listed
          obtain ⟨front, rfl, followed⟩ := inductionHypothesis others
          refine ⟨_, ?_, .call (peek tokens).position closing written followed⟩
          rw [eq_cons_of_peek next (by simp), advanced]
          simp
      · obtain ⟨rfl, rfl⟩ := Prod.mk.inj (Except.ok.inj read)
        exact ⟨[], rfl, .nothing _⟩

/-- Attributes and calls are read up to what does not go on. -/
theorem suffixes_of_isSuffixed
    (follows : Follows item IsItem)
    {target expression : Expression}
    {front : List Token}
    (written : IsSuffixed IsItem target front expression)
    {steps : Nat}
    (enough : front.length < steps)
    (stops : Stops rest) :
    suffixes item steps target (front ++ rest) = .ok (expression, rest) := by
  induction written generalizing steps with
  | nothing target =>
      obtain ⟨steps, rfl⟩ := Nat.exists_eq_add_one_of_ne_zero (Nat.ne_zero_of_lt enough)
      simp only [suffixes, List.nil_append]
      split
      · next next => exact absurd next stops.1
      · next next => exact absurd next stops.2
      · rfl
  | @dotted target result front word dot position _ inductionHypothesis =>
      obtain ⟨steps, rfl⟩ := Nat.exists_eq_add_one_of_ne_zero (Nat.ne_zero_of_lt enough)
      simp only [List.length_cons] at enough
      have fewer : front.length < steps := by omega
      exact inductionHypothesis fewer
  | @call target result inner front arguments position closing written _ inductionHypothesis =>
      obtain ⟨steps, rfl⟩ := Nat.exists_eq_add_one_of_ne_zero (Nat.ne_zero_of_lt enough)
      simp only [List.length_cons, List.length_append] at enough
      have closes : ')' ∈ [')', ']', '\x7d'] := by simp
      have inside : inner.length < (⟨.mark '(', position⟩ ::
          (inner ++ ⟨.mark ')', closing⟩ :: (front ++ rest)) : List Token).length + 1 := by
        simp only [List.length_cons, List.length_append]
        omega
      have listed := listing_of_isSequence follows closes written inside closing (front ++ rest)
      simp only [List.cons_append, List.append_assoc, suffixes, sequence_eq_listing, peek_cons,
        advance_mark, listed, bind, Except.bind]
      exact inductionHypothesis (by omega)

/-- Attributes and calls that are not read are wrong at one of the tokens. -/
theorem isAt_of_suffixes
    (follows : Follows item IsItem)
    (ended : IsEnded tokens)
    {steps : Nat}
    {target : Expression}
    {error : Error}
    (refused : suffixes item steps target tokens = .error error) :
    IsAt tokens error := by
  induction steps generalizing target tokens with
  | zero => exact absurd refused (by simp [suffixes])
  | succ steps inductionHypothesis =>
      have restEnded := isEnded_advance ended
      have inRest : ∀ {error}, IsAt (advance tokens) error → IsAt tokens error := fun found =>
        found.of_suffix (advance_suffix tokens)
      simp only [suffixes, sequence_eq_listing] at refused
      split at refused
      · split at refused
        · exact inRest ((inductionHypothesis (isEnded_advance restEnded) refused).of_suffix
            (advance_suffix _))
        · obtain rfl := Except.error.inj refused
          exact inRest ⟨_, peek (advance tokens), peek_mem restEnded, rfl⟩
      · obtain listed | ⟨⟨arguments, middle⟩, listed, others⟩ := bind_eq_error_iff.mp refused
        · exact inRest (isAt_of_listing follows restEnded listed)
        · have inMiddle := inductionHypothesis (isEnded_of_listing follows restEnded listed) others
          obtain ⟨inner, closing, advanced, -⟩ := exists_of_listing follows listed
          refine inRest (inMiddle.of_suffix ?_)
          rw [advanced]
          exact (List.suffix_cons _ _).trans (List.suffix_append inner _)
      · exact absurd refused (by simp)

/-- Attributes and calls are read without looking at what stands after the end. -/
theorem suffixes_append
    (follows : Follows item IsItem)
    (after : List Token)
    (ended : IsEnded tokens)
    {steps more : Nat}
    (enough : tokens.length < steps)
    (enoughMore : tokens.length < more)
    (target : Expression) :
    suffixes item more target (tokens ++ after) =
      (suffixes item steps target tokens).map fun found => (found.1, found.2 ++ after) := by
  induction steps generalizing more target tokens with
  | zero => exact absurd enough (Nat.not_lt_zero _)
  | succ steps inductionHypothesis =>
      obtain ⟨more, rfl⟩ := Nat.exists_eq_add_one_of_ne_zero (Nat.ne_zero_of_lt enoughMore)
      have restEnded := isEnded_advance ended
      simp only [suffixes, sequence_eq_listing, peek_append ended, advance_append ended,
        peek_append restEnded, advance_append restEnded]
      split
      · next next =>
          split
          · next word operand =>
              have length := congrArg List.length (eq_cons_of_peek next (by simp))
              have lengthRest := congrArg List.length (eq_cons_of_peek operand (by simp))
              rw [List.length_cons] at length lengthRest
              exact inductionHypothesis (isEnded_advance restEnded) (by omega) (by omega) _
          · rfl
      · next next =>
          have length := congrArg List.length (eq_cons_of_peek next (by simp))
          rw [List.length_cons] at length
          have inside : (advance tokens).length < tokens.length + 1 := by omega
          rw [listing_append follows after restEnded inside
            (by simp only [List.length_append]; omega)]
          cases listed : listing item ')' (tokens.length + 1) (advance tokens) with
          | error error => rfl
          | ok found =>
              obtain ⟨arguments, middle⟩ := found
              obtain ⟨inner, closing, advanced, -⟩ := exists_of_listing follows listed
              have lengthRest := congrArg List.length advanced
              rw [List.length_append, List.length_cons] at lengthRest
              exact inductionHypothesis (isEnded_of_listing follows restEnded listed) (by omega)
                (by omega) _
      · rfl

end Reading

/-! ## Expressions -/

/-- Expressions are read as they are written, at any level. -/
theorem follows_expression (levels : Nat) :
    Follows (expression levels) (IsExpression levels) := by
  induction levels with
  | zero =>
      refine ⟨fun written => written.elim, fun written => written.elim, ?_,
        fun written => written.elim, ?_, ?_⟩
      · intro tokens found rest read
        exact absurd read (by simp [expression])
      · intro tokens error ended refused
        obtain rfl := Except.error.inj refused
        exact ⟨_, peek tokens, peek_mem ended, rfl⟩
      · intro tokens after ended
        rw [expression, expression, peek_append ended]
        rfl
  | succ levels follows =>
      refine ⟨IsExpression.opens, IsExpression.unended _ _ _, ?_, ?_, ?_, ?_⟩
      · intro tokens found rest read
        obtain ⟨⟨target, middle⟩, primaryRead, others⟩ := bind_eq_ok_iff.mp read
        obtain ⟨first, rfl, primary⟩ := exists_of_primary follows primaryRead
        obtain ⟨front, rfl, suffixed⟩ := exists_of_suffixes follows others
        exact ⟨first ++ front, by simp, first, front, target, rfl, primary, suffixed⟩
      · rintro front found rest ⟨first, others, target, rfl, primary, suffixed⟩ stops
        have enough : others.length < (others ++ rest).length + 1 := by
          simp only [List.length_append]
          omega
        have read := suffixes_of_isSuffixed follows suffixed enough stops
        rw [List.append_assoc, expression, primary_of_isPrimary follows primary]
        exact read
      · intro tokens error ended refused
        obtain first | ⟨⟨target, middle⟩, primaryRead, others⟩ := bind_eq_error_iff.mp refused
        · exact isAt_of_primary follows ended first
        · obtain ⟨first, rfl, primary⟩ := exists_of_primary follows primaryRead
          have middleEnded := isEnded_of_append ended
            (primary.unended fun _ _ => follows.unended)
          exact (isAt_of_suffixes follows middleEnded others).of_suffix (List.suffix_append _ _)
      · intro tokens after ended
        rw [expression, expression, primary_append follows after ended]
        cases primaryRead : primary (expression levels) tokens with
        | error error => rfl
        | ok found =>
            obtain ⟨target, middle⟩ := found
            obtain ⟨first, rfl, primary⟩ := exists_of_primary follows primaryRead
            have middleEnded := isEnded_of_append ended
              (primary.unended fun _ _ => follows.unended)
            have enough : middle.length < (middle ++ after).length + 1 := by
              rw [List.length_append]
              omega
            exact suffixes_append follows after middleEnded (Nat.lt_succ_self _) enough target

end Parse

/-! ## Whole token sequences -/

/-- What tokens with an end after them are read as. -/
structure ReadsByGrammar (tokens : List Token) (finish : Nat) : Prop where
  /-- An expression is read exactly if the tokens write it. -/
  accepted : ∀ expression, ofTokens (tokens ++ [⟨.finish, finish⟩]) = .ok expression ↔
    IsExpression maxNesting tokens expression
  /-- Tokens that write no expression are wrong at one of them or at the end. -/
  refused : (∀ expression, ¬IsExpression maxNesting tokens expression) →
    ∃ error, ofTokens (tokens ++ [⟨.finish, finish⟩]) = .error error ∧
      IsAt (tokens ++ [⟨.finish, finish⟩]) error
  /-- Nothing after the end is looked at. -/
  unseen : ∀ after, ofTokens (tokens ++ ⟨.finish, finish⟩ :: after) =
    ofTokens (tokens ++ [⟨.finish, finish⟩])
  /-- Tokens write one expression at most, however deep it may be nested. -/
  unique : ∀ {levels more expression other}, IsExpression levels tokens expression →
    IsExpression more tokens other → expression = other
  /-- Whether an expression is read does not hang on what texts hold. -/
  texts : ∀ others, List.Forall₂ SameButTexts tokens others →
    ((∃ expression, ofTokens (tokens ++ [⟨.finish, finish⟩]) = .ok expression) ↔
      ∃ expression, ofTokens (others ++ [⟨.finish, finish⟩]) = .ok expression)

section Whole

variable {tokens : List Token} {finish : Nat}

theorem isEnded_append_finish (tokens : List Token) (finish : Nat) :
    IsEnded (tokens ++ [⟨.finish, finish⟩]) :=
  ⟨tokens, finish, rfl⟩

theorem stops_finish (finish : Nat) : Parse.Stops [⟨.finish, finish⟩] := by
  simp [Parse.Stops]

/-- An expression is read from tokens that write it, with the end left. -/
theorem expression_of_isExpression
    {levels : Nat}
    {expression : Expression}
    (written : IsExpression levels tokens expression)
    (finish : Nat) :
    Parse.expression levels (tokens ++ [⟨.finish, finish⟩]) =
      .ok (expression, [⟨.finish, finish⟩]) :=
  (Parse.follows_expression levels).complete written (stops_finish finish)

theorem eq_of_isExpression
    {levels more : Nat}
    {expression other : Expression}
    (written : IsExpression levels tokens expression)
    (otherWritten : IsExpression more tokens other) :
    expression = other := by
  have read := expression_of_isExpression (written.mono (Nat.le_max_left levels more)) 0
  have otherRead := expression_of_isExpression (otherWritten.mono (Nat.le_max_right levels more)) 0
  exact (Prod.mk.inj (Except.ok.inj (read.symm.trans otherRead))).1

/-- The first end after tokens without one is where they stop. -/
theorem eq_of_append_eq_append_finish
    {front rest : List Token}
    (frontUnended : Unended front)
    (unended : Unended tokens)
    (same : tokens ++ [⟨.finish, finish⟩] = front ++ rest)
    (next : (Parse.peek rest).symbol = .finish) :
    tokens = front := by
  obtain ⟨more, rfl, ends⟩ | ⟨more, rfl, rfl⟩ := List.append_eq_append_iff.mp same
  · cases more with
    | nil => rw [List.append_nil]
    | cons token more =>
        obtain ⟨rfl, -⟩ := List.cons.inj ends
        exact absurd rfl (frontUnended ⟨.finish, finish⟩ (by simp))
  · cases more with
    | nil => rw [List.append_nil]
    | cons token more => exact absurd next (unended token (by simp))

theorem ofTokens_eq_ok_iff
    (unended : Unended tokens)
    {expression : Expression} :
    ofTokens (tokens ++ [⟨.finish, finish⟩]) = .ok expression ↔
      IsExpression maxNesting tokens expression := by
  constructor
  · intro read
    obtain ⟨⟨found, rest⟩, expressionRead, checked⟩ := bind_eq_ok_iff.mp read
    dsimp only at checked
    split at checked
    · next next =>
        obtain rfl := Except.ok.inj checked
        obtain ⟨front, same, written⟩ :=
          (Parse.follows_expression maxNesting).sound expressionRead
        rwa [eq_of_append_eq_append_finish (IsExpression.unended _ _ _ written) unended same next]
    · exact absurd checked (by simp [throw, throwThe, MonadExceptOf.throw])
  · intro written
    rw [ofTokens, expression_of_isExpression written]
    rfl

/-- Tokens that are not read are wrong at one of them. -/
theorem isAt_of_ofTokens
    {tokens : List Token}
    (ended : IsEnded tokens)
    {error : Error}
    (refused : ofTokens tokens = .error error) :
    IsAt tokens error := by
  have follows := Parse.follows_expression maxNesting
  obtain first | ⟨⟨found, rest⟩, read, checked⟩ := bind_eq_error_iff.mp refused
  · exact follows.refused ended first
  · dsimp only at checked
    split at checked
    · exact absurd checked (by simp [pure, Except.pure])
    · obtain rfl := Except.error.inj checked
      have next := Parse.peek_mem (follows.isEnded ended read)
      exact IsAt.of_suffix (follows.suffix read) ⟨_, Parse.peek rest, next, rfl⟩

theorem ofTokens_append
    {tokens : List Token}
    (ended : IsEnded tokens)
    (after : List Token) :
    ofTokens (tokens ++ after) = ofTokens tokens := by
  have follows := Parse.follows_expression maxNesting
  rw [ofTokens, ofTokens, follows.unseen after ended]
  cases read : Parse.expression maxNesting tokens with
  | error error => rfl
  | ok found =>
      simp only [Except.map, bind, Except.bind,
        Parse.peek_append (follows.isEnded ended read)]

theorem unended_of_sameButTexts
    {others : List Token}
    (same : List.Forall₂ SameButTexts tokens others)
    (unended : Unended tokens) :
    Unended others := by
  intro other member
  obtain ⟨token, listed, equal | ⟨_, changed, -, isChanged⟩⟩ := exists_of_forall₂ same.flip member
  · rw [← equal]
    exact unended token listed
  · simp [isChanged]

/--
Tokens without an end among them, with an end after them, are read as the one expression that
they write with at most `maxNesting` expressions nested in one another, and refused if there
is none.
-/
theorem readsByGrammar_of_unended (unended : Unended tokens) (finish : Nat) :
    ReadsByGrammar tokens finish where
  accepted _ := ofTokens_eq_ok_iff unended
  refused := by
    intro unwritten
    cases read : ofTokens (tokens ++ [⟨.finish, finish⟩]) with
    | ok expression => exact absurd ((ofTokens_eq_ok_iff unended).mp read) (unwritten expression)
    | error error => exact ⟨error, rfl, isAt_of_ofTokens (isEnded_append_finish _ _) read⟩
  unseen after := by
    rw [← ofTokens_append (isEnded_append_finish tokens finish) after]
    simp
  unique := eq_of_isExpression
  texts := by
    intro others same
    have othersSame := same.flip.imp fun _ _ => SameButTexts.symm
    rw [exists_congr fun _ => ofTokens_eq_ok_iff unended,
      exists_congr fun _ => ofTokens_eq_ok_iff (unended_of_sameButTexts same unended)]
    constructor
    · rintro ⟨expression, written⟩
      exact IsExpression.allowsTexts maxNesting _ _ _ same written
    · rintro ⟨expression, written⟩
      exact IsExpression.allowsTexts maxNesting _ _ _ othersSame written

/--
`x(")", [y,],)`: a text with a parenthesis in it is no parenthesis, and commas may stand after
the last items.
-/
theorem readsByGrammar_texts :
    ReadsByGrammar
      [⟨.name "x", 0⟩, ⟨.mark '(', 1⟩, ⟨.text ")", 2⟩, ⟨.mark ',', 5⟩, ⟨.mark '[', 7⟩,
        ⟨.name "y", 8⟩, ⟨.mark ',', 9⟩, ⟨.mark ']', 10⟩, ⟨.mark ',', 11⟩, ⟨.mark ')', 12⟩] 13 ∧
      ofTokens
        [⟨.name "x", 0⟩, ⟨.mark '(', 1⟩, ⟨.text ")", 2⟩, ⟨.mark ',', 5⟩, ⟨.mark '[', 7⟩,
          ⟨.name "y", 8⟩, ⟨.mark ',', 9⟩, ⟨.mark ']', 10⟩, ⟨.mark ',', 11⟩, ⟨.mark ')', 12⟩,
          ⟨.finish, 13⟩] =
        .ok (.call (.identifier "x" 0)
          [.text ")" 2, .list [.identifier "y" 8] 7] 1) :=
  ⟨readsByGrammar_of_unended (by simp) 13, rfl⟩

end Whole

end Expression
end RoutineGate
