import RoutineGate.Expression.Parser
import RoutineGate.Proofs.Traversal

/-!
# The grammar of schema expressions

An expression is a primary with attributes and calls after it.  A primary is a number, with
or without a minus, a text, a pattern, a name, an expression in parentheses, a list in
brackets or a record in braces.  What stands in parentheses, brackets and braces is written
with commas between the items, and a comma may stand after the last one too.  How deep
expressions are nested in one another is the only bound.
-/

namespace RoutineGate
namespace Expression

variable {Item : Type}

/-- Items with commas between them; a comma may stand after the last one too. -/
inductive IsSequence (IsItem : List Token → Item → Prop) : List Token → List Item → Prop
  /-- No item at all. -/
  | empty : IsSequence IsItem [] []
  /-- The last item, without a comma after it. -/
  | last {tokens : List Token} {item : Item}
      (written : IsItem tokens item) :
      IsSequence IsItem tokens [item]
  /-- An item, a comma and what follows. -/
  | comma {first rest : List Token} {item : Item} {items : List Item} (position : Nat)
      (written : IsItem first item)
      (followed : IsSequence IsItem rest items) :
      IsSequence IsItem (first ++ ⟨.mark ',', position⟩ :: rest) (item :: items)

/-- A symbol that is a key: a name or a text. -/
inductive IsKey : Symbol → String → Prop
  | name (word : String) : IsKey (.name word) word
  | text (content : String) : IsKey (.text content) content

/-- A key, a colon and an expression. -/
inductive IsEntry (IsItem : List Token → Expression → Prop) :
    List Token → String × Expression → Prop
  | intro {symbol : Symbol} {key : String} {value : List Token} {item : Expression}
      (position colon : Nat)
      (named : IsKey symbol key)
      (written : IsItem value item) :
      IsEntry IsItem (⟨symbol, position⟩ :: ⟨.mark ':', colon⟩ :: value) (key, item)

/-- What attributes and calls may follow. -/
inductive IsPrimary (IsItem : List Token → Expression → Prop) : List Token → Expression → Prop
  | number (value : Numeral) (position : Nat) :
      IsPrimary IsItem [⟨.number value, position⟩] (.number value position)
  | text (content : String) (position : Nat) :
      IsPrimary IsItem [⟨.text content, position⟩] (.text content position)
  | pattern (source : String) (position : Nat) :
      IsPrimary IsItem [⟨.pattern source, position⟩] (.text source position)
  | name (word : String) (position : Nat) :
      IsPrimary IsItem [⟨.name word, position⟩] (.identifier word position)
  /-- A number after a minus. -/
  | minus (value : Numeral) (position operand : Nat) :
      IsPrimary IsItem [⟨.mark '-', position⟩, ⟨.number value, operand⟩]
        (.number (Parse.negate value) position)
  /-- An expression in parentheses. -/
  | grouped {inner : List Token} {item : Expression} (opening closing : Nat)
      (written : IsItem inner item) :
      IsPrimary IsItem (⟨.mark '(', opening⟩ :: (inner ++ [⟨.mark ')', closing⟩])) item
  /-- A list in brackets. -/
  | list {inner : List Token} {items : List Expression} (opening closing : Nat)
      (written : IsSequence IsItem inner items) :
      IsPrimary IsItem (⟨.mark '[', opening⟩ :: (inner ++ [⟨.mark ']', closing⟩]))
        (.list items opening)
  /-- A record in braces. -/
  | record {inner : List Token} {entries : List (String × Expression)} (opening closing : Nat)
      (written : IsSequence (IsEntry IsItem) inner entries) :
      IsPrimary IsItem (⟨.mark '\x7b', opening⟩ :: (inner ++ [⟨.mark '\x7d', closing⟩]))
        (.record entries opening)

/-- The attributes and calls after an expression, with the expression that they make of it. -/
inductive IsSuffixed (IsItem : List Token → Expression → Prop) :
    Expression → List Token → Expression → Prop
  /-- Nothing follows. -/
  | nothing (target : Expression) : IsSuffixed IsItem target [] target
  /-- A dot and a name. -/
  | dotted {target result : Expression} {rest : List Token} (word : String)
      (dot position : Nat)
      (followed : IsSuffixed IsItem (.attribute target word position) rest result) :
      IsSuffixed IsItem target (⟨.mark '.', dot⟩ :: ⟨.name word, position⟩ :: rest) result
  /-- Arguments in parentheses. -/
  | call {target result : Expression} {inner rest : List Token} {arguments : List Expression}
      (position closing : Nat)
      (written : IsSequence IsItem inner arguments)
      (followed : IsSuffixed IsItem (.call target arguments position) rest result) :
      IsSuffixed IsItem target
        (⟨.mark '(', position⟩ :: (inner ++ ⟨.mark ')', closing⟩ :: rest)) result

/-- What tokens write with at most so many expressions nested in one another. -/
def IsExpression : Nat → List Token → Expression → Prop
  | 0, _, _ => False
  | levels + 1, tokens, expression =>
      ∃ first rest target, tokens = first ++ rest ∧
        IsPrimary (IsExpression levels) first target ∧
        IsSuffixed (IsExpression levels) target rest expression

/-! ## More nesting -/

section Monotone

variable {IsItem Other : List Token → Expression → Prop}

theorem IsSequence.mono
    {IsItem Other : List Token → Item → Prop}
    (implied : ∀ tokens item, IsItem tokens item → Other tokens item)
    {tokens : List Token}
    {items : List Item}
    (written : IsSequence IsItem tokens items) :
    IsSequence Other tokens items := by
  induction written with
  | empty => exact .empty
  | last item => exact .last (implied _ _ item)
  | comma position item _ inductionHypothesis =>
      exact .comma position (implied _ _ item) inductionHypothesis

theorem IsEntry.mono
    (implied : ∀ tokens item, IsItem tokens item → Other tokens item)
    (tokens : List Token)
    (entry : String × Expression)
    (written : IsEntry IsItem tokens entry) :
    IsEntry Other tokens entry := by
  cases written with
  | intro position colon named item => exact .intro position colon named (implied _ _ item)

theorem IsPrimary.mono
    (implied : ∀ tokens item, IsItem tokens item → Other tokens item)
    {tokens : List Token}
    {expression : Expression}
    (written : IsPrimary IsItem tokens expression) :
    IsPrimary Other tokens expression := by
  cases written with
  | number value position => exact .number value position
  | text content position => exact .text content position
  | pattern source position => exact .pattern source position
  | name word position => exact .name word position
  | minus value position operand => exact .minus value position operand
  | grouped opening closing item => exact .grouped opening closing (implied _ _ item)
  | list opening closing items => exact .list opening closing (items.mono implied)
  | record opening closing entries =>
      exact .record opening closing (entries.mono (IsEntry.mono implied))

theorem IsSuffixed.mono
    (implied : ∀ tokens item, IsItem tokens item → Other tokens item)
    {target expression : Expression}
    {tokens : List Token}
    (written : IsSuffixed IsItem target tokens expression) :
    IsSuffixed Other target tokens expression := by
  induction written with
  | nothing target => exact .nothing target
  | dotted word dot position _ inductionHypothesis =>
      exact .dotted word dot position inductionHypothesis
  | call position closing arguments _ inductionHypothesis =>
      exact .call position closing (arguments.mono implied) inductionHypothesis

end Monotone

/-- What is written with some nesting is written with any deeper one. -/
theorem IsExpression.mono
    {levels more : Nat}
    (fewer : levels ≤ more)
    {tokens : List Token}
    {expression : Expression}
    (written : IsExpression levels tokens expression) :
    IsExpression more tokens expression := by
  induction levels generalizing more tokens expression with
  | zero => exact written.elim
  | succ levels inductionHypothesis =>
      obtain ⟨more, rfl⟩ : ∃ previous, more = previous + 1 := ⟨more - 1, by omega⟩
      obtain ⟨first, rest, target, rfl, primary, suffixed⟩ := written
      have implied : ∀ tokens item, IsExpression levels tokens item →
          IsExpression more tokens item := fun tokens item => inductionHypothesis (by omega)
      exact ⟨first, rest, target, rfl, primary.mono implied, suffixed.mono implied⟩

/-! ## The tokens of an expression -/

/-- Tokens of which the first one is there and closes nothing. -/
def Opens (tokens : List Token) : Prop :=
  ∃ token rest, tokens = token :: rest ∧
    ∀ mark ∈ [')', ']', '\x7d'], token.symbol ≠ .mark mark

theorem Opens.append
    {tokens : List Token}
    (opens : Opens tokens)
    (rest : List Token) :
    Opens (tokens ++ rest) := by
  obtain ⟨token, others, rfl, apart⟩ := opens
  exact ⟨token, others ++ rest, rfl, apart⟩

theorem IsPrimary.opens
    {IsItem : List Token → Expression → Prop}
    {tokens : List Token}
    {expression : Expression}
    (written : IsPrimary IsItem tokens expression) :
    Opens tokens := by
  cases written <;> exact ⟨_, _, rfl, by simp⟩

theorem IsEntry.opens
    {IsItem : List Token → Expression → Prop}
    {tokens : List Token}
    {entry : String × Expression}
    (written : IsEntry IsItem tokens entry) :
    Opens tokens := by
  obtain ⟨_, _, named, _⟩ := written
  cases named <;> exact ⟨_, _, rfl, by simp⟩

theorem IsExpression.opens
    {levels : Nat}
    {tokens : List Token}
    {expression : Expression}
    (written : IsExpression levels tokens expression) :
    Opens tokens := by
  cases levels with
  | zero => exact written.elim
  | succ levels =>
      obtain ⟨first, rest, target, rfl, primary, -⟩ := written
      exact primary.opens.append rest

/-- Tokens without an end among them. -/
def Unended (tokens : List Token) : Prop :=
  ∀ token ∈ tokens, token.symbol ≠ .finish

@[simp] theorem unended_nil : Unended [] := by
  simp [Unended]

@[simp] theorem unended_cons_iff
    {token : Token}
    {rest : List Token} :
    Unended (token :: rest) ↔ token.symbol ≠ .finish ∧ Unended rest := by
  simp [Unended]

@[simp] theorem unended_append_iff
    {first rest : List Token} :
    Unended (first ++ rest) ↔ Unended first ∧ Unended rest := by
  simp [Unended, or_imp, forall_and]

section Unended

variable {IsItem : List Token → Expression → Prop}

theorem IsSequence.unended
    {IsItem : List Token → Item → Prop}
    (each : ∀ tokens item, IsItem tokens item → Unended tokens)
    {tokens : List Token}
    {items : List Item}
    (written : IsSequence IsItem tokens items) :
    Unended tokens := by
  induction written with
  | empty => exact unended_nil
  | last item => exact each _ _ item
  | comma position item _ inductionHypothesis => simp [each _ _ item, inductionHypothesis]

theorem IsEntry.unended
    (each : ∀ tokens item, IsItem tokens item → Unended tokens)
    (tokens : List Token)
    (entry : String × Expression)
    (written : IsEntry IsItem tokens entry) :
    Unended tokens := by
  obtain ⟨_, _, named, item⟩ := written
  cases named <;> simp [each _ _ item]

theorem IsPrimary.unended
    (each : ∀ tokens item, IsItem tokens item → Unended tokens)
    {tokens : List Token}
    {expression : Expression}
    (written : IsPrimary IsItem tokens expression) :
    Unended tokens := by
  cases written with
  | grouped opening closing item => simp [each _ _ item]
  | list opening closing items => simp [items.unended each]
  | record opening closing entries => simp [entries.unended (IsEntry.unended each)]
  | _ => simp

theorem IsSuffixed.unended
    (each : ∀ tokens item, IsItem tokens item → Unended tokens)
    {target expression : Expression}
    {tokens : List Token}
    (written : IsSuffixed IsItem target tokens expression) :
    Unended tokens := by
  induction written with
  | nothing target => exact unended_nil
  | dotted word dot position _ inductionHypothesis => simp [inductionHypothesis]
  | call position closing arguments _ inductionHypothesis =>
      simp [arguments.unended each, inductionHypothesis]

/-- No end stands inside an expression. -/
theorem IsExpression.unended
    (levels : Nat)
    (tokens : List Token)
    (expression : Expression)
    (written : IsExpression levels tokens expression) :
    Unended tokens := by
  induction levels generalizing tokens expression with
  | zero => exact written.elim
  | succ levels inductionHypothesis =>
      obtain ⟨first, rest, target, rfl, primary, suffixed⟩ := written
      exact unended_append_iff.mpr
        ⟨primary.unended inductionHypothesis, suffixed.unended inductionHypothesis⟩

end Unended

/-! ## Tokens that differ in texts only -/

/-- Two tokens with the same symbol, or two texts. -/
def SameButTexts (token other : Token) : Prop :=
  token.symbol = other.symbol ∨
    ∃ content changed, token.symbol = .text content ∧ other.symbol = .text changed

theorem SameButTexts.symm
    {token other : Token}
    (same : SameButTexts token other) :
    SameButTexts other token := by
  obtain equal | ⟨content, changed, isText, isChanged⟩ := same
  · exact .inl equal.symm
  · exact .inr ⟨changed, content, isChanged, isText⟩

/-- A token that is no text keeps its symbol. -/
theorem SameButTexts.eq_of_ne_text
    {symbol : Symbol}
    {position : Nat}
    {other : Token}
    (same : SameButTexts ⟨symbol, position⟩ other)
    (notText : ∀ content, symbol ≠ .text content) :
    ∃ place, other = ⟨symbol, place⟩ := by
  obtain equal | ⟨content, changed, isText, -⟩ := same
  · obtain rfl : symbol = other.symbol := equal
    exact ⟨other.position, rfl⟩
  · exact absurd isText (notText content)

/-- A text stays a text. -/
theorem SameButTexts.exists_text
    {content : String}
    {position : Nat}
    {other : Token}
    (same : SameButTexts ⟨.text content, position⟩ other) :
    ∃ changed place, other = ⟨.text changed, place⟩ := by
  obtain ⟨symbol, place⟩ := other
  obtain equal | ⟨_, changed, -, isChanged⟩ := same
  · obtain rfl : .text content = symbol := equal
    exact ⟨content, place, rfl⟩
  · obtain rfl : symbol = .text changed := isChanged
    exact ⟨changed, place, rfl⟩

section Same

variable {rest others : List Token}

theorem exists_of_forall₂_cons
    {symbol : Symbol}
    {position : Nat}
    (same : List.Forall₂ SameButTexts (⟨symbol, position⟩ :: rest) others)
    (notText : ∀ content, symbol ≠ .text content) :
    ∃ place more, others = ⟨symbol, place⟩ :: more ∧ List.Forall₂ SameButTexts rest more := by
  obtain ⟨other, more, first, moreSame, rfl⟩ := List.forall₂_cons_left_iff.mp same
  obtain ⟨place, rfl⟩ := first.eq_of_ne_text notText
  exact ⟨place, more, rfl, moreSame⟩

theorem exists_of_forall₂_singleton
    {symbol : Symbol}
    {position : Nat}
    (same : List.Forall₂ SameButTexts [⟨symbol, position⟩] others)
    (notText : ∀ content, symbol ≠ .text content) :
    ∃ place, others = [⟨symbol, place⟩] := by
  obtain ⟨place, more, rfl, nothing⟩ := exists_of_forall₂_cons same notText
  obtain rfl := List.forall₂_nil_left_iff.mp nothing
  exact ⟨place, rfl⟩

/-- What stands before a mark and after it can be told apart. -/
theorem exists_of_forall₂_mark
    {inner : List Token}
    {mark : Char}
    {position : Nat}
    (same : List.Forall₂ SameButTexts (inner ++ ⟨.mark mark, position⟩ :: rest) others) :
    ∃ before place after, others = before ++ ⟨.mark mark, place⟩ :: after ∧
      List.Forall₂ SameButTexts inner before ∧ List.Forall₂ SameButTexts rest after := by
  obtain ⟨before, more, rfl, innerSame, moreSame⟩ := exists_append_of_forall₂ same
  obtain ⟨place, after, rfl, restSame⟩ := exists_of_forall₂_cons moreSame (by simp)
  exact ⟨before, place, after, rfl, innerSame, restSame⟩

/-- What stands between two marks can be told apart. -/
theorem exists_of_forall₂_enclosed
    {inner : List Token}
    {opening closing : Char}
    {first last : Nat}
    (same : List.Forall₂ SameButTexts
      (⟨.mark opening, first⟩ :: (inner ++ [⟨.mark closing, last⟩])) others) :
    ∃ place between closingPlace,
      others = ⟨.mark opening, place⟩ :: (between ++ [⟨.mark closing, closingPlace⟩]) ∧
        List.Forall₂ SameButTexts inner between := by
  obtain ⟨place, more, rfl, moreSame⟩ := exists_of_forall₂_cons same (by simp)
  obtain ⟨between, closingPlace, after, rfl, innerSame, nothing⟩ :=
    exists_of_forall₂_mark moreSame
  obtain rfl := List.forall₂_nil_left_iff.mp nothing
  exact ⟨place, between, closingPlace, rfl, innerSame⟩

end Same

/-- What is written may have other texts. -/
def AllowsTexts (IsItem : List Token → Item → Prop) : Prop :=
  ∀ tokens others item, List.Forall₂ SameButTexts tokens others → IsItem tokens item →
    ∃ other, IsItem others other

section AllowsTexts

variable {IsItem : List Token → Expression → Prop}

theorem IsSequence.allowsTexts
    {IsItem : List Token → Item → Prop}
    (each : AllowsTexts IsItem) :
    AllowsTexts (IsSequence IsItem) := by
  intro tokens others items same written
  induction written generalizing others with
  | empty =>
      obtain rfl := List.forall₂_nil_left_iff.mp same
      exact ⟨[], .empty⟩
  | last item =>
      obtain ⟨other, written⟩ := each _ _ _ same item
      exact ⟨[other], .last written⟩
  | comma position item _ inductionHypothesis =>
      obtain ⟨before, place, after, rfl, firstSame, restSame⟩ := exists_of_forall₂_mark same
      obtain ⟨other, written⟩ := each _ _ _ firstSame item
      obtain ⟨items, followed⟩ := inductionHypothesis after restSame
      exact ⟨other :: items, .comma place written followed⟩

theorem IsKey.exists_of_sameButTexts
    {symbol : Symbol}
    {key : String}
    (named : IsKey symbol key)
    {position : Nat}
    {other : Token}
    (same : SameButTexts ⟨symbol, position⟩ other) :
    ∃ changed, IsKey other.symbol changed := by
  cases named with
  | name =>
      obtain ⟨place, rfl⟩ := same.eq_of_ne_text (by simp)
      exact ⟨key, .name key⟩
  | text =>
      obtain ⟨changed, place, rfl⟩ := same.exists_text
      exact ⟨changed, .text changed⟩

theorem IsEntry.allowsTexts (each : AllowsTexts IsItem) : AllowsTexts (IsEntry IsItem) := by
  intro tokens others entry same written
  obtain ⟨position, colon, named, item⟩ := written
  obtain ⟨key, rest, keySame, restSame, rfl⟩ := List.forall₂_cons_left_iff.mp same
  obtain ⟨place, value, rfl, valueSame⟩ := exists_of_forall₂_cons restSame (by simp)
  obtain ⟨changed, otherNamed⟩ := named.exists_of_sameButTexts keySame
  obtain ⟨other, written⟩ := each _ _ _ valueSame item
  exact ⟨_, .intro key.position place otherNamed written⟩

theorem IsPrimary.allowsTexts (each : AllowsTexts IsItem) : AllowsTexts (IsPrimary IsItem) := by
  intro tokens others expression same written
  cases written with
  | number value position =>
      obtain ⟨place, rfl⟩ := exists_of_forall₂_singleton same (by simp)
      exact ⟨_, .number value place⟩
  | text content position =>
      obtain ⟨first, nothing, firstSame, none, rfl⟩ := List.forall₂_cons_left_iff.mp same
      obtain rfl := List.forall₂_nil_left_iff.mp none
      obtain ⟨changed, place, rfl⟩ := firstSame.exists_text
      exact ⟨_, .text changed place⟩
  | pattern source position =>
      obtain ⟨place, rfl⟩ := exists_of_forall₂_singleton same (by simp)
      exact ⟨_, .pattern source place⟩
  | name word position =>
      obtain ⟨place, rfl⟩ := exists_of_forall₂_singleton same (by simp)
      exact ⟨_, .name word place⟩
  | minus value position operand =>
      obtain ⟨place, rest, rfl, restSame⟩ := exists_of_forall₂_cons same (by simp)
      obtain ⟨operandPlace, rfl⟩ := exists_of_forall₂_singleton restSame (by simp)
      exact ⟨_, .minus value place operandPlace⟩
  | grouped opening closing item =>
      obtain ⟨place, between, closingPlace, rfl, innerSame⟩ := exists_of_forall₂_enclosed same
      obtain ⟨other, written⟩ := each _ _ _ innerSame item
      exact ⟨_, .grouped place closingPlace written⟩
  | list opening closing items =>
      obtain ⟨place, between, closingPlace, rfl, innerSame⟩ := exists_of_forall₂_enclosed same
      obtain ⟨others, written⟩ := IsSequence.allowsTexts each _ _ _ innerSame items
      exact ⟨_, .list place closingPlace written⟩
  | record opening closing entries =>
      obtain ⟨place, between, closingPlace, rfl, innerSame⟩ := exists_of_forall₂_enclosed same
      obtain ⟨others, written⟩ :=
        IsSequence.allowsTexts (IsEntry.allowsTexts each) _ _ _ innerSame entries
      exact ⟨_, .record place closingPlace written⟩

theorem IsSuffixed.exists_of_sameButTexts
    (each : AllowsTexts IsItem)
    {target expression : Expression}
    {tokens others : List Token}
    (same : List.Forall₂ SameButTexts tokens others)
    (written : IsSuffixed IsItem target tokens expression)
    (changed : Expression) :
    ∃ other, IsSuffixed IsItem changed others other := by
  induction written generalizing others changed with
  | nothing target =>
      obtain rfl := List.forall₂_nil_left_iff.mp same
      exact ⟨changed, .nothing changed⟩
  | dotted word dot position _ inductionHypothesis =>
      obtain ⟨dotPlace, rest, rfl, restSame⟩ := exists_of_forall₂_cons same (by simp)
      obtain ⟨place, more, rfl, moreSame⟩ := exists_of_forall₂_cons restSame (by simp)
      obtain ⟨other, followed⟩ := inductionHypothesis moreSame (.attribute changed word place)
      exact ⟨other, .dotted word dotPlace place followed⟩
  | call position closing arguments _ inductionHypothesis =>
      obtain ⟨place, rest, rfl, restSame⟩ := exists_of_forall₂_cons same (by simp)
      obtain ⟨inner, closingPlace, after, rfl, innerSame, afterSame⟩ :=
        exists_of_forall₂_mark restSame
      obtain ⟨otherArguments, written⟩ := IsSequence.allowsTexts each _ _ _ innerSame arguments
      obtain ⟨other, followed⟩ :=
        inductionHypothesis afterSame (.call changed otherArguments place)
      exact ⟨other, .call place closingPlace written followed⟩

/-- Whether tokens write an expression does not hang on what texts hold. -/
theorem IsExpression.allowsTexts (levels : Nat) : AllowsTexts (IsExpression levels) := by
  induction levels with
  | zero => exact fun _ _ _ _ written => written.elim
  | succ levels inductionHypothesis =>
      rintro tokens others expression same ⟨first, rest, target, rfl, primary, suffixed⟩
      obtain ⟨before, after, rfl, firstSame, restSame⟩ := exists_append_of_forall₂ same
      obtain ⟨changed, otherPrimary⟩ :=
        IsPrimary.allowsTexts inductionHypothesis _ _ _ firstSame primary
      obtain ⟨other, otherSuffixed⟩ :=
        suffixed.exists_of_sameButTexts inductionHypothesis restSame changed
      exact ⟨other, before, after, changed, rfl, otherPrimary, otherSuffixed⟩

end AllowsTexts

end Expression
end RoutineGate
