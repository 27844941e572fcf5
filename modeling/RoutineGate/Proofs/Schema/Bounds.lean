import RoutineGate.Proofs.Expression.Typing
import RoutineGate.Proofs.Schema.Keywords

/-!
# Published bounds

The steps of texts, numbers and lists that bound a value are published as keywords.  A value
has to be admitted by every step, but of two steps that write one keyword only the later one
is published: a value that satisfies the keywords passes if the earlier ones admit it too.
-/

namespace RoutineGate
namespace Schema

variable {characters : Text.CharacterNames}

/-! ## What keywords say -/

/-- A keyword of a published schema that bounds the values of one type. -/
inductive Keyword where
  | minLength
  | maxLength
  | pattern
  | minItems
  | maxItems
  | minimum
  | maximum
  | exclusiveMinimum
  | exclusiveMaximum
  deriving DecidableEq, Repr

/-- Whether the pattern of a text is found in another one. -/
def isPatternFound (characters : Text.CharacterNames) (source content : String) : Bool :=
  match Pattern.read source characters with
  | .ok pattern => pattern.isFoundIn content
  | .error _ => false

namespace Keyword

def name : Keyword → String
  | .minLength => "minLength"
  | .maxLength => "maxLength"
  | .pattern => "pattern"
  | .minItems => "minItems"
  | .maxItems => "maxItems"
  | .minimum => "minimum"
  | .maximum => "maximum"
  | .exclusiveMinimum => "exclusiveMinimum"
  | .exclusiveMaximum => "exclusiveMaximum"

def admitsText (characters : Text.CharacterNames) (keyword : Keyword) (bound : Value)
    (content : String) : Bool :=
  match keyword, bound with
  | .minLength, .int least => least ≤ content.length
  | .maxLength, .int most => content.length ≤ most
  | .pattern, .text source => isPatternFound characters source content
  | _, _ => true

def admitsItems (keyword : Keyword) (bound : Value) (items : List Value) : Bool :=
  match keyword, bound with
  | .minItems, .int least => least ≤ items.length
  | .maxItems, .int most => items.length ≤ most
  | _, _ => true

/-- On which side of a bound a keyword wants a number to be. -/
def comparison? : Keyword → Option Comparison
  | .minimum => some .atLeast
  | .maximum => some .atMost
  | .exclusiveMinimum => some .above
  | .exclusiveMaximum => some .below
  | _ => none

def admitsNumeral (keyword : Keyword) (bound : Value) (numeral : Numeral) : Bool :=
  match keyword.comparison?, bound.numeral? with
  | some comparison, some bound => (numeral.compare? bound).any comparison.admits
  | _, _ => true

/-- Whether a keyword with a bound admits a value; it admits all values of other types. -/
def admits (characters : Text.CharacterNames) (keyword : Keyword) (bound : Value) : Value → Bool
  | .text content => keyword.admitsText characters bound content
  | .list items => keyword.admitsItems bound items
  | .int whole => keyword.admitsNumeral bound (.int whole)
  | .float decimal => keyword.admitsNumeral bound (.float decimal)
  | _ => true

theorem eq_of_name_eq
    {keyword other : Keyword}
    (same : keyword.name = other.name) :
    keyword = other := by
  cases keyword <;> cases other <;> first | rfl | exact absurd same (by decide)

end Keyword

/-- A value satisfies all keywords of a published schema that bound values. -/
def SatisfiesKeywords (characters : Text.CharacterNames) (document : List (String × Value))
    (value : Value) : Prop :=
  ∀ keyword bound, document.lookup (Keyword.name keyword) = some bound →
    keyword.admits characters bound value = true

/-- What stands under one name in a published schema admits a value. -/
def EntryAdmits (characters : Text.CharacterNames) (entry : String × Value) (value : Value) :
    Prop :=
  ∀ keyword, Keyword.name keyword = entry.1 → keyword.admits characters entry.2 value = true

theorem entryAdmits_iff
    (keyword : Keyword)
    (bound value : Value) :
    EntryAdmits characters (keyword.name, bound) value ↔
      keyword.admits characters bound value = true := by
  constructor
  · intro admits
    exact admits keyword rfl
  · intro admits other same
    rwa [Keyword.eq_of_name_eq same]

/-! ## Schemas with bounds -/

/-- The values of the type that a text, a number or a list is passed on as. -/
def HasBaseType : Schema Value → Value → Prop
  | .string .., .text _ => True
  | .number .., .int _ => True
  | .number _ false _, .float decimal => decimal.isFinite = true
  | .array .., .list _ => True
  | _, _ => False

/-- A value passes every step of a schema. -/
def Passes (schema : Schema Value) (value : Value) : Prop :=
  match value with
  | .list items => runLengthSteps schema.traits.steps items.length = .ok ()
  | value => ∃ passed, runSteps schema.traits.steps value = .ok passed

/-- The names of the methods that bound texts, numbers and lists. -/
def boundMethods : List String :=
  ["min", "max", "length", "nonempty", "regex", "gt", "gte", "lt", "lte", "positive",
    "nonnegative", "negative", "nonpositive"]

/-- A text, a number or a list with any chain of bounds. -/
inductive IsBounded (characters : Text.CharacterNames) : Schema Value → Prop
  | string {coerce : Bool} :
      IsBounded characters (.string {} coerce)
  | number {integer coerce : Bool} :
      IsBounded characters (.number {} integer coerce)
  | array {item : Schema Value} :
      IsBounded characters (.array {} item)
  | call {schema changed : Schema Value} {name : String} {arguments : List Value}
      (bounded : IsBounded characters schema)
      (listed : name ∈ boundMethods)
      (called : Expression.callMethod (.schema schema) name arguments characters =
        .ok changed) :
      IsBounded characters changed

/-- The rules that bound the values of a kind. -/
def Rule.Bounds (characters : Text.CharacterNames) (rule : Rule) : Schema Value → Prop
  | .string .. => rule.isLength = true ∨ ∃ expected, rule = .pattern expected ∧
      Pattern.read expected.source characters = .ok expected
  | .number .. => ∃ comparison bound, rule = .compare comparison bound
  | .array .. => rule.isLength = true
  | _ => False

/-- A schema whose traits are nothing but steps with bounds of its kind. -/
structure HasBounds (characters : Text.CharacterNames) (schema : Schema Value) : Prop where
  plain : schema.traits = { steps := schema.traits.steps }
  bounds : ∀ step ∈ schema.traits.steps, step.rule.Bounds characters schema

/-- Whether the steps of a schema are about items. -/
def countsItems : Schema Value → Bool
  | .array .. => true
  | _ => false

/-- A modifier that adds a bound. -/
def AddsBound : Expression.Modifier → Prop
  | .minLength | .maxLength | .exactLength | .nonempty | .pattern | .bound _ | .sign _ => True
  | _ => False

section Chains

variable {schema changed : Schema Value} {name : String} {modifier : Expression.Modifier}

/-- The methods that bound values do nothing else. -/
theorem addsBound_of_named?
    (listed : name ∈ boundMethods)
    (named : Expression.Modifier.named? schema name = some modifier) :
    AddsBound modifier := by
  obtain common | ⟨-, own⟩ := Option.or_eq_some_iff.mp named
  · unfold Expression.Modifier.common? at common
    split at common <;> first | exact absurd listed (by decide) | exact absurd common (by simp)
  · cases schema with
    | string =>
        simp only [Expression.Modifier.own?, Expression.Modifier.ofString?] at own
        split at own <;> cases own <;> first | exact absurd listed (by decide) | trivial
    | number =>
        simp only [Expression.Modifier.own?, Expression.Modifier.ofNumber?] at own
        split at own <;> cases own <;> first | exact absurd listed (by decide) | trivial
    | array =>
        simp only [Expression.Modifier.own?, Expression.Modifier.ofArray?] at own
        split at own <;> cases own <;> trivial
    | object =>
        simp only [Expression.Modifier.own?, Expression.Modifier.ofObject?] at own
        split at own
        · exact absurd listed (by decide)
        · exact absurd own (by simp)
    | _ => exact absurd own (by simp [Expression.Modifier.own?])

/-- Such a modifier adds one step. -/
theorem exists_addStep_of_apply
    (addsBound : AddsBound modifier)
    (modifies : modifier.Modifies schema)
    {value : Value}
    {message : Option Value}
    (applied : modifier.apply schema value message characters = .ok changed) :
    ∃ rule : Rule, changed = schema.addStep ⟨rule, message⟩ ∧ rule.Bounds characters schema := by
  cases modifier with
  | minLength | maxLength | exactLength =>
      obtain ⟨bound, -, rfl⟩ := map_eq_ok_iff.mp applied
      refine ⟨_, rfl, ?_⟩
      cases schema <;> first | exact modifies.elim | exact .inl rfl | exact rfl
  | nonempty =>
      obtain rfl := Except.ok.inj applied
      refine ⟨_, rfl, ?_⟩
      cases schema <;> first | exact modifies.elim | exact .inl rfl | exact rfl
  | pattern =>
      obtain ⟨expected, found, rfl⟩ := map_eq_ok_iff.mp applied
      refine ⟨_, rfl, ?_⟩
      cases schema <;> first | exact modifies.elim |
        exact .inr ⟨expected, rfl, Expression.read_of_patternArgument found⟩
  | bound comparison =>
      obtain ⟨bound, -, rfl⟩ := map_eq_ok_iff.mp applied
      refine ⟨_, rfl, ?_⟩
      cases schema <;> first | exact modifies.elim | exact ⟨comparison, bound, rfl⟩
  | sign comparison =>
      obtain rfl := Except.ok.inj applied
      refine ⟨_, rfl, ?_⟩
      cases schema <;> first | exact modifies.elim | exact ⟨comparison, .int 0, rfl⟩
  | _ => exact addsBound.elim

theorem bounds_withTraits
    {rule : Rule}
    {traits : Traits Value} :
    rule.Bounds characters (schema.withTraits traits) ↔ rule.Bounds characters schema := by
  cases schema <;> rfl

/-- A chain of bounds adds steps with bounds and nothing else. -/
theorem hasBounds_of_isBounded
    (bounded : IsBounded characters schema) :
    HasBounds characters schema := by
  induction bounded with
  | string | number | array => exact ⟨rfl, fun step listed => absurd listed List.not_mem_nil⟩
  | @call schema changed name arguments bounded listed called inductionHypothesis =>
      simp only [Expression.callMethod] at called
      split at called
      · next modifier named =>
          obtain ⟨⟨value, message⟩, -, applied⟩ := bind_eq_ok_iff.mp called
          obtain ⟨rule, rfl, bounds⟩ := exists_addStep_of_apply
            (addsBound_of_named? listed named)
            (Expression.Modifier.modifies_of_named? named) applied
          refine ⟨?_, fun step listed => ?_⟩
          · rw [steps_addStep, addStep, traits_withTraits]
            conv_lhs => rw [inductionHypothesis.plain]
          · rw [steps_addStep] at listed
            refine bounds_withTraits.mpr ?_
            obtain earlier | last := List.mem_append.mp listed
            · exact inductionHypothesis.bounds step earlier
            · rwa [List.mem_singleton.mp last]
      · exact absurd called (by simp)

end Chains

/-! ## Steps and keywords -/

section Rules

variable {schema : Schema Value} {rule : Rule} {value : Value}

/-- The keywords of the least and of the greatest length. -/
def lengthBounds (ofList : Bool) : Keyword × Keyword :=
  if ofList then (.minItems, .maxItems) else (.minLength, .maxLength)

theorem lengthKeywords_eq (ofList : Bool) :
    lengthKeywords ofList = ((lengthBounds ofList).1.name, (lengthBounds ofList).2.name) := by
  cases ofList <;> rfl

/-- A bound of a length admits what its keywords admit, for texts and for lists. -/
theorem admits_iff_of_isLength
    (isLength : rule.isLength = true)
    {ofList : Bool}
    {length : Nat}
    (own : rule.admits value = rule.admitsLength length)
    (least : ∀ bound : Int,
      (lengthBounds ofList).1.admits characters (.int bound) value = decide (bound ≤ length))
    (most : ∀ bound : Int,
      (lengthBounds ofList).2.admits characters (.int bound) value = decide (length ≤ bound)) :
    rule.admits value = true ↔
      ∀ entry ∈ rule.keywords ofList, EntryAdmits characters entry value := by
  rw [own]
  cases rule with
  | minLength bound =>
      rw [Rule.keywords, List.forall_mem_singleton, lengthKeywords_eq, entryAdmits_iff, least]
      rfl
  | maxLength bound =>
      rw [Rule.keywords, List.forall_mem_singleton, lengthKeywords_eq, entryAdmits_iff, most]
      rfl
  | exactLength bound =>
      rw [Rule.keywords, List.forall_mem_cons, List.forall_mem_singleton, lengthKeywords_eq,
        entryAdmits_iff, entryAdmits_iff, least, most]
      simp only [Rule.admitsLength, decide_eq_true_eq]
      omega
  | _ => exact absurd isLength (by simp [Rule.isLength])

theorem numeral?_ofNumeral (numeral : Numeral) :
    (Value.ofNumeral numeral).numeral? = some numeral := by
  cases numeral <;> rfl

/-- A comparison admits the numbers that its keyword admits. -/
theorem admits_iff_of_compare
    (comparison : Comparison)
    (bound numeral : Numeral) :
    (Rule.compare comparison bound).admits (.ofNumeral numeral) = true ↔
      ∀ entry ∈ (Rule.compare comparison bound).keywords false,
        EntryAdmits characters entry (.ofNumeral numeral) := by
  have compared : ∀ keyword : Keyword, keyword.comparison? = some comparison →
      ((Rule.compare comparison bound).admits (.ofNumeral numeral) = true ↔
        EntryAdmits characters (keyword.name, .ofNumeral bound) (.ofNumeral numeral)) := by
    intro keyword same
    have published : keyword.admitsNumeral (.ofNumeral bound) numeral =
        (Rule.compare comparison bound).admitsNumeral numeral := by
      rw [Keyword.admitsNumeral, same, numeral?_ofNumeral]
      rfl
    rw [entryAdmits_iff, Bool.eq_iff_iff.symm]
    cases numeral <;> exact published.symm
  cases comparison <;> rw [Rule.keywords, List.forall_mem_singleton]
  · exact compared .exclusiveMinimum rfl
  · exact compared .minimum rfl
  · exact compared .exclusiveMaximum rfl
  · exact compared .maximum rfl

/-- A rule with a bound admits what its keywords admit. -/
theorem Rule.Bounds.admits_iff
    (bounds : rule.Bounds characters schema)
    (typed : HasBaseType schema value) :
    rule.admits value = true ↔
      ∀ entry ∈ rule.keywords schema.countsItems, EntryAdmits characters entry value := by
  cases schema with
  | string traits coerce =>
      cases value with
      | text content =>
          obtain isLength | ⟨expected, rfl, isRead⟩ := bounds
          · have own : rule.admits (.text content) = rule.admitsLength content.length := by
              cases rule <;> first | rfl | exact absurd isLength (by simp [Rule.isLength])
            exact admits_iff_of_isLength isLength own (fun _ => rfl) fun _ => rfl
          · rw [Rule.keywords, List.forall_mem_singleton]
            refine Iff.trans ?_
              (entryAdmits_iff .pattern (.text expected.source) (.text content)).symm
            rw [Keyword.admits, Keyword.admitsText, isPatternFound, isRead]
            rfl
      | _ => exact typed.elim
  | number traits integer coerce =>
      obtain ⟨comparison, bound, rfl⟩ := bounds
      cases value with
      | int whole => exact admits_iff_of_compare comparison bound (.int whole)
      | float decimal => exact admits_iff_of_compare comparison bound (.float decimal)
      | _ => exact typed.elim
  | array traits item =>
      cases value with
      | list items => exact admits_iff_of_isLength bounds rfl (fun _ => rfl) fun _ => rfl
      | _ => exact typed.elim
  | _ => exact bounds.elim

/-- A rule with a bound is made for the values of the type and leaves them as they are. -/
theorem Rule.Bounds.supports
    (bounds : rule.Bounds characters schema)
    (typed : HasBaseType schema value) :
    rule.supports value = true ∧ rule.change value = value := by
  cases schema with
  | string traits coerce =>
      cases value with
      | text content =>
          obtain isLength | ⟨expected, rfl, -⟩ := bounds
          · cases rule <;>
              first | exact ⟨rfl, rfl⟩ | exact absurd isLength (by simp [Rule.isLength])
          · exact ⟨rfl, rfl⟩
      | _ => exact typed.elim
  | number traits integer coerce =>
      obtain ⟨comparison, bound, rfl⟩ := bounds
      cases value with
      | int whole => exact ⟨rfl, rfl⟩
      | float decimal => exact ⟨rfl, rfl⟩
      | _ => exact typed.elim
  | array traits item =>
      cases value with
      | list items => exact ⟨bounds, rfl⟩
      | _ => exact typed.elim
  | _ => exact bounds.elim

end Rules

section Steps

variable {schema : Schema Value} {value : Value}

/-- Steps that do not change a value give it exactly if every one admits it. -/
theorem runSteps_eq_ok_iff
    {steps : List (Step Value)}
    (supported : ∀ step ∈ steps,
      step.rule.supports value = true ∧ step.rule.change value = value)
    {passed : Value} :
    runSteps steps value = .ok passed ↔
      passed = value ∧ ∀ step ∈ steps, step.rule.admits value = true := by
  induction steps with
  | nil => simpa using eq_comm
  | cons step steps inductionHypothesis =>
      obtain ⟨⟨supports, unchanged⟩, others⟩ := List.forall_mem_cons.mp supported
      rw [List.forall_mem_cons, runSteps, Step.run, if_pos supports]
      cases admits : step.rule.admits value with
      | true => simpa [unchanged] using inductionHypothesis others
      | false => simp

/-- Values pass steps that do not change them exactly if every one admits them. -/
theorem exists_runSteps_iff
    {steps : List (Step Value)}
    (supported : ∀ step ∈ steps,
      step.rule.supports value = true ∧ step.rule.change value = value) :
    (∃ passed, runSteps steps value = .ok passed) ↔
      ∀ step ∈ steps, step.rule.admits value = true := by
  simp only [runSteps_eq_ok_iff supported, exists_eq_left]

theorem runLengthSteps_iff
    {steps : List (Step Value)}
    (counted : ∀ step ∈ steps, step.rule.isLength = true)
    (length : Nat) :
    runLengthSteps steps length = .ok () ↔
      ∀ step ∈ steps, step.rule.admitsLength length = true := by
  induction steps with
  | nil => simp [runLengthSteps]
  | cons step steps inductionHypothesis =>
      obtain ⟨measured, others⟩ := List.forall_mem_cons.mp counted
      rw [List.forall_mem_cons, ← inductionHypothesis others, runLengthSteps, Step.runLength,
        if_pos measured]
      cases admits : step.rule.admitsLength length <;> simp

/-- A value passes the bounds of a schema exactly if every one of them admits it. -/
theorem HasBounds.passes_iff
    (hasBounds : HasBounds characters schema)
    (typed : HasBaseType schema value) :
    Passes schema value ↔ ∀ step ∈ schema.traits.steps, step.rule.admits value = true := by
  have stepwise := exists_runSteps_iff fun step listed =>
    (hasBounds.bounds step listed).supports typed
  cases value with
  | list items =>
      cases schema with
      | array traits item => exact runLengthSteps_iff hasBounds.bounds items.length
      | _ => exact typed.elim
  | _ => exact stepwise

/-- The bounds that a schema publishes are those that its steps write last. -/
theorem HasBounds.lookup_publish
    (hasBounds : HasBounds characters schema)
    (typed : HasBaseType schema value)
    (keyword : Keyword) :
    (publish schema).lookup keyword.name =
      (writtenKeywords schema.countsItems schema.traits.steps).reverse.lookup keyword.name := by
  have plain : schema.traits.isNullable = false := by rw [hasBounds.plain]
  have traitsOnly : ∀ base : List (String × Value), base.lookup keyword.name = none →
      (publishTraits schema.countsItems schema.traits base).lookup keyword.name =
        (writtenKeywords schema.countsItems schema.traits.steps).reverse.lookup
          keyword.name := by
    intro base absent
    rw [lookup_publishTraits (by cases keyword <;> decide) (by cases keyword <;> decide), plain,
      if_neg (by simp), lookup_addStepKeywords, absent, Option.or_none]
  cases schema with
  | string | number | array =>
      rw [publish]
      exact traitsOnly _ (by cases keyword <;> rfl)
  | _ => cases value <;> exact typed.elim

end Steps

/-! ## Overwritten steps -/

/-- A step one of whose keywords a later step writes again. -/
def IsOverwritten (ofList : Bool) (steps : List (Step Value)) (step : Step Value) : Prop :=
  ∃ before after, steps = before ++ step :: after ∧
    ∃ key ∈ (step.rule.keywords ofList).map Prod.fst,
      key ∈ (writtenKeywords ofList after).map Prod.fst

section Overwritten

variable {ofList : Bool} {steps : List (Step Value)}

/-- No rule writes a keyword twice. -/
theorem nodup_keys_keywords
    (ofList : Bool)
    (rule : Rule) :
    ((rule.keywords ofList).map Prod.fst).Nodup := by
  unfold Rule.keywords
  split <;> cases ofList <;> simp [lengthKeywords]

/-- A keyword that no later step writes again is the last one of its name. -/
theorem lookup_writtenKeywords
    {before after : List (Step Value)}
    {step : Step Value}
    {entry : String × Value}
    (listed : entry ∈ step.rule.keywords ofList)
    (last : entry.1 ∉ (writtenKeywords ofList after).map Prod.fst) :
    (writtenKeywords ofList (before ++ step :: after)).reverse.lookup entry.1 =
      some entry.2 := by
  obtain ⟨first, second, split⟩ := List.append_of_mem listed
  have distinct := nodup_keys_keywords ofList step.rule
  rw [split, List.map_append, List.map_cons] at distinct
  -- neither the rest of the step nor a later one stands before the entry in the reverse
  have own : entry.1 ∉ second.map Prod.fst :=
    (List.nodup_cons.mp (List.nodup_append.mp distinct).2.1).1
  refine List.lookup_eq_some_iff.mpr ⟨(second ++ writtenKeywords ofList after).reverse,
    (writtenKeywords ofList before ++ first).reverse, ?_, fun other earlier => ?_⟩
  · simp only [writtenKeywords, List.flatMap_append, List.flatMap_cons, split,
      List.reverse_append, List.reverse_cons, List.append_assoc, List.cons_append,
      List.nil_append]
  · rw [bne_iff_ne]
    intro same
    obtain here | there := List.mem_append.mp (List.mem_reverse.mp earlier)
    · exact own (same ▸ List.mem_map_of_mem here)
    · exact last (same ▸ List.mem_map_of_mem there)

/--
Every keyword that steps write admits a value exactly if the last ones of their names do and
every overwritten step does.
-/
theorem forall_entryAdmits_iff
    {value : Value} :
    (∀ step ∈ steps, ∀ entry ∈ step.rule.keywords ofList, EntryAdmits characters entry value) ↔
      (∀ keyword bound,
        (writtenKeywords ofList steps).reverse.lookup (Keyword.name keyword) = some bound →
        keyword.admits characters bound value = true) ∧
      ∀ step, IsOverwritten ofList steps step →
        ∀ entry ∈ step.rule.keywords ofList, EntryAdmits characters entry value := by
  constructor
  · intro each
    refine ⟨fun keyword bound found => ?_, fun step overwritten => ?_⟩
    · obtain ⟨first, second, split, -⟩ := List.lookup_eq_some_iff.mp found
      have written : (keyword.name, bound) ∈ writtenKeywords ofList steps := by
        rw [← List.mem_reverse, split]
        exact List.mem_append_right first List.mem_cons_self
      obtain ⟨step, listed, member⟩ := List.mem_flatMap.mp written
      exact each step listed _ member keyword rfl
    · obtain ⟨before, after, rfl, -⟩ := overwritten
      exact each step (List.mem_append_right before List.mem_cons_self)
  · rintro ⟨lastAdmit, overwrittenAdmit⟩ step listed entry member
    obtain ⟨before, after, rfl⟩ := List.append_of_mem listed
    -- either a later step writes the keyword again, or this is what a lookup finds
    by_cases again : entry.1 ∈ (writtenKeywords ofList after).map Prod.fst
    · exact overwrittenAdmit step
        ⟨before, after, rfl, entry.1, List.mem_map_of_mem member, again⟩ entry member
    · intro keyword same
      refine lastAdmit keyword entry.2 ?_
      rw [same]
      exact lookup_writtenKeywords member again

end Overwritten

/-! ## Bounds of values -/

section Values

variable {schema : Schema Value} {value : Value}

/-- A value passes if it satisfies the keywords and the overwritten steps admit it. -/
theorem HasBounds.passes_iff_satisfies
    (hasBounds : HasBounds characters schema)
    (typed : HasBaseType schema value) :
    Passes schema value ↔ SatisfiesKeywords characters (publish schema) value ∧
      ∀ step, IsOverwritten schema.countsItems schema.traits.steps step →
        step.rule.admits value = true := by
  have admits_iff : ∀ step ∈ schema.traits.steps, (step.rule.admits value = true ↔
      ∀ entry ∈ step.rule.keywords schema.countsItems, EntryAdmits characters entry value) :=
    fun step listed => (hasBounds.bounds step listed).admits_iff typed
  rw [hasBounds.passes_iff typed, forall₂_congr admits_iff, forall_entryAdmits_iff]
  refine and_congr ?_ (forall₂_congr fun step overwritten => ?_)
  · unfold SatisfiesKeywords
    simp only [hasBounds.lookup_publish typed]
  · obtain ⟨before, after, split, -⟩ := overwritten
    have listed : step ∈ schema.traits.steps :=
      split ▸ List.mem_append_right before List.mem_cons_self
    exact (admits_iff step listed).symm

/-- If no keyword is written twice, no step is overwritten. -/
theorem not_isOverwritten_of_nodup
    {ofList : Bool}
    {steps : List (Step Value)}
    (distinct : ((writtenKeywords ofList steps).map Prod.fst).Nodup)
    (step : Step Value) :
    ¬IsOverwritten ofList steps step := by
  rintro ⟨before, after, rfl, key, own, again⟩
  rw [writtenKeywords, List.flatMap_append, List.flatMap_cons, List.map_append,
    List.map_append] at distinct
  have later := (List.nodup_append.mp distinct).2.1
  exact (List.nodup_append.mp later).2.2 key own key again rfl

/--
A value passes a chain of bounds exactly if it satisfies the published keywords and every step
that a later one overwrites admits it.  So if no keyword is written twice, the published
keywords are the bounds.
-/
theorem passes_iff_of_isBounded
    (bounded : IsBounded characters schema) :
    (∀ value, HasBaseType schema value →
      (Passes schema value ↔ SatisfiesKeywords characters (publish schema) value ∧
        ∀ step, IsOverwritten schema.countsItems schema.traits.steps step →
          step.rule.admits value = true)) ∧
    (((writtenKeywords schema.countsItems schema.traits.steps).map Prod.fst).Nodup →
      ∀ value, HasBaseType schema value →
        (SatisfiesKeywords characters (publish schema) value ↔ Passes schema value)) := by
  have hasBounds := hasBounds_of_isBounded bounded
  refine ⟨fun value typed => hasBounds.passes_iff_satisfies typed, fun distinct value typed => ?_⟩
  rw [hasBounds.passes_iff_satisfies typed]
  exact ⟨fun satisfies => ⟨satisfies, fun step overwritten =>
    absurd overwritten (not_isOverwritten_of_nodup distinct step)⟩, And.left⟩

end Values

/-- A text of two to four characters. -/
def shortText : Schema Value :=
  .string { steps := [⟨.minLength 2, none⟩, ⟨.maxLength 4, none⟩] } false

/-- A text of three characters passes, and so it satisfies both keywords. -/
theorem passes_shortText :
    IsBounded .ascii shortText ∧ Passes shortText (.text "abc") ∧
      SatisfiesKeywords .ascii (publish shortText) (.text "abc") := by
  have atLeastTwo : IsBounded .ascii (.string { steps := [⟨.minLength 2, none⟩] } false) :=
    .call .string (show "min" ∈ boundMethods by decide)
      (show Expression.callMethod _ "min" [.int 2] = .ok _ from rfl)
  have bounded : IsBounded .ascii shortText :=
    .call atLeastTwo (show "max" ∈ boundMethods by decide)
      (show Expression.callMethod _ "max" [.int 4] = .ok _ from rfl)
  have passes : Passes shortText (.text "abc") := ⟨.text "abc", by rfl⟩
  refine ⟨bounded, passes, ?_⟩
  exact ((passes_iff_of_isBounded bounded).2 (by decide +kernel) (.text "abc") trivial).mpr passes

/-- A text of at least five characters, which is then said to have at least three. -/
def shortenedText : Schema Value :=
  .string { steps := [⟨.minLength 5, none⟩, ⟨.minLength 3, none⟩] } false

/-- A text of four characters satisfies the published keyword, but it does not pass. -/
theorem not_passes_shortenedText :
    IsBounded .ascii shortenedText ∧ HasBaseType shortenedText (.text "abcd") ∧
      SatisfiesKeywords .ascii (publish shortenedText) (.text "abcd") ∧
      ¬Passes shortenedText (.text "abcd") := by
  have atLeastFive : IsBounded .ascii (.string { steps := [⟨.minLength 5, none⟩] } false) :=
    .call .string (show "min" ∈ boundMethods by decide)
      (show Expression.callMethod _ "min" [.int 5] = .ok _ from rfl)
  have bounded : IsBounded .ascii shortenedText :=
    .call atLeastFive (show "min" ∈ boundMethods by decide)
      (show Expression.callMethod _ "min" [.int 3] = .ok _ from rfl)
  refine ⟨bounded, trivial, fun keyword bound found => ?_, ?_⟩
  · have published : publish shortenedText =
        [("type", .text "string"), ("minLength", .int 3)] := rfl
    rw [published] at found
    cases keyword with
    | minLength =>
        obtain rfl := Option.some.inj found
        decide +kernel
    | _ => exact absurd found (by simp [Keyword.name, List.lookup_cons])
  · rintro ⟨passed, passes⟩
    have refused : (runSteps shortenedText.traits.steps (.text "abcd")).toOption.isSome =
        false := by
      decide +kernel
    rw [passes] at refused
    exact absurd refused (by simp [Except.toOption])

end Schema
end RoutineGate
