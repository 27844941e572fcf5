import Mathlib.Data.List.Nodup
import RoutineGate.Expression.Evaluation
import RoutineGate.Proofs.Schema.WellFormed
import RoutineGate.Proofs.Traversal

/-!
# Schema expressions denote well-formed schemas

Whatever an expression denotes, the schemas in it are well-formed: the builder makes
well-formed schemas only, and every method that a kind of schema offers keeps them so.
-/

namespace RoutineGate

namespace Value

section Records

variable {Datum : Type} {Holds : Datum → Prop}

theorem nodup_keys_put
    {entries : List (String × Datum)}
    (distinct : (entries.map Prod.fst).Nodup)
    (key : String)
    (value : Datum) :
    ((put key value entries).map Prod.fst).Nodup := by
  rw [keys_put]
  split
  · exact distinct
  · next absent =>
      rw [← List.concat_eq_append]
      exact List.Nodup.concat absent distinct

theorem forall_put
    {entries : List (String × Datum)}
    (each : ∀ entry ∈ entries, Holds entry.2)
    {value : Datum}
    (holds : Holds value)
    (key : String) :
    ∀ entry ∈ put key value entries, Holds entry.2 := by
  induction entries with
  | nil => simpa [put] using holds
  | cons entry entries inductionHypothesis =>
      obtain ⟨other, old⟩ := entry
      obtain ⟨first, others⟩ := List.forall_mem_cons.mp each
      rw [put]
      split
      · exact List.forall_mem_cons.mpr ⟨holds, others⟩
      · exact List.forall_mem_cons.mpr ⟨first, inductionHypothesis others⟩

/-- Setting one value after the other keeps keys distinct and what holds of all values. -/
theorem foldl_put
    {pairs entries : List (String × Datum)}
    (pairsHold : ∀ pair ∈ pairs, Holds pair.2)
    (distinct : (entries.map Prod.fst).Nodup)
    (entriesHold : ∀ entry ∈ entries, Holds entry.2) :
    ((pairs.foldl (fun merged pair => put pair.1 pair.2 merged) entries).map Prod.fst).Nodup ∧
      ∀ entry ∈ pairs.foldl (fun merged pair => put pair.1 pair.2 merged) entries,
        Holds entry.2 := by
  induction pairs generalizing entries with
  | nil => exact ⟨distinct, entriesHold⟩
  | cons pair pairs inductionHypothesis =>
      obtain ⟨first, others⟩ := List.forall_mem_cons.mp pairsHold
      exact inductionHypothesis others (nodup_keys_put distinct pair.1 pair.2)
        (forall_put entriesHold first pair.1)

/-- Gathered pairs have distinct keys, and what holds of all their values. -/
theorem gather_holds
    {pairs : List (String × Datum)}
    (pairsHold : ∀ pair ∈ pairs, Holds pair.2) :
    ((gather pairs).map Prod.fst).Nodup ∧ ∀ entry ∈ gather pairs, Holds entry.2 := by
  have noEntry : ∀ entry ∈ ([] : List (String × Datum)), Holds entry.2 := by simp
  exact foldl_put pairsHold List.nodup_nil noEntry

end Records

/-- What expressions denote: data and entities of the language, with well-formed schemas only. -/
inductive IsDenoted : Value → Prop
  | null : IsDenoted .null
  | bool (flag : Bool) : IsDenoted (.bool flag)
  | int (number : Int) : IsDenoted (.int number)
  | float (number : Binary64) : IsDenoted (.float number)
  | text (content : String) : IsDenoted (.text content)
  | list {items : List Value}
      (denoted : ∀ item ∈ items, IsDenoted item) :
      IsDenoted (.list items)
  | record {entries : List (String × Value)}
      (distinct : (entries.map Prod.fst).Nodup)
      (denoted : ∀ entry ∈ entries, IsDenoted entry.2) :
      IsDenoted (.record entries)
  | schema {node : Schema Value}
      (wellFormed : node.WellFormed) :
      IsDenoted (.schema node)
  | builder : IsDenoted .builder
  | coercions : IsDenoted .coercions
  | validators : IsDenoted .validators
  | method {target : Value} {name : String}
      (denoted : IsDenoted target) :
      IsDenoted (.method target name)
  | validator {name : String} : IsDenoted (.validator name)

theorem IsDenoted.wellFormed
    {node : Schema Value}
    (denoted : IsDenoted (.schema node)) :
    node.WellFormed := by
  cases denoted with
  | schema wellFormed => exact wellFormed

end Value

namespace Expression

/-! ## Arguments -/

/-- What is bound to a parameter is one of the arguments, or null. -/
theorem Signature.eq_null_or_mem_of_bind
    {signature : Signature}
    {arguments : List Value}
    {value : Value}
    {message : Option Value}
    (bound : signature.bind arguments = .ok (value, message)) :
    value = .null ∨ value ∈ arguments := by
  obtain ⟨owner, method, required, takesMessage⟩ := signature
  cases required with
  | none =>
      rcases arguments with _ | ⟨only, _ | ⟨second, rest⟩⟩ <;>
        cases takesMessage <;> simp_all [Signature.bind]
  | some parameter =>
      rcases arguments with _ | ⟨first, _ | ⟨second, _ | ⟨third, rest⟩⟩⟩ <;>
        cases takesMessage <;> simp_all [Signature.bind]

theorem schemaArgument_eq_ok_iff
    {place : String}
    {value : Value}
    {node : Schema Value} :
    schemaArgument place value = .ok node ↔ value = .schema node := by
  cases value <;> simp [schemaArgument]

theorem fieldArguments_eq_ok
    {entries : List (String × Value)}
    {fields : List (String × Schema Value)}
    (found : fieldArguments entries = .ok fields) :
    List.Forall₂ (fun entry field => entry.1 = field.1 ∧ entry.2 = .schema field.2)
      entries fields := by
  induction entries generalizing fields with
  | nil =>
      obtain rfl := Except.ok.inj found
      exact .nil
  | cons entry entries inductionHypothesis =>
      obtain ⟨key, value⟩ := entry
      obtain ⟨node, isNode, others⟩ := bind_eq_ok_iff.mp found
      obtain ⟨rest, traversed, same⟩ := bind_eq_ok_iff.mp others
      obtain rfl := Except.ok.inj same
      exact .cons ⟨rfl, schemaArgument_eq_ok_iff.mp isNode⟩ (inductionHypothesis traversed)

/-- The fields that a record of schemas gives are its entries. -/
theorem shapeArgument_eq_ok
    {value : Value}
    (denoted : value.IsDenoted)
    {fields : List (String × Schema Value)}
    (found : shapeArgument value = .ok fields) :
    (fields.map Prod.fst).Nodup ∧ ∀ field ∈ fields, field.2.WellFormed := by
  cases denoted with
  | @record entries distinct denoted =>
      have related := fieldArguments_eq_ok found
      have keys : entries.map Prod.fst = fields.map Prod.fst := by
        refine List.forall₂_eq_eq_eq ▸ ?_
        rw [List.forall₂_map_left_iff, List.forall₂_map_right_iff]
        exact related.imp fun _ _ pair => pair.1
      refine ⟨keys ▸ distinct, fun field member => ?_⟩
      obtain ⟨entry, listed, -, isField⟩ := exists_of_forall₂ related.flip member
      have entryDenoted := denoted entry listed
      rw [isField] at entryDenoted
      exact entryDenoted.wellFormed
  | _ => exact absurd found (by simp [shapeArgument])

theorem optionArguments_eq_ok
    {values : List Value}
    {options : List (Schema Value)}
    (found : Construction.optionArguments values = .ok options) :
    values = options.map .schema := by
  induction values generalizing options with
  | nil =>
      obtain rfl := Except.ok.inj found
      rfl
  | cons value values inductionHypothesis =>
      obtain ⟨node, isNode, others⟩ := bind_eq_ok_iff.mp found
      obtain ⟨rest, traversed, same⟩ := bind_eq_ok_iff.mp others
      obtain rfl := Except.ok.inj same
      rw [schemaArgument_eq_ok_iff.mp isNode, inductionHypothesis traversed]
      rfl

/-- The options of a union are at least two, and each is one of the given schemas. -/
theorem unionArgument_eq_ok
    {value : Value}
    (denoted : value.IsDenoted)
    {options : List (Schema Value)}
    (found : Construction.unionArgument value = .ok options) :
    2 ≤ options.length ∧ ∀ option ∈ options, option.WellFormed := by
  cases denoted with
  | @list items denoted =>
      simp only [Construction.unionArgument] at found
      split at found
      · exact absurd found (by simp)
      · next several =>
          obtain rfl := optionArguments_eq_ok found
          rw [List.length_map] at several
          refine ⟨Nat.not_lt.mp several, fun option member => ?_⟩
          exact (denoted _ (List.mem_map_of_mem member)).wellFormed
  | @record entries _ _ =>
      -- the keys of a record are texts and no schemas
      simp only [Construction.unionArgument] at found
      split at found
      · exact absurd found (by simp)
      · next several =>
          have texts := optionArguments_eq_ok found
          cases entries with
          | nil => exact absurd several (by simp)
          | cons entry entries => cases options <;> simp at texts
  | _ => exact absurd found (by simp [Construction.unionArgument])

theorem enumerationArgument_ne_nil
    {value : Value}
    {values : List Value}
    (found : Construction.enumerationArgument value = .ok values) :
    values ≠ [] := by
  unfold Construction.enumerationArgument at found
  split at found
  · exact absurd found (by simp)
  · split at found
    · exact absurd found (by simp)
    · next truthy =>
        split at found
        · obtain rfl := Except.ok.inj found
          simpa [Value.isTruthy] using truthy
        · obtain rfl := Except.ok.inj found
          simpa [Value.isTruthy] using truthy
        · exact absurd found (by simp)

/-! ## Schemas that are made and changed -/

/-- The builder makes well-formed schemas of what expressions denote. -/
theorem Construction.wellFormed_of_build
    {construction : Construction}
    {coerce : Bool}
    {value : Value}
    (denoted : value.IsDenoted)
    {node : Schema Value}
    (built : construction.build coerce value = .ok node) :
    node.WellFormed := by
  cases construction with
  | string =>
      obtain rfl := Except.ok.inj built
      exact .string (by simp)
  | number =>
      obtain rfl := Except.ok.inj built
      exact .number (by simp)
  | boolean =>
      obtain rfl := Except.ok.inj built
      exact .boolean rfl
  | any =>
      obtain rfl := Except.ok.inj built
      exact .any rfl
  | literal =>
      simp only [build] at built
      split at built
      · next scalar =>
          obtain rfl := Except.ok.inj built
          exact .literal rfl scalar
      · exact absurd built (by simp)
  | enumeration =>
      obtain ⟨values, found, rfl⟩ := map_eq_ok_iff.mp built
      exact .enumeration rfl (enumerationArgument_ne_nil found)
  | array =>
      obtain ⟨item, found, rfl⟩ := map_eq_ok_iff.mp built
      obtain rfl := schemaArgument_eq_ok_iff.mp found
      exact .array (by simp) denoted.wellFormed
  | object =>
      obtain ⟨fields, found, rfl⟩ := map_eq_ok_iff.mp built
      obtain ⟨distinct, wellFormed⟩ := shapeArgument_eq_ok denoted found
      exact .object rfl distinct wellFormed
  | union =>
      obtain ⟨options, found, rfl⟩ := map_eq_ok_iff.mp built
      obtain ⟨several, wellFormed⟩ := unionArgument_eq_ok denoted found
      exact .union rfl several wellFormed
  | optional | nullable =>
      obtain ⟨inner, found, rfl⟩ := map_eq_ok_iff.mp built
      obtain rfl := schemaArgument_eq_ok_iff.mp found
      have wellFormed := denoted.wellFormed
      exact wellFormed.withTraits fun step listed => wellFormed.allows listed

theorem read_of_patternArgument
    {value : Value}
    {characters : Text.CharacterNames}
    {pattern : Pattern}
    (found : patternArgument value characters = .ok pattern) :
    Pattern.read pattern.source characters = .ok pattern := by
  unfold patternArgument at found
  split at found
  · split at found
    · next read =>
        obtain rfl := Except.ok.inj found
        exact (Pattern.source_of_read read).symm ▸ read
    · exact absurd found (by simp)
    · exact absurd found (by simp)
  · split at found <;> exact absurd found (by simp)

namespace Modifier

/-- The kinds of schemas that a modifier belongs to. -/
def Modifies : Modifier → Schema Value → Prop
  | .optional, _ | .nullable, _ | .nullish, _ | .default, _ | .describe, _ => True
  | .minLength, .string .. | .minLength, .array .. => True
  | .maxLength, .string .. | .maxLength, .array .. => True
  | .exactLength, .string .. | .exactLength, .array .. => True
  | .nonempty, .string .. | .nonempty, .array .. => True
  | .pattern, .string .. | .format _, .string .. => True
  | .trim, .string .. | .lower, .string .. | .upper, .string .. => True
  | .integer, .number .. | .bound _, .number .. | .sign _, .number .. => True
  | .extend, .object .. => True
  | _, _ => False

/-- A schema offers only the modifiers that belong to its kind. -/
theorem modifies_of_named?
    {schema : Schema Value}
    {name : String}
    {modifier : Modifier}
    (named : named? schema name = some modifier) :
    modifier.Modifies schema := by
  obtain common | ⟨-, own⟩ := Option.or_eq_some_iff.mp named
  · unfold common? at common
    split at common <;> cases common <;> trivial
  · cases schema with
    | string =>
        simp only [own?, ofString?] at own
        split at own <;> cases own <;> trivial
    | number =>
        simp only [own?, ofNumber?] at own
        split at own <;> cases own <;> trivial
    | array =>
        simp only [own?, ofArray?] at own
        split at own <;> cases own <;> trivial
    | object =>
        simp only [own?, ofObject?] at own
        split at own
        · cases own
          trivial
        · exact absurd own (by simp)
    | _ => exact absurd own (by simp [own?])

/-- A modifier of its kind keeps a schema well-formed. -/
theorem wellFormed_of_apply
    {modifier : Modifier}
    {schema : Schema Value}
    (modifies : modifier.Modifies schema)
    (wellFormed : schema.WellFormed)
    {value : Value}
    (denoted : value.IsDenoted)
    {message : Option Value}
    {characters : Text.CharacterNames}
    {node : Schema Value}
    (applied : modifier.apply schema value message characters = .ok node) :
    node.WellFormed := by
  have unchanged : ∀ step ∈ schema.traits.steps, schema.Allows step.rule := fun _ listed =>
    wellFormed.allows listed
  cases modifier with
  | optional | nullable | nullish | default | describe =>
      obtain rfl := Except.ok.inj applied
      exact wellFormed.withTraits unchanged
  | minLength | maxLength | exactLength =>
      obtain ⟨bound, -, rfl⟩ := map_eq_ok_iff.mp applied
      cases schema <;> first | exact modifies.elim | exact wellFormed.addStep trivial |
        exact wellFormed.addStep rfl
  | nonempty =>
      obtain rfl := Except.ok.inj applied
      cases schema <;> first | exact modifies.elim | exact wellFormed.addStep trivial |
        exact wellFormed.addStep rfl
  | pattern =>
      obtain ⟨pattern, found, rfl⟩ := map_eq_ok_iff.mp applied
      cases schema <;> first | exact modifies.elim |
        exact wellFormed.addStep ⟨characters, read_of_patternArgument found⟩
  | format | trim | lower | upper | sign =>
      obtain rfl := Except.ok.inj applied
      cases schema <;> first | exact modifies.elim | exact wellFormed.addStep trivial
  | bound =>
      obtain ⟨bound, -, rfl⟩ := map_eq_ok_iff.mp applied
      cases schema <;> first | exact modifies.elim | exact wellFormed.addStep trivial
  | integer =>
      cases wellFormed with
      | number fitting =>
          obtain rfl := Except.ok.inj applied
          exact .number fitting
      | _ => exact modifies.elim
  | extend =>
      cases wellFormed with
      | object plain distinct wellFormed =>
          obtain ⟨added, found, rfl⟩ := map_eq_ok_iff.mp applied
          obtain ⟨-, addedWellFormed⟩ := shapeArgument_eq_ok denoted found
          obtain ⟨mergedDistinct, mergedWellFormed⟩ :=
            Value.foldl_put addedWellFormed distinct wellFormed
          exact .object plain mergedDistinct mergedWellFormed
      | _ => exact modifies.elim

end Modifier

/-- A method of what an expression denotes gives well-formed schemas. -/
theorem wellFormed_of_callMethod
    {target : Value}
    (targetDenoted : target.IsDenoted)
    {arguments : List Value}
    (denoted : ∀ argument ∈ arguments, argument.IsDenoted)
    {name : String}
    {characters : Text.CharacterNames}
    {node : Schema Value}
    (called : callMethod target name arguments characters = .ok node) :
    node.WellFormed := by
  have bound : ∀ {signature : Signature} {value message},
      signature.bind arguments = .ok (value, message) → value.IsDenoted := by
    intro signature value message bound
    obtain rfl | member := Signature.eq_null_or_mem_of_bind bound
    · exact .null
    · exact denoted value member
  have constructed : ∀ {construction : Construction} {coerce : Bool} {signature : Signature},
      (signature.bind arguments >>= fun found => construction.build coerce found.1) = .ok node →
        node.WellFormed := by
    intro construction coerce signature made
    obtain ⟨⟨value, message⟩, binds, built⟩ := bind_eq_ok_iff.mp made
    exact Construction.wellFormed_of_build (bound binds) built
  cases targetDenoted with
  | builder | coercions =>
      simp only [callMethod] at called
      split at called
      · exact constructed called
      · exact absurd called (by simp)
  | schema wellFormed =>
      simp only [callMethod] at called
      split at called
      · next modifier named =>
          obtain ⟨⟨value, message⟩, binds, applied⟩ := bind_eq_ok_iff.mp called
          exact Modifier.wellFormed_of_apply (Modifier.modifies_of_named? named) wellFormed
            (bound binds) applied
      · exact absurd called (by simp)
  | _ => exact absurd called (by simp [callMethod])

/-! ## Evaluation -/

/-- Registered validators that make well-formed schemas. -/
def Validators.WellFormed (validators : Validators) : Prop :=
  ∀ name validator, validators.get? name = some validator → validator.make.WellFormed

section Evaluation

variable {scope : Scope}

theorem isDenoted_of_nameValue?
    {name : String}
    {value : Value}
    (named : nameValue? name = some value) :
    value.IsDenoted := by
  unfold nameValue? at named
  split at named <;> cases named <;> constructor

theorem isDenoted_of_attributeOf
    {validators : Validators}
    {target : Value}
    (denoted : target.IsDenoted)
    {name : String}
    {position : Nat}
    {value : Value}
    (found : attributeOf validators target name position = .ok value) :
    value.IsDenoted := by
  unfold attributeOf at found
  split at found
  · split at found
    · obtain rfl := Except.ok.inj found
      exact .validator
    · exact absurd found (by simp)
  · split at found
    · obtain rfl := Except.ok.inj found
      exact .method denoted
    · split at found
      · obtain rfl := Except.ok.inj found
        exact .coercions
      · exact absurd found (by simp)

theorem isDenoted_of_callValue
    (registered : scope.validators.WellFormed)
    {function : Value}
    (denoted : function.IsDenoted)
    {arguments : List Value}
    (argumentsDenoted : ∀ argument ∈ arguments, argument.IsDenoted)
    {position : Nat}
    {value : Value}
    (called : callValue scope function arguments position = .ok value) :
    value.IsDenoted := by
  cases denoted with
  | @method target name denoted =>
      simp only [callValue] at called
      split at called
      · next node found =>
          obtain rfl := Except.ok.inj called
          exact .schema (wellFormed_of_callMethod denoted argumentsDenoted found)
      · exact absurd called (by simp)
  | validator =>
      simp only [callValue] at called
      split at called
      · split at called
        · next validator known =>
            obtain rfl := Except.ok.inj called
            exact .schema (.custom rfl (registered _ validator known))
        · exact absurd called (by simp [Error.located])
      · exact absurd called (by simp)
  | _ => exact absurd called (by simp [callValue])

mutual

/-- What an expression is evaluated to is denoted: its schemas are well-formed. -/
theorem isDenoted_of_evaluate
    (registered : scope.validators.WellFormed) :
    (expression : Expression) → {value : Value} →
      evaluate scope expression = .ok value → value.IsDenoted
  | .number numeral _, value, evaluated => by
      obtain rfl := Except.ok.inj evaluated
      cases numeral <;> constructor
  | .text content _, value, evaluated => by
      obtain rfl := Except.ok.inj evaluated
      exact .text content
  | .identifier name _, value, evaluated => by
      rw [evaluate] at evaluated
      split at evaluated
      · next found named =>
          obtain rfl := Except.ok.inj evaluated
          exact isDenoted_of_nameValue? named
      · exact absurd evaluated (by simp)
  | .attribute target name position, value, evaluated => by
      rw [evaluate] at evaluated
      obtain ⟨found, targetEvaluated, offered⟩ := bind_eq_ok_iff.mp evaluated
      exact isDenoted_of_attributeOf
        (isDenoted_of_evaluate registered target targetEvaluated) offered
  | .call function arguments position, value, evaluated => by
      rw [evaluate] at evaluated
      obtain ⟨called, functionEvaluated, others⟩ := bind_eq_ok_iff.mp evaluated
      split at others
      · obtain ⟨values, argumentsEvaluated, result⟩ := bind_eq_ok_iff.mp others
        exact isDenoted_of_callValue registered
          (isDenoted_of_evaluate registered function functionEvaluated)
          (isDenoted_of_evaluateItems registered arguments argumentsEvaluated) result
      · exact absurd others (by simp [throw, throwThe, MonadExceptOf.throw])
  | .list items _, value, evaluated => by
      rw [evaluate] at evaluated
      obtain ⟨values, itemsEvaluated, same⟩ := bind_eq_ok_iff.mp evaluated
      obtain rfl := Except.ok.inj same
      exact .list (isDenoted_of_evaluateItems registered items itemsEvaluated)
  | .record entries _, value, evaluated => by
      rw [evaluate] at evaluated
      obtain ⟨pairs, entriesEvaluated, same⟩ := bind_eq_ok_iff.mp evaluated
      obtain rfl := Except.ok.inj same
      obtain ⟨distinct, denoted⟩ := Value.gather_holds
        (isDenoted_of_evaluateEntries registered entries entriesEvaluated)
      exact .record distinct denoted

theorem isDenoted_of_evaluateItems
    (registered : scope.validators.WellFormed) :
    (items : List Expression) → {values : List Value} →
      evaluateItems scope items = .ok values → ∀ value ∈ values, value.IsDenoted
  | [], values, evaluated => by
      obtain rfl := Except.ok.inj evaluated
      simp
  | item :: items, values, evaluated => by
      rw [evaluateItems] at evaluated
      obtain ⟨first, itemEvaluated, others⟩ := bind_eq_ok_iff.mp evaluated
      obtain ⟨rest, itemsEvaluated, same⟩ := bind_eq_ok_iff.mp others
      obtain rfl := Except.ok.inj same
      exact List.forall_mem_cons.mpr ⟨isDenoted_of_evaluate registered item itemEvaluated,
        isDenoted_of_evaluateItems registered items itemsEvaluated⟩

theorem isDenoted_of_evaluateEntries
    (registered : scope.validators.WellFormed) :
    (entries : List (String × Expression)) → {pairs : List (String × Value)} →
      evaluateEntries scope entries = .ok pairs → ∀ pair ∈ pairs, pair.2.IsDenoted
  | [], pairs, evaluated => by
      obtain rfl := Except.ok.inj evaluated
      simp
  | (key, entry) :: entries, pairs, evaluated => by
      rw [evaluateEntries] at evaluated
      obtain ⟨first, entryEvaluated, others⟩ := bind_eq_ok_iff.mp evaluated
      obtain ⟨rest, entriesEvaluated, same⟩ := bind_eq_ok_iff.mp others
      obtain rfl := Except.ok.inj same
      exact List.forall_mem_cons.mpr ⟨isDenoted_of_evaluate registered entry entryEvaluated,
        isDenoted_of_evaluateEntries registered entries entriesEvaluated⟩

end

/--
If the registered validators are well-formed, then so is every schema that an expression
denotes, at every depth; whatever value it validates, no step is run on a value that lacks
what the step asks of it.
-/
theorem wellFormed_of_compile
    (registered : scope.validators.WellFormed)
    {source : String}
    {node : Schema Value}
    (compiled : compile scope source = .ok node) :
    node.WellFormed ∧ node.Supported := by
  have wellFormed : node.WellFormed := by
    simp only [compile] at compiled
    split at compiled
    · obtain rfl := Except.ok.inj compiled
      exact .string (by simp)
    · split at compiled
      · exact absurd compiled (by simp [throw, throwThe, MonadExceptOf.throw, bind, Except.bind])
      · obtain ⟨expression, -, others⟩ := bind_eq_ok_iff.mp compiled
        obtain ⟨value, evaluated, result⟩ := bind_eq_ok_iff.mp others
        split at result
        · obtain rfl := Except.ok.inj result
          exact (isDenoted_of_evaluate registered expression evaluated).wellFormed
        · exact absurd result (by simp [throw, throwThe, MonadExceptOf.throw])
  exact ⟨wellFormed, wellFormed.supported⟩

end Evaluation

/-- Texts of lower case letters. -/
def lowerWord : Pattern :=
  .ofSource "^[a-z]+$" (by decide +kernel)

/-- A registered validator of lower case words. -/
def wordValidators : Validators :=
  Registry.ofList
    [("word", .ofSchema (.string { steps := [⟨.pattern lowerWord, none⟩] } false))]

/-- `v.word()` within records, lists and unions. -/
def wordSource : String :=
  "z.object(\x7bkey: v.word()\x7d)" ++
    ".extend(\x7bkeys: z.array(z.union([v.word(), z.number().gt(0)])).min(1)\x7d)"

theorem wellFormed_of_compile_words :
    ∃ node, compile wordValidators wordSource = .ok node ∧ node.WellFormed ∧ node.Supported := by
  have registered : wordValidators.WellFormed := by
    intro name inner found
    have read : Pattern.read lowerWord.source = .ok lowerWord :=
      (Pattern.source_of_read (Pattern.read_ofSource _)).symm ▸ Pattern.read_ofSource _
    simp only [wordValidators, Registry.ofList, Registry.get?, List.lookup_cons] at found
    split at found
    · obtain rfl := Option.some.inj found
      exact .string (by simpa using ⟨.ascii, read⟩)
    · exact absurd found (by simp)
  have observed : (compile wordValidators wordSource).toOption.map Schema.kind =
      some "object" := by
    decide +kernel
  obtain ⟨node, compiled, -⟩ := exists_ok_of_toOption_map observed
  exact ⟨node, compiled, wellFormed_of_compile registered compiled⟩

end Expression
end RoutineGate
