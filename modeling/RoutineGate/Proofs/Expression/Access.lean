import RoutineGate.Proofs.Expression.Faults
import RoutineGate.Proofs.Expression.Typing

/-!
# What schema expressions have access to

An expression that denotes a schema names nothing but the builder, the registered validators
and the constants, takes nothing from a value that the value does not offer, and calls nothing
but what is offered, wherever in it that stands.  Of the registered validators it knows only
those that it names after a dot.
-/

namespace RoutineGate
namespace Expression

/-! ## What is offered -/

/-- The names that stand for a value. -/
def valueNames : List String :=
  ["z", "v", "true", "false", "null", "undefined"]

/-- The names of the modifiers of every schema. -/
def commonNames : List String :=
  ["optional", "nullable", "nullish", "default", "describe"]

/-- The names of the modifiers that only one kind of schema has. -/
def ownNames : Schema Value → List String
  | .string .. =>
      ["min", "max", "length", "nonempty", "regex", "email", "url", "uuid", "datetime", "trim",
        "toLowerCase", "toUpperCase"]
  | .number .. =>
      ["int", "min", "max", "gt", "gte", "lt", "lte", "positive", "nonnegative", "negative",
        "nonpositive"]
  | .array .. => ["min", "max", "length", "nonempty"]
  | .object .. => ["extend"]
  | _ => []

/-- The names of the methods that a value offers. -/
def methodNames : Value → List String
  | .builder =>
      ["string", "number", "boolean", "any", "literal", "enum", "array", "object", "union",
        "optional", "nullable"]
  | .coercions => ["string", "number", "boolean"]
  | .schema node => commonNames ++ ownNames node
  | _ => []

/-- The names of the values that a value offers. -/
def attributeNames : Value → List String
  | .builder => ["coerce"]
  | _ => []

theorem isSome_common?_iff (name : String) :
    (Modifier.common? name).isSome = true ↔ name ∈ commonNames := by
  unfold Modifier.common? commonNames
  split <;> simp_all

theorem isSome_own?_iff (node : Schema Value) (name : String) :
    (Modifier.own? node name).isSome = true ↔ name ∈ ownNames node := by
  cases node with
  | string =>
      simp only [Modifier.own?, Modifier.ofString?, ownNames]
      split <;> simp_all
  | number =>
      simp only [Modifier.own?, Modifier.ofNumber?, ownNames]
      split <;> simp_all
  | array =>
      simp only [Modifier.own?, Modifier.ofArray?, ownNames]
      split <;> simp_all
  | object =>
      simp only [Modifier.own?, Modifier.ofObject?, ownNames]
      split <;> simp_all
  | _ => simp [Modifier.own?, ownNames]

/-- A value has exactly the methods that it offers. -/
theorem hasMethod_iff (target : Value) (name : String) :
    hasMethod target name = true ↔ name ∈ methodNames target := by
  cases target with
  | builder =>
      simp only [hasMethod, methodNames, Construction.named?]
      split <;> simp_all
  | coercions =>
      simp only [hasMethod, methodNames, Construction.coercing?]
      split <;> simp_all
  | schema node =>
      simp only [hasMethod, methodNames, Modifier.named?, Option.isSome_or, Bool.or_eq_true,
        isSome_common?_iff, isSome_own?_iff, List.mem_append]
  | _ => simp [hasMethod, methodNames]

/-- What may be taken from a value under a name. -/
inductive Offers (validators : Validators) : Value → String → Prop
  | validator {name : String} {validator : Validator}
      (registered : validators.get? name = some validator) :
      Offers validators .validators name
  | method {value : Value} {name : String}
      (listed : name ∈ methodNames value) :
      Offers validators value name
  | property {value : Value} {name : String}
      (listed : name ∈ attributeNames value) :
      Offers validators value name

/-- What may be called: a method of the value that offers it, or a registered validator. -/
inductive MayBeCalled (validators : Validators) : Value → Prop
  | method {target : Value} {name : String}
      (listed : name ∈ methodNames target) :
      MayBeCalled validators (.method target name)
  | validator {name : String} {validator : Validator}
      (registered : validators.get? name = some validator) :
      MayBeCalled validators (.validator name)

/-! ## Parts of an expression -/

/-- An expression within another one, at any depth. -/
inductive IsPart (part : Expression) : Expression → Prop
  | self : IsPart part part
  | target {target : Expression} {name : String} {position : Nat}
      (within : IsPart part target) :
      IsPart part (.attribute target name position)
  | function {function : Expression} {arguments : List Expression} {position : Nat}
      (within : IsPart part function) :
      IsPart part (.call function arguments position)
  | argument {function argument : Expression} {arguments : List Expression} {position : Nat}
      (member : argument ∈ arguments)
      (within : IsPart part argument) :
      IsPart part (.call function arguments position)
  | item {item : Expression} {items : List Expression} {position : Nat}
      (member : item ∈ items)
      (within : IsPart part item) :
      IsPart part (.list items position)
  /-- An entry counts also if a later one has its key. -/
  | entry {key : String} {entry : Expression} {entries : List (String × Expression)}
      {position : Nat}
      (member : (key, entry) ∈ entries)
      (within : IsPart part entry) :
      IsPart part (.record entries position)

/-- An expression that names, takes or calls, if anything, what it may. -/
def IsAllowed (scope : Scope) : Expression → Prop
  | .identifier name _ => name ∈ valueNames
  | .attribute target name _ =>
      ∃ value, evaluate scope target = .ok value ∧ Offers scope.validators value name
  | .call function _ _ =>
      ∃ callee, evaluate scope function = .ok callee ∧ MayBeCalled scope.validators callee
  | _ => True

section Evaluation

variable {scope : Scope} {validators : Validators}

theorem mem_valueNames_of_nameValue?
    {name : String}
    {value : Value}
    (named : nameValue? name = some value) :
    name ∈ valueNames := by
  unfold nameValue? at named
  split at named <;> simp_all [valueNames]

theorem offers_of_attributeOf
    {target : Value}
    {name : String}
    {position : Nat}
    {value : Value}
    (found : attributeOf validators target name position = .ok value) :
    Offers validators target name := by
  unfold attributeOf at found
  split at found
  · split at found
    · next contained =>
        obtain ⟨validator, registered⟩ := Option.isSome_iff_exists.mp contained
        exact .validator registered
    · exact absurd found (by simp)
  · split at found
    · next offered => exact .method ((hasMethod_iff target name).mp offered)
    · split at found
      · exact .property (by simp [attributeNames])
      · exact absurd found (by simp)

theorem mayBeCalled_of_attributeOf
    {target : Value}
    {name : String}
    {position : Nat}
    {callee : Value}
    (found : attributeOf validators target name position = .ok callee)
    (callable : isCallable callee = true) :
    MayBeCalled validators callee := by
  unfold attributeOf at found
  split at found
  · split at found
    · next contained =>
        obtain ⟨validator, registered⟩ := Option.isSome_iff_exists.mp contained
        obtain rfl := Except.ok.inj found
        exact .validator registered
    · exact absurd found (by simp)
  · split at found
    · next offered =>
        obtain rfl := Except.ok.inj found
        exact .method ((hasMethod_iff target name).mp offered)
    · split at found
      · obtain rfl := Except.ok.inj found
        exact absurd callable (by simp [isCallable])
      · exact absurd found (by simp)

theorem eq_of_attributeOf_eq_validator
    {target : Value}
    {label name : String}
    {position : Nat}
    (found : attributeOf validators target label position = .ok (.validator name)) :
    name = label := by
  unfold attributeOf at found
  split at found
  · split at found
    · exact (Value.validator.inj (Except.ok.inj found)).symm
    · exact absurd found (by simp)
  · split at found
    · exact absurd (Except.ok.inj found) (by simp)
    · split at found
      · exact absurd (Except.ok.inj found) (by simp)
      · exact absurd found (by simp)

theorem exists_schema_of_callValue
    {function : Value}
    {arguments : List Value}
    {position : Nat}
    {value : Value}
    (called : callValue scope function arguments position = .ok value) :
    ∃ node, value = .schema node := by
  unfold callValue at called
  split at called
  · split at called
    · next node _ => exact ⟨node, (Except.ok.inj called).symm⟩
    · exact absurd called (by simp)
  · next name =>
      split at called
      · split at called
        · next validator _ =>
            exact ⟨.custom {} name validator.make, (Except.ok.inj called).symm⟩
        · exact absurd called (by simp)
      · exact absurd called (by simp)
  · exact absurd called (by simp)

/-- Only an attribute denotes something that may be called, and the attribute is offered. -/
theorem mayBeCalled_of_evaluate
    {callee : Value}
    (callable : isCallable callee = true) :
    (function : Expression) → evaluate scope function = .ok callee →
      MayBeCalled scope.validators callee
  | .number numeral _, evaluated => by
      obtain rfl := Except.ok.inj evaluated
      cases numeral <;> exact absurd callable (by simp [Value.ofNumeral, isCallable])
  | .text content _, evaluated => by
      obtain rfl := Except.ok.inj evaluated
      exact absurd callable (by simp [isCallable])
  | .identifier name _, evaluated => by
      rw [evaluate] at evaluated
      split at evaluated
      · next named =>
          obtain rfl := Except.ok.inj evaluated
          unfold nameValue? at named
          split at named <;> cases named <;> exact absurd callable (by simp [isCallable])
      · exact absurd evaluated (by simp)
  | .attribute target name _, evaluated => by
      rw [evaluate] at evaluated
      obtain ⟨value, -, found⟩ := bind_eq_ok_iff.mp evaluated
      exact mayBeCalled_of_attributeOf found callable
  | .call function arguments _, evaluated => by
      rw [evaluate] at evaluated
      obtain ⟨called, -, others⟩ := bind_eq_ok_iff.mp evaluated
      split at others
      · obtain ⟨values, -, result⟩ := bind_eq_ok_iff.mp others
        obtain ⟨node, rfl⟩ := exists_schema_of_callValue result
        exact absurd callable (by simp [isCallable])
      · exact absurd others throw_ne_ok
  | .list items _, evaluated => by
      rw [evaluate] at evaluated
      obtain ⟨values, -, same⟩ := bind_eq_ok_iff.mp evaluated
      obtain rfl := Except.ok.inj same
      exact absurd callable (by simp [isCallable])
  | .record entries _, evaluated => by
      rw [evaluate] at evaluated
      obtain ⟨pairs, -, same⟩ := bind_eq_ok_iff.mp evaluated
      obtain rfl := Except.ok.inj same
      exact absurd callable (by simp [isCallable])

/-- An expression that denotes a value is allowed itself. -/
theorem isAllowed_self
    {value : Value} :
    (expression : Expression) → evaluate scope expression = .ok value →
      IsAllowed scope expression
  | .number .., _ | .text .., _ | .list .., _ | .record .., _ => trivial
  | .identifier name _, evaluated => by
      rw [evaluate] at evaluated
      split at evaluated
      · next named => exact mem_valueNames_of_nameValue? named
      · exact absurd evaluated (by simp)
  | .attribute target name _, evaluated => by
      rw [evaluate] at evaluated
      obtain ⟨found, targetEvaluated, taken⟩ := bind_eq_ok_iff.mp evaluated
      exact ⟨found, targetEvaluated, offers_of_attributeOf taken⟩
  | .call function arguments _, evaluated => by
      rw [evaluate] at evaluated
      obtain ⟨callee, functionEvaluated, others⟩ := bind_eq_ok_iff.mp evaluated
      split at others
      · next callable =>
          exact ⟨callee, functionEvaluated,
            mayBeCalled_of_evaluate callable function functionEvaluated⟩
      · exact absurd others throw_ne_ok

theorem exists_of_evaluateItems
    {items : List Expression}
    {values : List Value}
    (evaluated : evaluateItems scope items = .ok values)
    {item : Expression}
    (member : item ∈ items) :
    ∃ value, evaluate scope item = .ok value := by
  rw [evaluateItems_eq_mapM] at evaluated
  obtain ⟨value, -, itemEvaluated⟩ := exists_of_forall₂ (mapM_eq_ok_iff.mp evaluated) member
  exact ⟨value, itemEvaluated⟩

theorem exists_of_evaluateEntries
    {entries : List (String × Expression)}
    {pairs : List (String × Value)}
    (evaluated : evaluateEntries scope entries = .ok pairs)
    {key : String}
    {entry : Expression}
    (member : (key, entry) ∈ entries) :
    ∃ value, evaluate scope entry = .ok value := by
  rw [evaluateEntries_eq_mapM] at evaluated
  obtain ⟨pair, -, entryEvaluated⟩ := exists_of_forall₂ (mapM_eq_ok_iff.mp evaluated) member
  obtain ⟨value, entryEvaluated, -⟩ := map_eq_ok_iff.mp entryEvaluated
  exact ⟨value, entryEvaluated⟩

/-- Every part of an expression that denotes a value denotes one. -/
theorem exists_of_isPart
    {part whole : Expression}
    (within : IsPart part whole)
    {value : Value}
    (evaluated : evaluate scope whole = .ok value) :
    ∃ found, evaluate scope part = .ok found := by
  induction within generalizing value with
  | self => exact ⟨value, evaluated⟩
  | target _ inductionHypothesis =>
      rw [evaluate] at evaluated
      obtain ⟨found, targetEvaluated, -⟩ := bind_eq_ok_iff.mp evaluated
      exact inductionHypothesis targetEvaluated
  | function _ inductionHypothesis =>
      rw [evaluate] at evaluated
      obtain ⟨callee, functionEvaluated, -⟩ := bind_eq_ok_iff.mp evaluated
      exact inductionHypothesis functionEvaluated
  | argument member _ inductionHypothesis =>
      rw [evaluate] at evaluated
      obtain ⟨callee, -, others⟩ := bind_eq_ok_iff.mp evaluated
      split at others
      · obtain ⟨values, argumentsEvaluated, -⟩ := bind_eq_ok_iff.mp others
        obtain ⟨found, argumentEvaluated⟩ := exists_of_evaluateItems argumentsEvaluated member
        exact inductionHypothesis argumentEvaluated
      · exact absurd others throw_ne_ok
  | item member _ inductionHypothesis =>
      rw [evaluate] at evaluated
      obtain ⟨values, itemsEvaluated, -⟩ := bind_eq_ok_iff.mp evaluated
      obtain ⟨found, itemEvaluated⟩ := exists_of_evaluateItems itemsEvaluated member
      exact inductionHypothesis itemEvaluated
  | entry member _ inductionHypothesis =>
      rw [evaluate] at evaluated
      obtain ⟨pairs, entriesEvaluated, -⟩ := bind_eq_ok_iff.mp evaluated
      obtain ⟨found, entryEvaluated⟩ := exists_of_evaluateEntries entriesEvaluated member
      exact inductionHypothesis entryEvaluated

/-- Every part of an expression that denotes a value is allowed. -/
theorem isAllowed_of_isPart
    {part whole : Expression}
    (within : IsPart part whole)
    {value : Value}
    (evaluated : evaluate scope whole = .ok value) :
    IsAllowed scope part := by
  obtain ⟨found, partEvaluated⟩ := exists_of_isPart within evaluated
  exact isAllowed_self part partEvaluated

end Evaluation

/-! ## What the registered validators are asked for -/

mutual

/-- The names after the dots of an expression. -/
def dottedNames : Expression → List String
  | .number .. | .text .. | .identifier .. => []
  | .attribute target name _ => name :: dottedNames target
  | .call function arguments _ => dottedNames function ++ dottedNamesOfItems arguments
  | .list items _ => dottedNamesOfItems items
  | .record entries _ => dottedNamesOfEntries entries

/-- The names after the dots of several expressions. -/
def dottedNamesOfItems : List Expression → List String
  | [] => []
  | item :: items => dottedNames item ++ dottedNamesOfItems items

/-- The names after the dots of keyed expressions. -/
def dottedNamesOfEntries : List (String × Expression) → List String
  | [] => []
  | (_, entry) :: entries => dottedNames entry ++ dottedNamesOfEntries entries

end

/-- Registries that have the same validators under some names. -/
def AgreeOn (names : List String) (validators others : Validators) : Prop :=
  ∀ name ∈ names, validators.get? name = others.get? name

section Agreement

variable {scope : Scope} {validators others : Validators}

theorem agreeOn_append_iff {first second : List String} :
    AgreeOn (first ++ second) validators others ↔
      AgreeOn first validators others ∧ AgreeOn second validators others :=
  List.forall_mem_append

theorem attributeOf_congr
    {name : String}
    (agree : validators.get? name = others.get? name)
    (target : Value)
    (position : Nat) :
    attributeOf validators target name position = attributeOf others target name position := by
  have known : validators.contains name = others.contains name := by
    simp only [Registry.contains, agree]
  cases target <;> simp only [attributeOf, known]

/-- A value that stands for a validator has its name from a dot. -/
theorem mem_dottedNames_of_evaluate
    {name : String} :
    (expression : Expression) → evaluate scope expression = .ok (.validator name) →
      name ∈ expression.dottedNames
  | .number numeral _, evaluated => by
      cases numeral <;> exact absurd evaluated (by simp [evaluate, Value.ofNumeral])
  | .text .., evaluated => absurd evaluated (by simp [evaluate])
  | .identifier label _, evaluated => by
      rw [evaluate] at evaluated
      split at evaluated
      · next named =>
          obtain rfl := Except.ok.inj evaluated
          exact absurd named (by unfold nameValue?; split <;> simp)
      · exact absurd evaluated (by simp)
  | .attribute target label _, evaluated => by
      rw [evaluate] at evaluated
      obtain ⟨value, -, found⟩ := bind_eq_ok_iff.mp evaluated
      obtain rfl := eq_of_attributeOf_eq_validator found
      exact List.mem_cons_self
  | .call function arguments _, evaluated => by
      rw [evaluate] at evaluated
      obtain ⟨callee, -, others⟩ := bind_eq_ok_iff.mp evaluated
      split at others
      · obtain ⟨values, -, result⟩ := bind_eq_ok_iff.mp others
        obtain ⟨node, same⟩ := exists_schema_of_callValue result
        exact absurd same (by simp)
      · exact absurd others throw_ne_ok
  | .list .., evaluated => by
      rw [evaluate] at evaluated
      obtain ⟨values, -, same⟩ := bind_eq_ok_iff.mp evaluated
      exact absurd (Except.ok.inj same) (by simp)
  | .record .., evaluated => by
      rw [evaluate] at evaluated
      obtain ⟨pairs, -, same⟩ := bind_eq_ok_iff.mp evaluated
      exact absurd (Except.ok.inj same) (by simp)

theorem callValue_congr
    {function : Value}
    (agree : ∀ name, function = .validator name →
      scope.validators.get? name = others.get? name)
    (arguments : List Value)
    (position : Nat) :
    callValue scope function arguments position =
      callValue { scope with validators := others } function arguments position := by
  cases function with
  | validator name => simp only [callValue, agree name rfl]
  | _ => rfl

mutual

/-- An expression denotes the same for registries that agree on the names after its dots. -/
theorem evaluate_congr :
    (expression : Expression) → AgreeOn expression.dottedNames scope.validators others →
      evaluate scope expression = evaluate { scope with validators := others } expression
  | .number .., _ | .text .., _ | .identifier .., _ => rfl
  | .attribute target name position, agree => by
      obtain ⟨here, within⟩ := List.forall_mem_cons.mp agree
      simp only [evaluate, evaluate_congr target within, attributeOf_congr here]
  | .call function arguments position, agree => by
      obtain ⟨first, rest⟩ := agreeOn_append_iff.mp agree
      simp only [evaluate, ← evaluate_congr function first, ← evaluateItems_congr arguments rest]
      cases evaluated : evaluate scope function with
      | error error => rfl
      | ok callee =>
          -- the callee may be a validator, which is looked up once more when it is called
          have found : ∀ name, callee = .validator name →
              scope.validators.get? name = others.get? name := fun name same =>
            first name (mem_dottedNames_of_evaluate function (same ▸ evaluated))
          simp only [bind, Except.bind, callValue_congr found]
  | .list items position, agree => by
      simp only [evaluate, evaluateItems_congr items agree]
  | .record entries position, agree => by
      simp only [evaluate, evaluateEntries_congr entries agree]

theorem evaluateItems_congr :
    (items : List Expression) → AgreeOn (dottedNamesOfItems items) scope.validators others →
      evaluateItems scope items = evaluateItems { scope with validators := others } items
  | [], _ => rfl
  | item :: items, agree => by
      obtain ⟨first, rest⟩ := agreeOn_append_iff.mp agree
      simp only [evaluateItems, evaluate_congr item first, evaluateItems_congr items rest]

theorem evaluateEntries_congr :
    (entries : List (String × Expression)) →
      AgreeOn (dottedNamesOfEntries entries) scope.validators others →
        evaluateEntries scope entries =
          evaluateEntries { scope with validators := others } entries
  | [], _ => rfl
  | (key, entry) :: entries, agree => by
      obtain ⟨first, rest⟩ := agreeOn_append_iff.mp agree
      simp only [evaluateEntries, evaluate_congr entry first, evaluateEntries_congr entries rest]

end

end Agreement

/-! ## Schemas -/

section Compilation

variable {scope : Scope} {source : String}

/-- An expression that is compiled is blank, or it is read and denotes the schema. -/
theorem exists_tree_of_compile
    {node : Schema Value}
    (compiled : compile scope source = .ok node) :
    Text.trimmed source = "" ∨
      ∃ tree, read (Text.trimmed source) scope.characters = .ok tree ∧
        evaluate scope tree = .ok (.schema node) := by
  simp only [compile] at compiled
  generalize Text.trimmed source = trimmed at compiled ⊢
  split at compiled
  · next empty => exact .inl (String.isEmpty_iff.mp empty)
  · split at compiled
    · exact absurd compiled (by simp [throw, throwThe, MonadExceptOf.throw, bind, Except.bind])
    · obtain ⟨tree, isTree, others⟩ := bind_eq_ok_iff.mp compiled
      obtain ⟨value, evaluated, result⟩ := bind_eq_ok_iff.mp others
      split at result
      · obtain rfl := Except.ok.inj result
        exact .inr ⟨tree, isTree, evaluated⟩
      · exact absurd result throw_ne_ok

theorem compile_congr
    {others : Validators}
    (agree : ∀ tree, read (Text.trimmed source) scope.characters = .ok tree →
      AgreeOn tree.dottedNames scope.validators others) :
    compile scope source = compile { scope with validators := others } source := by
  have evaluated : (read (Text.trimmed source) scope.characters >>= evaluate scope) =
      (read (Text.trimmed source) scope.characters >>=
        evaluate { scope with validators := others }) := by
    cases isTree : read (Text.trimmed source) scope.characters with
    | error error => rfl
    | ok tree => exact evaluate_congr tree (agree tree isTree)
  simp only [compile, ← bind_assoc, evaluated]

/--
An expression that is compiled is blank, or every part of it is allowed; with a part that is
not allowed, wherever it stands, it is not compiled.  What it is compiled to, or what error it
ends with, is the same for registries that agree on the names after its dots.
-/
theorem isAllowed_of_compile (scope : Scope) (source : String) :
    (∀ node, compile scope source = .ok node →
      Text.trimmed source = "" ∨
        ∃ tree, read (Text.trimmed source) scope.characters = .ok tree ∧
          ∀ part, IsPart part tree → IsAllowed scope part) ∧
    (∀ tree part, read (Text.trimmed source) scope.characters = .ok tree → IsPart part tree →
      ¬IsAllowed scope part → ∃ error, compile scope source = .error error) ∧
    ∀ others : Validators,
      (∀ tree, read (Text.trimmed source) scope.characters = .ok tree →
        AgreeOn tree.dottedNames scope.validators others) →
      compile scope source = compile { scope with validators := others } source := by
  refine ⟨?_, ?_, fun others => compile_congr⟩
  · intro node compiled
    obtain blank | ⟨tree, isTree, evaluated⟩ := exists_tree_of_compile compiled
    · exact .inl blank
    · exact .inr ⟨tree, isTree, fun part within => isAllowed_of_isPart within evaluated⟩
  · intro tree part isTree within forbidden
    cases compiled : compile scope source with
    | error error => exact ⟨error, rfl⟩
    | ok node =>
        obtain blank | ⟨other, isOther, evaluated⟩ := exists_tree_of_compile compiled
        · have unread : read "" scope.characters =
              .error (.located (.unexpected "end of expression") 0) := rfl
          rw [blank, unread] at isTree
          exact absurd isTree (by simp)
        · obtain rfl := Except.ok.inj (isTree.symm.trans isOther)
          exact absurd (isAllowed_of_isPart within evaluated) forbidden

end Compilation

/-- A record in which the first of two entries with one key is lost. -/
def twiceKeyed : String :=
  "z.object(\x7ba: v.word(), a: z.coerce.number().int()\x7d)"

theorem isAllowed_of_compile_twiceKeyed :
    ∃ node tree, compile wordValidators twiceKeyed = .ok node ∧
      read (Text.trimmed twiceKeyed) = .ok tree ∧
      (∀ part, IsPart part tree → IsAllowed wordValidators part) ∧
      compile (wordValidators.add "other" (.ofSchema (.any {}))) twiceKeyed = .ok node := by
  have observed : (compile wordValidators twiceKeyed).toOption.map Schema.kind =
      some "object" := by
    decide +kernel
  have named : (read (Text.trimmed twiceKeyed)).toOption.map (fun tree =>
      decide ("other" ∈ tree.dottedNames)) = some false := by
    decide +kernel
  obtain ⟨node, compiled, -⟩ := exists_ok_of_toOption_map observed
  obtain ⟨tree, isTree, unnamed⟩ := exists_ok_of_toOption_map named
  obtain ⟨allowed, -, congruent⟩ := isAllowed_of_compile wordValidators twiceKeyed
  have agree : ∀ other, read (Text.trimmed twiceKeyed) = .ok other →
      AgreeOn other.dottedNames wordValidators
        (wordValidators.add "other" (.ofSchema (.any {}))) := by
    intro other isOther name member
    obtain rfl := Except.ok.inj (isTree.symm.trans isOther)
    have different : name ≠ "other" := by
      rintro rfl
      exact of_decide_eq_false unnamed member
    exact (Registry.get?_add_of_ne different wordValidators _).symm
  refine ⟨node, tree, compiled, isTree, ?_, (congruent _ agree).symm.trans compiled⟩
  obtain blank | ⟨other, isOther, allParts⟩ := allowed node compiled
  · exact absurd blank (by decide +kernel)
  · obtain rfl := Except.ok.inj (isTree.symm.trans isOther)
    exact allParts

end Expression
end RoutineGate
