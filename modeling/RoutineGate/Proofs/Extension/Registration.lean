import Mathlib.Data.List.Induction
import Mathlib.Data.List.Nodup
import Mathlib.Data.String.Basic
import RoutineGate.Extension.Registration
import RoutineGate.Proofs.Json.Reading

/-!
# Runs of registrations

Registering changes a registry in place: the name, the argument and what making it gives are
looked at one after the other, and only then is something assigned, which by itself would
overwrite what is there.  Whatever calls are made, and whichever of them fail, a name stands for
the argument of the first call for it that succeeded.
-/

namespace RoutineGate
namespace Registry

variable {Entry Argument Problem : Type}

/-- Changes of a registry in place, which an error ends where they stand. -/
abbrev Change (Entry Problem : Type) := ExceptT Problem (StateM (Registry Entry))

/-- What a change answers, and the registry it leaves. -/
def perform (change : Change Entry Problem Unit) (registry : Registry Entry) :
    Except Problem Unit × Registry Entry :=
  change.run.run registry

section Perform

variable (registry : Registry Entry)

@[simp] theorem perform_get_bind (next : Registry Entry → Change Entry Problem Unit) :
    perform (get >>= next) registry = perform (next registry) registry := rfl

@[simp] theorem perform_throw (problem : Problem) :
    perform (throw problem) registry = (.error problem, registry) := rfl

@[simp] theorem perform_modify (update : Registry Entry → Registry Entry) :
    perform (modify update : Change Entry Problem Unit) registry = (.ok (), update registry) := rfl

end Perform

/-- Lets a name stand for an entry, whatever it stood for before. -/
def assign (name : String) (entry : Entry) (registry : Registry Entry) : Registry Entry :=
  ⟨Value.put name entry registry.entries⟩

/-- Registers a hook in place. -/
def hookCall {Hook : Type} (name : String) (hook? : Option Hook) : Change Hook HookError Unit := do
  if (← get).contains name then throw (.duplicate name)
  match hook? with
  | some hook => modify (assign name hook)
  | none => throw (.notCallable name)

/-- Registers a factory of validators in place, if a first call of it makes a schema. -/
def validatorCall (name : String) (factory : ValidatorOutcome) :
    Change Validator ValidatorError Unit := do
  if (← get).contains name then throw (.duplicate name)
  match factory with
  | .failure reason => throw (.selfTest name reason)
  | .value (.schema node) => modify (assign name (.ofSchema node))
  | .value value => throw (.notSchema name value.typeName)

/-- The validator of a factory that makes a schema. -/
def validator? : ValidatorOutcome → Option Validator
  | .value (.schema node) => some (.ofSchema node)
  | _ => none

/-! ## Runs -/

section Runs

/-- The registry after some calls; one that fails does not end the others. -/
def afterCalls (call : String → Argument → Change Entry Problem Unit)
    (calls : List (String × Argument)) : Registry Entry :=
  calls.foldl (fun registry next => (perform (call next.1 next.2) registry).2) .empty

/-- A call that comes after others succeeds. -/
def Succeeds (call : String → Argument → Change Entry Problem Unit)
    (before : List (String × Argument)) (name : String) (argument : Argument) : Prop :=
  (perform (call name argument) (afterCalls call before)).1 = .ok ()

/-- Among some calls is one for a name, with an argument, that succeeds in its turn. -/
def IsRegistered (call : String → Argument → Change Entry Problem Unit)
    (calls : List (String × Argument)) (name : String) (argument : Argument) : Prop :=
  ∃ before later, calls = before ++ (name, argument) :: later ∧ Succeeds call before name argument

/-- A registry keeps what is registered first. -/
structure KeepsFirst (call : String → Argument → Change Entry Problem Unit)
    (content? : Argument → Option Entry) : Prop where
  /-- A call that fails leaves any registry as it was. -/
  unchanged : ∀ name argument registry problem left,
    perform (call name argument) registry = (.error problem, left) → left = registry
  /-- A call succeeds exactly if its argument is fit and each earlier one for the name failed. -/
  succeeds_iff : ∀ before name argument, Succeeds call before name argument ↔
    (content? argument).isSome = true ∧
      ∀ earlier other later, before = earlier ++ (name, other) :: later →
        ¬Succeeds call earlier name other
  /-- A name stands for the argument of the call for it that succeeded. -/
  get?_iff : ∀ calls name entry, (afterCalls call calls).get? name = some entry ↔
    ∃ argument, IsRegistered call calls name argument ∧ content? argument = some entry
  /-- What a name stands for tells the argument. -/
  argument_eq : ∀ argument other entry,
    content? argument = some entry → content? other = some entry → argument = other
  /-- Whatever is called later, it goes on to stand for it. -/
  kept : ∀ calls more name entry, (afterCalls call calls).get? name = some entry →
    (afterCalls call (calls ++ more)).get? name = some entry
  /-- The names are sorted, each of them once. -/
  sorted : ∀ calls, (afterCalls call calls).names.Pairwise (· < ·)
  mem_names_iff : ∀ calls name, name ∈ (afterCalls call calls).names ↔
    ∃ argument, IsRegistered call calls name argument
  size_eq : ∀ calls, (afterCalls call calls).size = (afterCalls call calls).names.length
  contains_iff : ∀ calls name, (afterCalls call calls).contains name = true ↔
    name ∈ (afterCalls call calls).names

variable (call : String → Argument → Change Entry Problem Unit)

theorem afterCalls_concat
    (calls : List (String × Argument))
    (name : String)
    (argument : Argument) :
    afterCalls call (calls ++ [(name, argument)]) =
      (perform (call name argument) (afterCalls call calls)).2 := by
  rw [afterCalls, List.foldl_concat, afterCalls]

/-- An element of a list with one more at the end is that one, or was there before. -/
theorem cases_of_concat_eq
    {Item : Type}
    {items before later : List Item}
    {last item : Item}
    (whole : items ++ [last] = before ++ item :: later) :
    (items = before ∧ last = item) ∨ ∃ more, items = before ++ item :: more := by
  obtain rfl | ⟨more, next, rfl⟩ := List.eq_nil_or_concat later
  · obtain ⟨rfl, same⟩ := List.append_inj' whole rfl
    exact .inl ⟨rfl, List.singleton_injective same⟩
  · rw [List.concat_eq_append, ← List.cons_append, ← List.append_assoc] at whole
    exact .inr ⟨more, (List.append_inj' whole rfl).1⟩

/-- What is registered after one more call was so before, or is what the call succeeds with. -/
theorem isRegistered_concat_iff
    {calls : List (String × Argument)}
    {name other : String}
    {argument next : Argument} :
    IsRegistered call (calls ++ [(other, next)]) name argument ↔
      IsRegistered call calls name argument ∨
        (other, next) = (name, argument) ∧ Succeeds call calls name argument := by
  constructor
  · rintro ⟨before, later, whole, succeeds⟩
    obtain ⟨rfl, same⟩ | ⟨more, rfl⟩ := cases_of_concat_eq whole
    · exact .inr ⟨same, succeeds⟩
    · exact .inl ⟨before, more, rfl, succeeds⟩
  · rintro (⟨before, later, rfl, succeeds⟩ | ⟨same, succeeds⟩)
    · exact ⟨before, later ++ [(other, next)], by simp, succeeds⟩
    · exact ⟨calls, [], by rw [same], succeeds⟩

end Runs

/-! ## Registering in place -/

section InPlace

variable {register : Registry Entry → String → Argument → Except Problem (Registry Entry)}
variable {call : String → Argument → Change Entry Problem Unit}
variable {content? : Argument → Option Entry}

/-- A call does in place what registering does, and changes nothing where that fails. -/
def IsInPlace (call : String → Argument → Change Entry Problem Unit)
    (register : Registry Entry → String → Argument → Except Problem (Registry Entry)) : Prop :=
  ∀ name argument registry, perform (call name argument) registry =
    match register registry name argument with
    | .ok next => (.ok (), next)
    | .error problem => (.error problem, registry)

/-- Registering adds an entry under a free name if its argument is fit, and fails otherwise. -/
def AddsFree (register : Registry Entry → String → Argument → Except Problem (Registry Entry))
    (content? : Argument → Option Entry) : Prop :=
  ∀ registry name argument next, register registry name argument = .ok next ↔
    registry.get? name = none ∧ ∃ entry, content? argument = some entry ∧
      next = registry.add name entry

theorem contains_eq_false_iff
    {registry : Registry Entry}
    {name : String} :
    registry.contains name = false ↔ registry.get? name = none := by
  rw [contains, Option.isSome_eq_false_iff, Option.isNone_iff_eq_none]

theorem mem_keys_iff
    {registry : Registry Entry}
    {name : String} :
    name ∈ registry.entries.map Prod.fst ↔ ∃ entry, registry.get? name = some entry := by
  simp only [get?, ← Option.isSome_iff_exists, List.lookup_isSome_iff, List.mem_map, beq_iff_eq,
    @eq_comm _ name]

/-- Under a free name an assignment adds the entry. -/
theorem assign_of_free
    {registry : Registry Entry}
    {name : String}
    (free : registry.contains name = false)
    (entry : Entry) :
    assign name entry registry = registry.add name entry := by
  have absent : name ∉ registry.entries.map Prod.fst := by
    rw [mem_keys_iff, contains_eq_false_iff.mp free]
    simp
  rw [assign, add, Value.put_of_notMem absent]

theorem isInPlace_hookCall {Hook : Type} :
    IsInPlace (@hookCall Hook) registerHook := by
  intro name hook? registry
  unfold hookCall
  rw [perform_get_bind]
  cases free : registry.contains name with
  | true => simp [registerHook, free]
  | false => cases hook? <;> simp [registerHook, free, assign_of_free free]

theorem isInPlace_validatorCall :
    IsInPlace validatorCall Expression.Validators.register := by
  intro name outcome registry
  unfold validatorCall
  rw [perform_get_bind]
  cases free : registry.contains name with
  | true => simp [Expression.Validators.register, free]
  | false =>
      cases outcome with
      | failure => simp [Expression.Validators.register, free, ValidatorOutcome.schema?,
          Expression.selfTestError]
      | value value =>
          cases value <;> simp [Expression.Validators.register, free, assign_of_free free,
            ValidatorOutcome.schema?, Expression.selfTestError, Validator.ofSchema]

theorem addsFree_registerHook {Hook : Type} :
    AddsFree (@registerHook Hook) id := by
  intro registry name hook? next
  unfold registerHook
  rw [← contains_eq_false_iff]
  cases registry.contains name <;> cases hook? <;> simp [eq_comm]

theorem addsFree_register : AddsFree Expression.Validators.register validator? := by
  intro registry name outcome next
  unfold Expression.Validators.register
  rw [← contains_eq_false_iff]
  cases registry.contains name with
  | true => simp
  | false =>
      cases outcome with
      | failure => simp [validator?, ValidatorOutcome.schema?]
      | value value =>
          cases value <;> simp [validator?, ValidatorOutcome.schema?, Validator.ofSchema, eq_comm]

/-- What is kept for a name is the factory itself. -/
theorem factory_of_validator?
    {factory : ValidatorOutcome}
    {validator : Validator}
    (fit : validator? factory = some validator) :
    validator.factory = factory := by
  unfold validator? at fit
  split at fit
  · rw [← Option.some.inj fit]
    rfl
  · exact absurd fit (by simp)

end InPlace

/-! ## What a run keeps -/

section Sorting

variable {Item Key : Type} [LinearOrder Key] (key : Item → Key) {order : Item → Item → Bool}

/-- Sorting by a key puts the keys in order. -/
theorem sorted_keys_mergeSort
    (byKey : ∀ left right, order left right = true ↔ key left ≤ key right)
    (items : List Item) :
    ((items.mergeSort order).map key).Pairwise (· ≤ ·) := by
  have sorted : (items.mergeSort order).Pairwise fun left right => order left right = true := by
    refine List.pairwise_mergeSort (fun first second third => ?_) (fun left right => ?_) items
    · simp only [byKey]
      exact le_trans
    · simpa only [Bool.or_eq_true, byKey] using le_total (key left) (key right)
  exact List.pairwise_map.mpr (sorted.imp fun {left right} => (byKey left right).mp)

/-- Sorting by distinct keys puts the keys in strict order. -/
theorem strictlySorted_keys_mergeSort
    (byKey : ∀ left right, order left right = true ↔ key left ≤ key right)
    {items : List Item}
    (distinct : (items.map key).Nodup) :
    ((items.mergeSort order).map key).Pairwise (· < ·) := by
  have nodup : ((items.mergeSort order).map key).Nodup :=
    ((List.mergeSort_perm _ _).map key).nodup_iff.mpr distinct
  have sorted := sorted_keys_mergeSort key byKey items
  exact (sorted.and nodup).imp fun both => lt_of_le_of_ne both.1 both.2

end Sorting

/-- The names of a registry with distinct names are in strict order. -/
theorem names_strictlySorted
    {registry : Registry Entry}
    (distinct : (registry.entries.map Prod.fst).Nodup) :
    registry.names.Pairwise (· < ·) := by
  rw [← List.map_id registry.names]
  refine strictlySorted_keys_mergeSort id (fun _ _ => decide_eq_true_iff) ?_
  rwa [List.map_id]

section Kept

variable {register : Registry Entry → String → Argument → Except Problem (Registry Entry)}
variable {call : String → Argument → Change Entry Problem Unit}
variable {content? : Argument → Option Entry}
variable (inPlace : IsInPlace call register) (addsFree : AddsFree register content?)

include inPlace addsFree

/-- A call either adds an entry under a free name, or fails and changes nothing. -/
theorem perform_cases
    (name : String)
    (argument : Argument)
    (registry : Registry Entry) :
    (∃ entry, registry.get? name = none ∧ content? argument = some entry ∧
      perform (call name argument) registry = (.ok (), registry.add name entry)) ∨
    ((registry.get? name = none → content? argument = none) ∧
      ∃ problem, perform (call name argument) registry = (.error problem, registry)) := by
  rw [inPlace name argument registry]
  cases made : register registry name argument with
  | ok next =>
      obtain ⟨free, entry, fit, rfl⟩ := (addsFree registry name argument next).mp made
      exact .inl ⟨entry, free, fit, rfl⟩
  | error problem =>
      refine .inr ⟨fun free => ?_, problem, rfl⟩
      by_contra given
      obtain ⟨entry, fit⟩ := Option.ne_none_iff_exists'.mp given
      have added := (addsFree registry name argument _).mpr ⟨free, entry, fit, rfl⟩
      exact absurd (made.symm.trans added) (by simp)

theorem succeeds_iff_free
    {before : List (String × Argument)}
    {name : String}
    {argument : Argument} :
    Succeeds call before name argument ↔
      (afterCalls call before).get? name = none ∧ (content? argument).isSome = true := by
  rw [Succeeds]
  obtain ⟨entry, free, fit, performed⟩ | ⟨unfit, problem, performed⟩ :=
    perform_cases inPlace addsFree name argument (afterCalls call before)
  · simp [performed, free, fit]
  · rw [performed]
    refine ⟨fun answered => absurd answered (by simp), fun ⟨free, fit⟩ => ?_⟩
    exact absurd fit (by simp [unfit free])

/-- One more call lets a free name stand for its argument if that is fit, and does nothing else. -/
theorem get?_afterCalls_concat
    (calls : List (String × Argument))
    (name other : String)
    (argument : Argument) :
    (afterCalls call (calls ++ [(name, argument)])).get? other =
      ((afterCalls call calls).get? other).or
        (if other = name then content? argument else none) := by
  rw [afterCalls_concat]
  obtain ⟨entry, free, fit, performed⟩ | ⟨unfit, problem, performed⟩ :=
    perform_cases inPlace addsFree name argument (afterCalls call calls)
  · rw [performed]
    by_cases same : other = name
    · subst same
      rw [get?_add_self free, free, if_pos rfl, fit, Option.none_or]
    · rw [get?_add_of_ne same, if_neg same, Option.or_none]
  · rw [performed]
    by_cases same : other = name
    · subst same
      cases found : (afterCalls call calls).get? other with
      | none => simp [unfit found]
      | some entry => simp
    · rw [if_neg same, Option.or_none]

theorem get?_afterCalls_iff
    {calls : List (String × Argument)}
    {name : String}
    {entry : Entry} :
    (afterCalls call calls).get? name = some entry ↔
      ∃ argument, IsRegistered call calls name argument ∧ content? argument = some entry := by
  induction calls using List.reverseRecOn with
  | nil =>
      refine ⟨fun found => absurd found (by simp [afterCalls]), ?_⟩
      rintro ⟨argument, ⟨before, later, whole, -⟩, -⟩
      exact absurd whole (by simp)
  | append_singleton calls last inductionHypothesis =>
      obtain ⟨other, next⟩ := last
      rw [get?_afterCalls_concat inPlace addsFree, Option.or_eq_some_iff]
      simp only [isRegistered_concat_iff, or_and_right, exists_or, ← inductionHypothesis]
      refine or_congr_right ⟨fun ⟨free, added⟩ => ?_, ?_⟩
      · obtain ⟨rfl, fit⟩ : name = other ∧ content? next = some entry := by
          simpa [Option.ite_none_right_eq_some] using added
        exact ⟨next, ⟨rfl, (succeeds_iff_free inPlace addsFree).mpr ⟨free, by simp [fit]⟩⟩, fit⟩
      · rintro ⟨argument, ⟨same, succeeds⟩, fit⟩
        obtain ⟨rfl, rfl⟩ := Prod.mk.inj same
        exact ⟨((succeeds_iff_free inPlace addsFree).mp succeeds).1, by rw [if_pos rfl, fit]⟩

/-- What is registered for a name is what the name stands for. -/
theorem exists_isRegistered_iff
    {calls : List (String × Argument)}
    {name : String} :
    (∃ argument, IsRegistered call calls name argument) ↔
      ∃ entry, (afterCalls call calls).get? name = some entry := by
  simp only [get?_afterCalls_iff inPlace addsFree]
  constructor
  · rintro ⟨argument, before, later, whole, succeeds⟩
    obtain ⟨entry, fit⟩ := Option.isSome_iff_exists.mp
      ((succeeds_iff_free inPlace addsFree).mp succeeds).2
    exact ⟨entry, argument, ⟨before, later, whole, succeeds⟩, fit⟩
  · rintro ⟨entry, argument, registered, -⟩
    exact ⟨argument, registered⟩

theorem nodup_keys_afterCalls (calls : List (String × Argument)) :
    ((afterCalls call calls).entries.map Prod.fst).Nodup := by
  induction calls using List.reverseRecOn with
  | nil => exact List.nodup_nil
  | append_singleton calls last inductionHypothesis =>
      obtain ⟨name, argument⟩ := last
      rw [afterCalls_concat]
      obtain ⟨entry, free, fit, performed⟩ | ⟨unfit, problem, performed⟩ :=
        perform_cases inPlace addsFree name argument (afterCalls call calls)
      · have absent : name ∉ (afterCalls call calls).entries.map Prod.fst := by
          rw [mem_keys_iff, free]
          simp
        rw [performed, add, List.map_append]
        simpa using List.Nodup.concat absent inductionHypothesis
      · rw [performed]
        exact inductionHypothesis

/-- What a name stands for it goes on to stand for. -/
theorem get?_afterCalls_append
    {calls : List (String × Argument)}
    {name : String}
    {entry : Entry}
    (found : (afterCalls call calls).get? name = some entry)
    (more : List (String × Argument)) :
    (afterCalls call (calls ++ more)).get? name = some entry := by
  induction more using List.reverseRecOn with
  | nil => rwa [List.append_nil]
  | append_singleton more last inductionHypothesis =>
      obtain ⟨other, argument⟩ := last
      rw [← List.append_assoc, get?_afterCalls_concat inPlace addsFree, inductionHypothesis,
        Option.some_or]

theorem keepsFirst
    (faithful : ∀ argument other entry,
      content? argument = some entry → content? other = some entry → argument = other) :
    KeepsFirst call content? where
  unchanged name argument registry problem left failed := by
    obtain ⟨entry, free, fit, performed⟩ | ⟨unfit, other, performed⟩ :=
      perform_cases inPlace addsFree name argument registry
    · exact absurd (failed.symm.trans performed) (by simp)
    · exact (Prod.mk.inj (failed.symm.trans performed)).2
  succeeds_iff before name argument := by
    rw [succeeds_iff_free inPlace addsFree, and_comm]
    refine and_congr_right fun _ => ?_
    have none : (afterCalls call before).get? name = none ↔
        ¬∃ argument, IsRegistered call before name argument := by
      rw [exists_isRegistered_iff inPlace addsFree, ← Option.ne_none_iff_exists', not_not]
    rw [none]
    constructor
    · rintro unregistered earlier other later whole succeeds
      exact unregistered ⟨other, earlier, later, whole, succeeds⟩
    · rintro failed ⟨other, earlier, later, whole, succeeds⟩
      exact failed earlier other later whole succeeds
  get?_iff calls name entry := get?_afterCalls_iff inPlace addsFree
  argument_eq := faithful
  kept calls more name entry found := get?_afterCalls_append inPlace addsFree found more
  sorted calls := names_strictlySorted (nodup_keys_afterCalls inPlace addsFree calls)
  mem_names_iff calls name := by
    rw [exists_isRegistered_iff inPlace addsFree, names, List.mem_mergeSort, mem_keys_iff]
  size_eq calls := by rw [names, List.length_mergeSort, List.length_map, size]
  contains_iff calls name := by
    rw [names, List.mem_mergeSort, mem_keys_iff, contains, Option.isSome_iff_exists]

end Kept

theorem keepsFirst_hookCall {Hook : Type} : KeepsFirst (@hookCall Hook) id :=
  keepsFirst isInPlace_hookCall addsFree_registerHook fun _ _ _ same others =>
    same.trans others.symm

/-- What cannot be called leaves its name free, and what comes later does not take its place. -/
example :
    (afterCalls (@hookCall Nat)
        [("b", none), ("b", some 1), ("a", some 2), ("b", some 3)]).entries =
      [("b", 1), ("a", 2)] := by
  decide

theorem keepsFirst_validatorCall : KeepsFirst validatorCall validator? :=
  keepsFirst isInPlace_validatorCall addsFree_register fun _ _ _ fit others =>
    (factory_of_validator? fit).symm.trans (factory_of_validator? others)

end Registry
end RoutineGate
