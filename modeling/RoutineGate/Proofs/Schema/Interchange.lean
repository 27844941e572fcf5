import Mathlib.Data.List.Forall2
import RoutineGate.Proofs.Schema.Verdict
import RoutineGate.Schema.Publication

/-!
# Interchangeable schemas

Two schemas are interchangeable if values pass them alike, and if unions, records and lists
treat them alike.  Then they are so within any other schema: a record, a list, a union and a
registered schema do with one of them what they do with the other one.
-/

namespace RoutineGate
namespace Schema

/-- Whatever is done with one of two schemas comes to what is done with the other one. -/
structure Interchangeable (first second : Schema Value) : Prop where
  validate : ∀ way, validate way first = validate way second
  dump : ∀ mode way, dump mode way first = dump mode way second
  fill : fill first = fill second
  effectiveDefault : first.effectiveDefault = second.effectiveDefault
  isRequired : first.isRequired = second.isRequired
  fault? : first.fault? = second.fault?
  /-- What a union makes of them. -/
  shape? : first.shape? = second.shape?
  acceptsNull : first.acceptsNull = second.acceptsNull
  hasRecords : first.hasRecords = second.hasRecords
  incomparable? : first.incomparable? = second.incomparable?

namespace Interchangeable

theorem refl (schema : Schema Value) : Interchangeable schema schema := by
  constructor <;> intros <;> rfl

theorem symm
    {first second : Schema Value}
    (same : Interchangeable first second) :
    Interchangeable second first where
  validate way := (same.validate way).symm
  dump mode way := (same.dump mode way).symm
  fill := same.fill.symm
  effectiveDefault := same.effectiveDefault.symm
  isRequired := same.isRequired.symm
  fault? := same.fault?.symm
  shape? := same.shape?.symm
  acceptsNull := same.acceptsNull.symm
  hasRecords := same.hasRecords.symm
  incomparable? := same.incomparable?.symm

/-- A registered schema without traits of its own stands for the schema itself. -/
theorem custom
    (name : String)
    (inner : Schema Value) :
    Interchangeable (.custom {} name inner) inner where
  validate way := by
    funext fit value
    exact validate_custom rfl way fit
  dump mode way := by
    funext accepted
    -- Only the outer schema is to be opened: the inner one is dumped on the other side.
    conv =>
      lhs
      unfold Schema.dump
    rfl
  fill := by
    funext value
    rw [Schema.fill]
  effectiveDefault := by rw [Schema.effectiveDefault, Option.none_or]
  isRequired := by
    cases inner with
    | custom traits name inner =>
        simp only [Schema.isRequired, Schema.effectiveDefault, Option.none_or]
        simp +contextual
    | _ => simp [Schema.isRequired, Schema.effectiveDefault, Schema.traits]
  fault? := by simp [Schema.fault?, nullableFault?]
  shape? := by simp [Schema.shape?]
  acceptsNull := by rw [Schema.acceptsNull, Bool.false_or]
  hasRecords := by rw [Schema.hasRecords]
  incomparable? := by rw [Schema.incomparable?]

end Interchangeable

/-! ## Lists and registered schemas -/

variable {item other inner : Schema Value}

theorem Interchangeable.array
    (same : Interchangeable item other)
    (traits : Traits Value) :
    Interchangeable (.array traits item) (.array traits other) where
  validate way := by
    funext fit value
    unfold Schema.validate
    simp only [acceptsNullHere, Schema.traits, same.validate]
    rfl
  dump mode way := by
    funext accepted
    unfold Schema.dump
    simp only [acceptsNullHere, Schema.traits, same.dump]
    rfl
  fill := by
    funext value
    cases value <;> simp only [Schema.fill, same.fill]
  effectiveDefault := rfl
  isRequired := rfl
  fault? := by
    simp only [Schema.fault?, nullableFault?, Schema.incomparable?, same.fault?,
      same.incomparable?]
  shape? := by rw [Schema.shape?, Schema.shape?, same.shape?]
  acceptsNull := rfl
  hasRecords := by rw [Schema.hasRecords, Schema.hasRecords, same.hasRecords]
  incomparable? := by rw [Schema.incomparable?, Schema.incomparable?, same.incomparable?]

theorem Interchangeable.within_custom
    (same : Interchangeable inner other)
    (traits : Traits Value)
    (name : String) :
    Interchangeable (.custom traits name inner) (.custom traits name other) where
  validate way := by
    funext fit value
    unfold Schema.validate
    simp only [acceptsNullHere, Schema.traits, same.validate]
    rfl
  dump mode way := by
    funext accepted
    unfold Schema.dump
    simp only [acceptsNullHere, Schema.traits, same.dump]
    rfl
  fill := by
    funext value
    rw [Schema.fill, Schema.fill, same.fill]
  effectiveDefault := by
    rw [Schema.effectiveDefault, Schema.effectiveDefault, same.effectiveDefault]
  isRequired := by
    simp only [Schema.isRequired, Schema.effectiveDefault, same.effectiveDefault,
      same.isRequired]
  fault? := by
    simp only [Schema.fault?, nullableFault?, Schema.incomparable?, same.fault?,
      same.incomparable?]
  shape? := by rw [Schema.shape?, Schema.shape?, same.shape?]
  acceptsNull := by rw [Schema.acceptsNull, Schema.acceptsNull, same.acceptsNull]
  hasRecords := by rw [Schema.hasRecords, Schema.hasRecords, same.hasRecords]
  incomparable? := by rw [Schema.incomparable?, Schema.incomparable?, same.incomparable?]

theorem Interchangeable.fieldDefault (same : Interchangeable inner other) :
    fieldDefault inner = fieldDefault other := by
  rw [Schema.fieldDefault, Schema.fieldDefault, same.effectiveDefault, same.isRequired]

/-! ## Records -/

/-- Fields with the same keys and interchangeable schemas. -/
inductive InterchangeableFields :
    List (String × Schema Value) → List (String × Schema Value) → Prop
  | nil : InterchangeableFields [] []
  | cons {first second : Schema Value} {fields others : List (String × Schema Value)}
      (key : String)
      (same : Interchangeable first second)
      (rest : InterchangeableFields fields others) :
      InterchangeableFields ((key, first) :: fields) ((key, second) :: others)

namespace InterchangeableFields

theorem refl : (fields : List (String × Schema Value)) → InterchangeableFields fields fields
  | [] => .nil
  | (key, field) :: fields => .cons key (.refl field) (refl fields)

variable {fields others : List (String × Schema Value)}

theorem validateFields
    (same : InterchangeableFields fields others)
    (way : List Nat)
    (position : Nat)
    (entries : List (String × Value))
    (fit : Fit) :
    validateFields way position fields entries fit =
      validateFields way position others entries fit := by
  induction same generalizing position fit with
  | nil => rfl
  | cons key same rest inductionHypothesis =>
      simp only [Schema.validateFields, inductionHypothesis, same.validate, same.fieldDefault]

theorem dumpFields
    (same : InterchangeableFields fields others)
    (mode : Match)
    (way : List Nat)
    (position : Nat)
    (entries : List (String × Instance)) :
    dumpFields mode way position fields entries = dumpFields mode way position others entries := by
  induction same generalizing position with
  | nil => rfl
  | cons key same rest inductionHypothesis =>
      simp only [Schema.dumpFields, inductionHypothesis, same.dump]

theorem fillFields
    (same : InterchangeableFields fields others)
    (entries : List (String × Value)) :
    fillFields fields entries = fillFields others entries := by
  induction same generalizing entries with
  | nil => rfl
  | cons key same rest inductionHypothesis =>
      simp only [Schema.fillFields, inductionHypothesis, same.fill, same.effectiveDefault]

theorem fieldFault?
    (same : InterchangeableFields fields others) :
    fieldFault? fields = fieldFault? others := by
  induction same with
  | nil => rfl
  | cons key same rest inductionHypothesis =>
      rw [Schema.fieldFault?, Schema.fieldFault?, same.fault?, inductionHypothesis]

theorem requiredKeys
    (same : InterchangeableFields fields others) :
    requiredKeys fields = requiredKeys others := by
  induction same with
  | nil => rfl
  | cons key same rest inductionHypothesis =>
      simp only [Schema.requiredKeys] at inductionHypothesis
      simp only [Schema.requiredKeys, List.filter_cons, same.isRequired]
      split <;> simp [inductionHypothesis]

/-- What fields build of accepted entries. -/
theorem buildRecord
    (same : InterchangeableFields fields others)
    (way : List Nat) :
    buildRecord way fields = buildRecord way others := by
  funext entries fit
  rw [Schema.buildRecord, Schema.buildRecord, same.dumpFields]

/-- Interchangeable fields make the same of what is sent for a model. -/
theorem validateModel
    (same : InterchangeableFields fields others)
    (model : String)
    (value : Value) :
    validateModel model fields value = validateModel model others value := by
  have finished : finish fields = finish others := by
    funext accepted
    cases accepted <;> simp only [finish, same.fillFields]
  unfold Schema.validateModel
  simp only [same.buildRecord, same.validateFields, finished]

end InterchangeableFields

theorem Interchangeable.object
    {fields others : List (String × Schema Value)}
    (same : InterchangeableFields fields others)
    (traits : Traits Value) :
    Interchangeable (.object traits fields) (.object traits others) where
  validate way := by
    funext fit value
    unfold Schema.validate
    simp only [acceptsNullHere, Schema.traits, same.buildRecord, same.validateFields]
    rfl
  dump mode way := by
    funext accepted
    unfold Schema.dump
    simp only [acceptsNullHere, Schema.traits, same.dumpFields]
    rfl
  fill := by
    funext value
    cases value <;> simp only [Schema.fill, same.fillFields]
  effectiveDefault := rfl
  isRequired := rfl
  fault? := by rw [Schema.fault?, Schema.fault?, same.fieldFault?]
  shape? := by rw [Schema.shape?, Schema.shape?]
  acceptsNull := rfl
  hasRecords := by rw [Schema.hasRecords, Schema.hasRecords]
  incomparable? := by
    rw [Schema.incomparable?.eq_def, Schema.incomparable?.eq_def]

/-! ## Unions -/

/-- Options that are interchangeable, one by one. -/
abbrev InterchangeableOptions : List (Schema Value) → List (Schema Value) → Prop :=
  List.Forall₂ Interchangeable

namespace InterchangeableOptions

variable {options others : List (Schema Value)}

theorem distinctPositions
    (same : InterchangeableOptions options others)
    (seen : List Shape)
    (position : Nat) :
    distinctPositions seen position options = distinctPositions seen position others := by
  induction same generalizing seen position with
  | nil => rfl
  | @cons option other options others pair rest inductionHypothesis =>
      simp only [Schema.distinctPositions, pair.shape?, inductionHypothesis]

theorem validateOnly
    (same : InterchangeableOptions options others)
    (way kept : List Nat)
    (position : Nat)
    (fit : Fit)
    (value : Value) :
    validateOnly way kept position options fit value =
      validateOnly way kept position others fit value := by
  induction same generalizing position with
  | nil => rfl
  | @cons option other options others pair rest inductionHypothesis =>
      simp only [Schema.validateOnly, pair.validate, inductionHypothesis]

theorem tryOptions
    (same : InterchangeableOptions options others)
    (way kept : List Nat)
    (value : Value)
    (best : Option (Instance × Fit))
    (position : Nat) :
    tryOptions way kept value best position options =
      tryOptions way kept value best position others := by
  induction same generalizing best position with
  | nil => rfl
  | @cons option other options others pair rest inductionHypothesis =>
      simp only [Schema.tryOptions, pair.validate, inductionHypothesis]

theorem dumpFirst
    (same : InterchangeableOptions options others)
    (mode : Match)
    (way kept : List Nat)
    (position : Nat)
    (accepted : Instance) :
    dumpFirst mode way kept position options accepted =
      dumpFirst mode way kept position others accepted := by
  induction same generalizing position with
  | nil => rfl
  | @cons option other options others pair rest inductionHypothesis =>
      simp only [Schema.dumpFirst, pair.dump, inductionHypothesis]

theorem shapes?
    (same : InterchangeableOptions options others) :
    shapes? options = shapes? others := by
  induction same with
  | nil => rfl
  | @cons option other options others pair rest inductionHypothesis =>
      rw [Schema.shapes?, Schema.shapes?, pair.shape?, inductionHypothesis]

theorem anyAcceptsNull
    (same : InterchangeableOptions options others) :
    options.any Schema.acceptsNull = others.any Schema.acceptsNull := by
  induction same with
  | nil => rfl
  | @cons option other options others pair rest inductionHypothesis =>
      rw [List.any_cons, List.any_cons, pair.acceptsNull, inductionHypothesis]

theorem anyHasRecords
    (same : InterchangeableOptions options others) :
    anyHasRecords options = anyHasRecords others := by
  induction same with
  | nil => rfl
  | @cons option other options others pair rest inductionHypothesis =>
      rw [Schema.anyHasRecords, Schema.anyHasRecords, pair.hasRecords, inductionHypothesis]

theorem anyIncomparable?
    (same : InterchangeableOptions options others) :
    anyIncomparable? options = anyIncomparable? others := by
  induction same with
  | nil => rfl
  | @cons option other options others pair rest inductionHypothesis =>
      rw [Schema.anyIncomparable?, Schema.anyIncomparable?, pair.incomparable?,
        inductionHypothesis]

theorem optionFault?
    (same : InterchangeableOptions options others) :
    optionFault? options = optionFault? others := by
  induction same with
  | nil => rfl
  | @cons option other options others pair rest inductionHypothesis =>
      rw [Schema.optionFault?, Schema.optionFault?, pair.fault?, inductionHypothesis]

end InterchangeableOptions

theorem Interchangeable.union
    {options others : List (Schema Value)}
    (same : InterchangeableOptions options others)
    (traits : Traits Value) :
    Interchangeable (.union traits options) (.union traits others) where
  validate way := by
    funext fit value
    unfold Schema.validate
    simp only [acceptsNullHere, alternatives, same.anyAcceptsNull, same.distinctPositions,
      same.validateOnly, same.tryOptions]
    rfl
  dump mode way := by
    funext accepted
    unfold Schema.dump
    simp only [acceptsNullHere, alternatives, same.anyAcceptsNull, same.distinctPositions,
      same.dumpFirst, same.anyHasRecords]
    rfl
  fill := by
    funext value
    cases value <;> rfl
  effectiveDefault := rfl
  isRequired := rfl
  fault? := by
    simp only [Schema.fault?, Schema.incomparable?, same.optionFault?, same.anyIncomparable?]
  shape? := by rw [Schema.shape?, Schema.shape?, same.shapes?]
  acceptsNull := rfl
  hasRecords := by rw [Schema.hasRecords, Schema.hasRecords, same.anyHasRecords]
  incomparable? := by rw [Schema.incomparable?, Schema.incomparable?, same.anyIncomparable?]

end Schema
end RoutineGate
