import RoutineGate.Schema.Defaults

/-!
# What validation depends on

Whether a schema accepts a value, with what content, and with which issues it refuses it,
depends on the schema and the value alone: neither on the way to the schema nor on the fit of
what was validated before.  So a schema taken alone does what it does within another one.
-/

namespace RoutineGate
namespace Schema

namespace Instance

mutual

/-- What an instance holds, without the ways to the schemas that accepted its records. -/
def content : Instance → Value
  | .value accepted => plainValue accepted
  | .list items => .list (contents items)
  | .record _ entries _ => .record (entryContents entries)

/-- What several instances hold. -/
def contents : List Instance → List Value
  | [] => []
  | item :: items => item.content :: contents items

/-- What instances under keys hold. -/
def entryContents : List (String × Instance) → List (String × Value)
  | [] => []
  | (key, accepted) :: entries => (key, accepted.content) :: entryContents entries

end

theorem contents_eq_map (items : List Instance) : contents items = items.map content := by
  induction items with
  | nil => rfl
  | cons item items inductionHypothesis => rw [contents, inductionHypothesis, List.map_cons]

theorem entryContents_eq_map (entries : List (String × Instance)) :
    entryContents entries = entries.map fun entry => (entry.1, entry.2.content) := by
  induction entries with
  | nil => rfl
  | cons entry entries inductionHypothesis =>
      rw [entryContents, inductionHypothesis, List.map_cons]

end Instance

/-- A value is null, and a schema accepts null by itself. -/
def takesNull (schema : Schema Value) (value : Value) : Bool :=
  schema.acceptsNullHere && value.nonNull?.isNone

section Equations

variable {traits : Traits Value} {value : Value}

theorem takesNull_iff {schema : Schema Value} :
    schema.takesNull value = true ↔ schema.acceptsNullHere = true ∧ value = .null := by
  rw [takesNull, Bool.and_eq_true_iff]
  cases value <;> simp [Value.nonNull?]

theorem validate_of_takesNull
    {schema : Schema Value}
    (taken : schema.takesNull value = true)
    (way : List Nat)
    (fit : Fit) :
    validate way schema fit value = .ok (.value .null, fit) := by
  obtain ⟨-, rfl⟩ := takesNull_iff.mp taken
  unfold validate
  exact if_pos taken

section Scalars

variable {coerce : Bool}

theorem validate_any
    (given : (Schema.any traits).takesNull value = false)
    (way : List Nat)
    (fit : Fit) :
    validate way (.any traits) fit value = .ok (.value value, fit.lower .strict) := by
  unfold validate
  exact if_neg (ne_true_of_eq_false given)

theorem validate_string
    (given : (Schema.string traits coerce).takesNull value = false)
    (way : List Nat)
    (fit : Fit) :
    validate way (.string traits coerce) fit value =
      acceptScalar traits fit .text (readText (if coerce then coerceText value else value)) := by
  unfold validate
  exact if_neg (ne_true_of_eq_false given)

theorem validate_integer
    (given : (Schema.number traits true coerce).takesNull value = false)
    (way : List Nat)
    (fit : Fit) :
    validate way (.number traits true coerce) fit value =
      acceptScalar traits fit .int (readInteger value) := by
  unfold validate
  exact if_neg (ne_true_of_eq_false given)

theorem validate_number
    (given : (Schema.number traits false coerce).takesNull value = false)
    (way : List Nat)
    (fit : Fit) :
    validate way (.number traits false coerce) fit value =
      acceptScalar traits fit (fun read => .ofNumeral (integralNumeral read))
        (readNumber value) := by
  unfold validate
  exact if_neg (ne_true_of_eq_false given)

theorem validate_boolean
    (given : (Schema.boolean traits coerce).takesNull value = false)
    (way : List Nat)
    (fit : Fit) :
    validate way (.boolean traits coerce) fit value =
      acceptScalar traits fit .bool (readBoolean value) := by
  unfold validate
  exact if_neg (ne_true_of_eq_false given)

theorem validate_literal
    {allowed : Value}
    (given : (Schema.literal traits allowed).takesNull value = false)
    (way : List Nat)
    (fit : Fit) :
    validate way (.literal traits allowed) fit value =
      acceptMember fit (findMember [allowed] value) := by
  unfold validate
  exact if_neg (ne_true_of_eq_false given)

theorem validate_enumeration
    {allowed : List Value}
    (given : (Schema.enumeration traits allowed).takesNull value = false)
    (way : List Nat)
    (fit : Fit) :
    validate way (.enumeration traits allowed) fit value =
      acceptMember fit (findMember allowed value) := by
  unfold validate
  exact if_neg (ne_true_of_eq_false given)

end Scalars

/-- Only a list is validated item by item. -/
theorem validate_array_of_ne_list
    {item : Schema Value}
    (given : (Schema.array traits item).takesNull value = false)
    (other : ∀ items, value ≠ .list items)
    (way : List Nat)
    (fit : Fit) :
    validate way (.array traits item) fit value = .error (.ofViolation .notList) := by
  unfold validate
  refine (if_neg (ne_true_of_eq_false given)).trans ?_
  cases value with
  | list items => exact absurd rfl (other items)
  | _ => rfl

/-- Only a record is validated field by field. -/
theorem validate_object_of_ne_record
    {fields : List (String × Schema Value)}
    (given : (Schema.object traits fields).takesNull value = false)
    (other : ∀ entries, value ≠ .record entries)
    (way : List Nat)
    (fit : Fit) :
    validate way (.object traits fields) fit value =
      .error (.ofViolation (.notRecord nestedModel)) := by
  unfold validate
  refine (if_neg (ne_true_of_eq_false given)).trans ?_
  cases value with
  | record entries => exact absurd rfl (other entries)
  | _ => rfl

theorem validate_list
    (way : List Nat)
    (item : Schema Value)
    (fit : Fit)
    (values : List Value) :
    validate way (.array traits item) fit (.list values) =
      assemble (buildList traits) (collectItems (validate (0 :: way) item) 0 fit values) := by
  unfold validate
  exact if_neg (by simp [Value.nonNull?])

theorem validate_record
    (way : List Nat)
    (fields : List (String × Schema Value))
    (fit : Fit)
    (entries : List (String × Value)) :
    validate way (.object traits fields) fit (.record entries) =
      assemble (buildRecord way fields)
        (validateFields way 0 fields entries (fit.lower .lax)) := by
  unfold validate
  exact if_neg (by simp [Value.nonNull?])

/-- A model validates a record by the schema of records with its fields. -/
theorem validateModel_record
    (model : String)
    (fields : List (String × Schema Value))
    (entries : List (String × Value)) :
    validateModel model fields (.record entries) =
      match validate [] (.object {} fields) {} (.record entries) with
      | .ok (accepted, _) => .ok (finish fields accepted)
      | .error refusal => .error refusal := by
  rw [validate_record]
  rfl

theorem validate_union
    {options : List (Schema Value)}
    (given : (Schema.union traits options).takesNull value = false)
    (way : List Nat)
    (fit : Fit) :
    validate way (.union traits options) fit value =
      if (alternatives options).length = 1 then
        collapse (validateOnly way (alternatives options) 0 options fit value)
      else (tryOptions way (alternatives options) value none 0 options).outcome fit := by
  unfold validate
  exact if_neg (ne_true_of_eq_false given)

theorem validate_custom
    {name : String}
    {inner : Schema Value}
    (given : (Schema.custom traits name inner).takesNull value = false)
    (way : List Nat)
    (fit : Fit) :
    validate way (.custom traits name inner) fit value = validate way inner fit value := by
  conv =>
    lhs
    unfold validate
  exact if_neg (ne_true_of_eq_false given)

/-- A list is dumped item by item. -/
theorem dump_list
    (mode : Match)
    (way : List Nat)
    (item : Schema Value)
    (parts : List Instance) :
    dump mode way (.array traits item) (.list parts) =
      (Instance.dumpItems (dump mode (0 :: way) item) parts).map .list := by
  unfold dump
  exact if_neg (by simp [Instance.isNull])

/-- A record is dumped field by field where it has been accepted. -/
theorem dump_record
    (mode : Match)
    (way : List Nat)
    (fields : List (String × Schema Value))
    (parts : List (String × Instance))
    (dumped : List (String × Value)) :
    dump mode way (.object traits fields) (.record way parts dumped) =
      (dumpFields mode way 0 fields parts).map .record := by
  unfold dump
  refine (if_neg (by simp [Instance.isNull])).trans ?_
  exact if_pos rfl

/-- Null that a schema accepts by itself is dumped as null. -/
theorem dump_of_takesNull
    {schema : Schema Value}
    {value : Value}
    (taken : schema.takesNull value = true)
    (mode : Match)
    (way : List Nat) :
    dump mode way schema (.value .null) = some .null := by
  unfold dump
  exact if_pos (Bool.and_eq_true_iff.mpr ⟨(takesNull_iff.mp taken).1, rfl⟩)

end Equations

/-! ## Outcomes that differ in ways and fits only -/

/--
Outcomes with the same content or the same refusal, where issues are never an empty list, and
with the same fit if `sameFit` holds.
-/
inductive Alike (sameFit : Prop) : Outcome → Outcome → Prop
  | accepted {first second : Instance} {fit other : Fit}
      (content : first.content = second.content)
      (fits : sameFit → fit = other) :
      Alike sameFit (.ok (first, fit)) (.ok (second, other))
  | refused {issues : List Issue}
      (some : issues ≠ []) :
      Alike sameFit (.error (.issues issues)) (.error (.issues issues))
  | failed (fault : Fault) :
      Alike sameFit (.error (.fault fault)) (.error (.fault fault))

/-- Collected parts with the same issues and the same contents. -/
inductive AlikeParts {Part Content : Type} (contentOf : Part → Content) (sameFit : Prop) :
    Except Fault (Collected Part) → Except Fault (Collected Part) → Prop
  | collected {issues : List Issue} {first second : List Part} {fit other : Fit}
      (contents : first.map contentOf = second.map contentOf)
      (fits : sameFit → fit = other) :
      AlikeParts contentOf sameFit (.ok ⟨issues, first, fit⟩) (.ok ⟨issues, second, other⟩)
  | failed (fault : Fault) :
      AlikeParts contentOf sameFit (.error fault) (.error fault)

/-- Trials that have come to instances with the same content. -/
inductive AlikeTrials : Trial → Trial → Prop
  | settled {first second : Instance}
      (content : first.content = second.content) :
      AlikeTrials (.settled first) (.settled second)
  | found {first second : Instance} {fit : Fit}
      (content : first.content = second.content) :
      AlikeTrials (.found (some (first, fit))) (.found (some (second, fit)))
  | nothing : AlikeTrials (.found none) (.found none)
  | failed (fault : Fault) : AlikeTrials (.failed fault) (.failed fault)

section Outcomes

variable {sameFit : Prop} {outcome other : Outcome}

theorem AlikeParts.imp
    {Part Content : Type}
    {contentOf : Part → Content}
    {implied : Prop}
    {collected others : Except Fault (Collected Part)}
    (alike : AlikeParts contentOf sameFit collected others)
    (implies : implied → sameFit) :
    AlikeParts contentOf implied collected others := by
  cases alike with
  | collected contents fits => exact .collected contents fun holds => fits (implies holds)
  | failed fault => exact .failed fault

theorem alike_ofViolation (violation : Violation) :
    Alike sameFit (.error (.ofViolation violation)) (.error (.ofViolation violation)) :=
  .refused (List.cons_ne_nil _ _)

theorem alike_refusal (step : Step Value) :
    Alike sameFit (.error step.refusal) (.error step.refusal) := by
  unfold Step.refusal
  split
  · exact .refused (List.cons_ne_nil _ _)
  · exact .refused (List.cons_ne_nil _ _)
  · split
    · exact .failed _
    · exact .refused (List.cons_ne_nil _ _)

/-- Steps end with a value, with the refusal of a step or with a fault. -/
theorem alike_of_runSteps
    {steps : List (Step Value)}
    {value : Value}
    {refusal : Refusal}
    (refused : runSteps steps value = .error refusal) :
    Alike sameFit (.error refusal) (.error refusal) := by
  induction steps generalizing value with
  | nil => exact absurd refused (by simp)
  | cons step steps inductionHypothesis =>
      rw [runSteps, Step.run] at refused
      split at refused
      · exact inductionHypothesis refused
      · next stopped =>
          obtain rfl := Except.error.inj refused
          split at stopped
          · split at stopped
            · exact absurd stopped (by simp)
            · obtain rfl := Except.error.inj stopped
              exact alike_refusal step
          · obtain rfl := Except.error.inj stopped
            exact .failed _

theorem alike_of_runLengthSteps
    {steps : List (Step Value)}
    {length : Nat}
    {refusal : Refusal}
    (refused : runLengthSteps steps length = .error refusal) :
    Alike sameFit (.error refusal) (.error refusal) := by
  induction steps with
  | nil => exact absurd refused (by simp [runLengthSteps])
  | cons step steps inductionHypothesis =>
      rw [runLengthSteps, Step.runLength] at refused
      split at refused
      · exact inductionHypothesis refused
      · next stopped =>
          obtain rfl := Except.error.inj refused
          split at stopped
          · split at stopped
            · exact absurd stopped (by simp)
            · obtain rfl := Except.error.inj stopped
              exact alike_refusal step
          · obtain rfl := Except.error.inj stopped
            exact .failed _

theorem alike_acceptScalar
    {Result : Type}
    (traits : Traits Value)
    (toValue : Result → Value)
    (reading : Reading Result)
    (fit otherFit : Fit) :
    Alike (fit = otherFit) (acceptScalar traits fit toValue reading)
      (acceptScalar traits otherFit toValue reading) := by
  cases reading with
  | error violation => exact alike_ofViolation violation
  | ok found =>
      simp only [acceptScalar]
      cases run : runSteps traits.steps (toValue found.1) with
      | ok value => exact .accepted rfl fun same => by rw [same]
      | error refusal => exact alike_of_runSteps run

theorem alike_acceptMember
    (found : Except Violation Value)
    (fit otherFit : Fit) :
    Alike (fit = otherFit) (acceptMember fit found) (acceptMember otherFit found) := by
  cases found with
  | error violation => exact alike_ofViolation violation
  | ok value => exact .accepted rfl id

theorem Alike.collapse (alike : Alike sameFit outcome other) :
    Alike sameFit (Schema.collapse outcome) (Schema.collapse other) := by
  cases alike with
  | accepted content fits => exact .accepted content fits
  | refused some => exact alike_ofViolation .noAlternative
  | failed fault => exact .failed fault

theorem alike_outcome
    {trial otherTrial : Trial}
    (alike : AlikeTrials trial otherTrial)
    (fit otherFit : Fit) :
    Alike (fit = otherFit) (trial.outcome fit) (otherTrial.outcome otherFit) := by
  cases alike with
  | settled content => exact .accepted content fun _ => rfl
  | found content => exact .accepted content fun same => by rw [same]
  | nothing => exact alike_ofViolation .noAlternative
  | failed fault => exact .failed fault

end Outcomes

section Parts

variable {Part Content : Type} {contentOf : Part → Content} {sameFit : Prop}

theorem alike_assemble
    {collected others : Except Fault (Collected Part)}
    {build otherBuild : List Part → Fit → Outcome}
    (alike : AlikeParts contentOf sameFit collected others)
    (built : ∀ first second fit other, first.map contentOf = second.map contentOf →
      (sameFit → fit = other) → Alike sameFit (build first fit) (otherBuild second other)) :
    Alike sameFit (assemble build collected) (assemble otherBuild others) := by
  cases alike with
  | @collected issues first second fit other contents fits =>
      cases issues with
      | nil => exact built first second fit other contents fits
      | cons issue issues => exact .refused (List.cons_ne_nil issue issues)
  | failed fault => exact .failed fault

theorem alike_collectPart
    {place : Place}
    {toPart : Instance → Part}
    (contentsAgree : ∀ first second : Instance, first.content = second.content →
      contentOf (toPart first) = contentOf (toPart second))
    {outcome otherOutcome : Outcome}
    {fit otherFit : Fit}
    {rest otherRest : Fit → Except Fault (Collected Part)}
    (first : Alike (fit = otherFit) outcome otherOutcome)
    (others : ∀ after otherAfter,
      AlikeParts contentOf (after = otherAfter) (rest after) (otherRest otherAfter)) :
    AlikeParts contentOf (fit = otherFit) (collectPart place toPart fit rest outcome)
      (collectPart place toPart otherFit otherRest otherOutcome) := by
  cases first with
  | @accepted part otherPart after otherAfter content fits =>
      have tail := (others after otherAfter).imp fits
      simp only [collectPart]
      generalize rest after = collected at tail ⊢
      generalize otherRest otherAfter = otherCollected at tail ⊢
      cases tail with
      | collected contents restFits =>
          refine .collected ?_ restFits
          rw [List.map_cons, List.map_cons, contents, contentsAgree part otherPart content]
      | failed fault => exact .failed fault
  | refused some =>
      have tail := others fit otherFit
      simp only [collectPart]
      generalize rest fit = collected at tail ⊢
      generalize otherRest otherFit = otherCollected at tail ⊢
      cases tail with
      | collected contents restFits => exact .collected contents restFits
      | failed fault => exact .failed fault
  | failed fault => exact .failed fault

theorem alike_collectItems
    {check otherCheck : Fit → Value → Outcome}
    (each : ∀ fit otherFit value,
      Alike (fit = otherFit) (check fit value) (otherCheck otherFit value))
    (position : Nat)
    (items : List Value)
    (fit otherFit : Fit) :
    AlikeParts Instance.content (fit = otherFit) (collectItems check position fit items)
      (collectItems otherCheck position otherFit items) := by
  induction items generalizing position fit otherFit with
  | nil => exact .collected rfl id
  | cons item items inductionHypothesis =>
      exact alike_collectPart (fun _ _ => id) (each fit otherFit item) fun after otherAfter =>
        inductionHypothesis (position + 1) after otherAfter

theorem alike_buildList
    (traits : Traits Value)
    {first second : List Instance}
    (contents : first.map Instance.content = second.map Instance.content)
    {fit other : Fit}
    (fits : sameFit → fit = other) :
    Alike sameFit (buildList traits first fit) (buildList traits second other) := by
  have length : first.length = second.length := by
    simpa using congrArg List.length contents
  simp only [buildList, length]
  cases run : runLengthSteps traits.steps second.length with
  | ok =>
      refine .accepted ?_ fits
      simp only [Instance.content, Instance.contents_eq_map, contents]
  | error refusal => exact alike_of_runLengthSteps run

/-- A key with what the instance under it holds. -/
def entryContent (entry : String × Instance) : String × Value :=
  (entry.1, entry.2.content)

theorem alike_buildRecord
    (fields : List (String × Schema Value))
    (way otherWay : List Nat)
    {first second : List (String × Instance)}
    (contents : first.map entryContent = second.map entryContent)
    {fit other : Fit}
    (fits : sameFit → fit = other) :
    Alike sameFit (buildRecord way fields first fit)
      (buildRecord otherWay fields second other) := by
  have length : first.length = second.length := by
    simpa using congrArg List.length contents
  refine .accepted ?_ fun same => by rw [fits same, length]
  simp only [Instance.content, Instance.entryContents_eq_map]
  exact congrArg Value.record contents

end Parts

theorem alike_betterOf
    {first second : Option (Instance × Fit)}
    (alike : AlikeTrials (.found first) (.found second))
    {candidate other : Instance}
    {fit : Fit}
    (content : candidate.content = other.content) :
    AlikeTrials (.found (betterOf first (candidate, fit)))
      (.found (betterOf second (other, fit))) := by
  cases alike with
  | nothing => exact .found content
  | found earlier =>
      simp only [betterOf]
      split
      · exact .found content
      · exact .found earlier

/-- Null that a schema accepts by itself is accepted everywhere in the same way. -/
theorem alike_of_given
    {schema : Schema Value}
    {way otherWay : List Nat}
    {fit otherFit : Fit}
    {value : Value}
    (otherwise : schema.takesNull value = false →
      Alike (fit = otherFit) (validate way schema fit value)
        (validate otherWay schema otherFit value)) :
    Alike (fit = otherFit) (validate way schema fit value)
      (validate otherWay schema otherFit value) := by
  cases given : schema.takesNull value with
  | true =>
      rw [validate_of_takesNull given, validate_of_takesNull given]
      exact .accepted rfl id
  | false => exact otherwise given

mutual

/-- Validation by one schema has outcomes that differ in ways and fits only. -/
theorem alike_validate :
    (schema : Schema Value) → (way otherWay : List Nat) → (fit otherFit : Fit) →
      (value : Value) →
        Alike (fit = otherFit) (validate way schema fit value)
          (validate otherWay schema otherFit value)
  | .any traits, way, otherWay, fit, otherFit, value =>
      alike_of_given fun given => by
        rw [validate_any given, validate_any given]
        exact .accepted rfl fun same => by rw [same]
  | .string traits coerce, way, otherWay, fit, otherFit, value =>
      alike_of_given fun given => by
        rw [validate_string given, validate_string given]
        exact alike_acceptScalar _ _ _ _ _
  | .number traits true coerce, way, otherWay, fit, otherFit, value =>
      alike_of_given fun given => by
        rw [validate_integer given, validate_integer given]
        exact alike_acceptScalar _ _ _ _ _
  | .number traits false coerce, way, otherWay, fit, otherFit, value =>
      alike_of_given fun given => by
        rw [validate_number given, validate_number given]
        exact alike_acceptScalar _ _ _ _ _
  | .boolean traits coerce, way, otherWay, fit, otherFit, value =>
      alike_of_given fun given => by
        rw [validate_boolean given, validate_boolean given]
        exact alike_acceptScalar _ _ _ _ _
  | .literal traits allowed, way, otherWay, fit, otherFit, value =>
      alike_of_given fun given => by
        rw [validate_literal given, validate_literal given]
        exact alike_acceptMember _ _ _
  | .enumeration traits values, way, otherWay, fit, otherFit, value =>
      alike_of_given fun given => by
        rw [validate_enumeration given, validate_enumeration given]
        exact alike_acceptMember _ _ _
  | .array traits item, way, otherWay, fit, otherFit, value =>
      alike_of_given fun given => by
        have items := alike_collectItems (alike_validate item (0 :: way) (0 :: otherWay))
        by_cases isList : ∃ values, value = .list values
        · obtain ⟨values, rfl⟩ := isList
          rw [validate_list, validate_list]
          exact alike_assemble (items 0 values fit otherFit) fun _ _ _ _ contents fits =>
            alike_buildList traits contents fits
        · have other := not_exists.mp isList
          rw [validate_array_of_ne_list given other, validate_array_of_ne_list given other]
          exact alike_ofViolation .notList
  | .object traits fields, way, otherWay, fit, otherFit, value =>
      alike_of_given fun given => by
        have parts := alike_validateFields fields way otherWay 0
        by_cases isRecord : ∃ entries, value = .record entries
        · obtain ⟨entries, rfl⟩ := isRecord
          have parts := (parts entries (fit.lower .lax) (otherFit.lower .lax)).imp
            fun same : fit = otherFit => by rw [same]
          rw [validate_record, validate_record]
          exact alike_assemble parts fun _ _ _ _ contents fits =>
            alike_buildRecord fields way otherWay contents fits
        · have other := not_exists.mp isRecord
          rw [validate_object_of_ne_record given other, validate_object_of_ne_record given other]
          exact alike_ofViolation _
  | .union traits options, way, otherWay, fit, otherFit, value =>
      alike_of_given fun given => by
        rw [validate_union given, validate_union given]
        split
        · exact (alike_validateOnly options way otherWay _ 0 fit otherFit value).collapse
        · exact alike_outcome
            (alike_tryOptions options way otherWay _ value none none 0 .nothing) fit otherFit
  | .custom traits name inner, way, otherWay, fit, otherFit, value =>
      alike_of_given fun given => by
        rw [validate_custom given, validate_custom given]
        exact alike_validate inner way otherWay fit otherFit value

theorem alike_validateFields :
    (fields : List (String × Schema Value)) → (way otherWay : List Nat) →
      (position : Nat) → (entries : List (String × Value)) → (fit otherFit : Fit) →
        AlikeParts entryContent (fit = otherFit) (validateFields way position fields entries fit)
          (validateFields otherWay position fields entries otherFit)
  | [], way, otherWay, position, entries, fit, otherFit => .collected rfl id
  | (key, field) :: fields, way, otherWay, position, entries, fit, otherFit => by
      have rest := alike_validateFields fields way otherWay (position + 1) entries
      rw [validateFields_cons, validateFields_cons]
      cases entries.lookup key with
      | some value =>
          refine alike_collectPart ?_
            (alike_validate field (position :: way) (position :: otherWay) fit otherFit value)
            rest
          exact fun first second same => by rw [entryContent, entryContent, same]
      | none =>
          dsimp only
          split
          · have tail := rest fit otherFit
            generalize validateFields way (position + 1) fields entries fit = first at tail ⊢
            generalize validateFields otherWay (position + 1) fields entries otherFit = second
              at tail ⊢
            cases tail with
            | collected contents fits => exact .collected contents fits
            | failed fault => exact .failed fault
          · exact rest fit otherFit

theorem alike_validateOnly :
    (options : List (Schema Value)) → (way otherWay kept : List Nat) → (position : Nat) →
      (fit otherFit : Fit) → (value : Value) →
        Alike (fit = otherFit) (validateOnly way kept position options fit value)
          (validateOnly otherWay kept position options otherFit value)
  | [], way, otherWay, kept, position, fit, otherFit, value => alike_ofViolation .noAlternative
  | option :: options, way, otherWay, kept, position, fit, otherFit, value => by
      rw [validateOnly, validateOnly]
      split
      · exact alike_validate option (position :: way) (position :: otherWay) fit otherFit value
      · exact alike_validateOnly options way otherWay kept (position + 1) fit otherFit value

theorem alike_tryOptions :
    (options : List (Schema Value)) → (way otherWay kept : List Nat) → (value : Value) →
      (best other : Option (Instance × Fit)) → (position : Nat) →
        AlikeTrials (.found best) (.found other) →
          AlikeTrials (tryOptions way kept value best position options)
            (tryOptions otherWay kept value other position options)
  | [], way, otherWay, kept, value, best, other, position, alike => alike
  | option :: options, way, otherWay, kept, value, best, other, position, alike => by
      have rest := alike_tryOptions options way otherWay kept value
      rw [tryOptions, tryOptions]
      split
      · have here := alike_validate option (position :: way) (position :: otherWay) .best .best
          value
        generalize validate (position :: way) option .best value = first at here ⊢
        generalize validate (position :: otherWay) option .best value = second at here ⊢
        cases here with
        | accepted content fits =>
            obtain rfl := fits rfl
            dsimp only
            split
            · exact .settled content
            · exact rest _ _ (position + 1) (alike_betterOf alike content)
        | refused some => exact rest best other (position + 1) alike
        | failed fault => exact .failed fault
      · exact rest best other (position + 1) alike

end

/-! ## Schemas taken alone -/

/-- A schema accepts a value when taken alone. -/
def Accepts (schema : Schema Value) (value : Value) : Prop :=
  ∃ accepted fit, validate [] schema {} value = .ok (accepted, fit)

/-- Validation of a value ends with a fault, wherever the schema is. -/
def Faults (schema : Schema Value) (value : Value) : Prop :=
  ∀ way fit, ∃ fault, validate way schema fit value = .error (.fault fault)

/-- A schema refuses a value with issues when taken alone. -/
def Refuses (schema : Schema Value) (value : Value) : Prop :=
  ∃ issues, validate [] schema {} value = .error (.issues issues)

/-- A schema accepts a value as it is, so that no later alternative is tried. -/
def FitsPerfectly (schema : Schema Value) (value : Value) : Prop :=
  ∃ accepted, validate [] schema .best value = .ok (accepted, .best)

section Alone

variable {schema : Schema Value} {way : List Nat} {fit after : Fit} {value : Value}
variable {accepted : Instance}

/-- What is accepted is accepted elsewhere with the same content. -/
theorem exists_validate_content
    (validated : validate way schema fit value = .ok (accepted, after))
    (otherWay : List Nat)
    (otherFit : Fit) :
    ∃ other last, validate otherWay schema otherFit value = .ok (other, last) ∧
      other.content = accepted.content := by
  have alike := alike_validate schema way otherWay fit otherFit value
  generalize validate otherWay schema otherFit value = elsewhere at alike ⊢
  rw [validated] at alike
  cases alike with
  | @accepted _ second _ other content fits => exact ⟨second, other, rfl, content.symm⟩

theorem accepts_of_validate
    (validated : validate way schema fit value = .ok (accepted, after)) :
    schema.Accepts value := by
  obtain ⟨other, last, alone, -⟩ := exists_validate_content validated [] {}
  exact ⟨other, last, alone⟩

theorem Accepts.exists
    (accepts : schema.Accepts value)
    (way : List Nat)
    (fit : Fit) :
    ∃ accepted after, validate way schema fit value = .ok (accepted, after) := by
  obtain ⟨accepted, after, alone⟩ := accepts
  obtain ⟨other, last, validated, -⟩ := exists_validate_content alone way fit
  exact ⟨other, last, validated⟩

theorem fitsPerfectly_of_validate
    (validated : validate way schema .best value = .ok (accepted, .best)) :
    schema.FitsPerfectly value := by
  have alike := alike_validate schema way [] .best .best value
  unfold FitsPerfectly
  generalize validate [] schema .best value = alone at alike ⊢
  rw [validated] at alike
  cases alike with
  | @accepted _ second _ other content fits =>
      obtain rfl := fits rfl
      exact ⟨second, rfl⟩

theorem FitsPerfectly.exists
    (perfect : schema.FitsPerfectly value)
    (way : List Nat) :
    ∃ accepted, validate way schema .best value = .ok (accepted, .best) := by
  obtain ⟨accepted, alone⟩ := perfect
  have alike := alike_validate schema [] way .best .best value
  generalize validate way schema .best value = within at alike ⊢
  rw [alone] at alike
  cases alike with
  | @accepted _ second _ other content fits =>
      obtain rfl := fits rfl
      exact ⟨second, rfl⟩

theorem refuses_of_validate
    {issues : List Issue}
    (validated : validate way schema fit value = .error (.issues issues)) :
    schema.Refuses value := by
  have alike := alike_validate schema way [] fit {} value
  unfold Refuses
  generalize validate [] schema {} value = alone at alike ⊢
  rw [validated] at alike
  cases alike with
  | refused some => exact ⟨issues, rfl⟩

theorem faults_of_validate
    {fault : Fault}
    (validated : validate way schema fit value = .error (.fault fault)) :
    schema.Faults value := by
  intro other otherFit
  have alike := alike_validate schema way other fit otherFit value
  generalize validate other schema otherFit value = within at alike ⊢
  rw [validated] at alike
  cases alike with
  | failed => exact ⟨fault, rfl⟩

/-- A schema that accepts a value does not refuse it. -/
theorem Accepts.not_refuses (accepts : schema.Accepts value) : ¬schema.Refuses value := by
  rintro ⟨issues, refused⟩
  obtain ⟨accepted, fit, validated⟩ := accepts
  exact absurd (refused.symm.trans validated) (by simp)

theorem Faults.not_accepts (faults : schema.Faults value) : ¬schema.Accepts value := by
  rintro ⟨accepted, fit, validated⟩
  obtain ⟨fault, failed⟩ := faults [] {}
  exact absurd (failed.symm.trans validated) (by simp)

theorem Faults.not_refuses (faults : schema.Faults value) : ¬schema.Refuses value := by
  rintro ⟨issues, refused⟩
  obtain ⟨fault, failed⟩ := faults [] {}
  exact absurd (failed.symm.trans refused) (by simp)

/-- A schema accepts a value, refuses it or ends with a fault. -/
theorem accepts_or_refuses_or_faults
    (schema : Schema Value)
    (value : Value) :
    schema.Accepts value ∨ schema.Refuses value ∨ schema.Faults value := by
  cases validated : validate [] schema {} value with
  | ok result => exact .inl ⟨result.1, result.2, validated⟩
  | error refusal =>
      cases refusal with
      | issues issues => exact .inr (.inl ⟨issues, validated⟩)
      | fault fault => exact .inr (.inr (faults_of_validate validated))

/-- The issues of an outcome; what is accepted has none. -/
def issuesOf {Result : Type} : Except Refusal Result → List Issue
  | .error (.issues issues) => issues
  | _ => []

/-- An outcome with an issue is a refusal. -/
theorem eq_of_issuesOf_ne_nil
    {Result : Type}
    {outcome : Except Refusal Result}
    (some : issuesOf outcome ≠ []) :
    outcome = .error (.issues (issuesOf outcome)) := by
  unfold issuesOf at some ⊢
  split at some
  · rfl
  · exact absurd rfl some

/-- A refusal without a fault has an issue. -/
theorem issues_ne_nil_of_refused
    {issues : List Issue}
    (refused : validate way schema fit value = .error (.issues issues)) :
    issues ≠ [] := by
  have alike := alike_validate schema way way fit fit value
  rw [refused] at alike
  cases alike with
  | refused some => exact some

end Alone

end Schema
end RoutineGate
