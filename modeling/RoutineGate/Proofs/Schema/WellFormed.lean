import RoutineGate.Expression.Method
import RoutineGate.Proofs.Traversal
import RoutineGate.Schema.Validation

/-!
# Well-formed schemas

In a well-formed schema every step fits the kind of its schema, at every depth.  Validation
then asks no value for an operation that values of its type lack.
-/

namespace RoutineGate
namespace Schema

/-- A rule for texts: about their length, a pattern read from its text, a format or a change. -/
def Rule.IsForText : Rule → Prop
  | .pattern expected => ∃ characters, Pattern.read expected.source characters = .ok expected
  | .compare .. => False
  | _ => True

/-- A rule for numbers: a comparison with an integer or a floating point number. -/
def Rule.IsForNumber : Rule → Prop
  | .compare .. => True
  | _ => False

/-- A rule for lists: about the number of their items. -/
def Rule.IsForList (rule : Rule) : Prop :=
  rule.isLength = true

/-- The rules that the steps of a schema may have. -/
def Allows : Schema Value → Rule → Prop
  | .string .., rule => rule.IsForText
  | .number .., rule => rule.IsForNumber
  | .array .., rule => rule.IsForList
  | _, _ => False

/-- A schema whose steps fit its kind and whose parts are as they have to be, at every depth. -/
inductive WellFormed : Schema Value → Prop
  | any {traits : Traits Value}
      (plain : traits.steps = []) :
      WellFormed (.any traits)
  | string {traits : Traits Value} {coerce : Bool}
      (fitting : ∀ step ∈ traits.steps, step.rule.IsForText) :
      WellFormed (.string traits coerce)
  | number {traits : Traits Value} {integer coerce : Bool}
      (fitting : ∀ step ∈ traits.steps, step.rule.IsForNumber) :
      WellFormed (.number traits integer coerce)
  | boolean {traits : Traits Value} {coerce : Bool}
      (plain : traits.steps = []) :
      WellFormed (.boolean traits coerce)
  | literal {traits : Traits Value} {value : Value}
      (plain : traits.steps = [])
      (scalar : Expression.Construction.isScalar value = true) :
      WellFormed (.literal traits value)
  | enumeration {traits : Traits Value} {values : List Value}
      (plain : traits.steps = [])
      (nonempty : values ≠ []) :
      WellFormed (.enumeration traits values)
  | array {traits : Traits Value} {item : Schema Value}
      (fitting : ∀ step ∈ traits.steps, step.rule.IsForList)
      (wellFormed : WellFormed item) :
      WellFormed (.array traits item)
  /-- No two fields have one key. -/
  | object {traits : Traits Value} {fields : List (String × Schema Value)}
      (plain : traits.steps = [])
      (distinct : (fields.map Prod.fst).Nodup)
      (wellFormed : ∀ field ∈ fields, WellFormed field.2) :
      WellFormed (.object traits fields)
  | union {traits : Traits Value} {options : List (Schema Value)}
      (plain : traits.steps = [])
      (several : 2 ≤ options.length)
      (wellFormed : ∀ option ∈ options, WellFormed option) :
      WellFormed (.union traits options)
  | custom {traits : Traits Value} {name : String} {inner : Schema Value}
      (plain : traits.steps = [])
      (wellFormed : WellFormed inner) :
      WellFormed (.custom traits name inner)

namespace WellFormed

variable {schema : Schema Value}

/-- Every step of a well-formed schema fits its kind. -/
theorem allows
    (wellFormed : schema.WellFormed)
    {step : Step Value}
    (listed : step ∈ schema.traits.steps) :
    schema.Allows step.rule := by
  cases wellFormed with
  | string fitting => exact fitting step listed
  | number fitting => exact fitting step listed
  | array fitting => exact fitting step listed
  | any plain | boolean plain | literal plain | enumeration plain | object plain | union plain
  | custom plain =>
      rw [traits, plain] at listed
      exact absurd listed List.not_mem_nil

/-- A schema stays well-formed with other traits whose steps fit its kind. -/
theorem withTraits
    (wellFormed : schema.WellFormed)
    {traits : Traits Value}
    (fitting : ∀ step ∈ traits.steps, schema.Allows step.rule) :
    (schema.withTraits traits).WellFormed := by
  have plain : (∀ step ∈ traits.steps, False) → traits.steps = [] :=
    List.eq_nil_iff_forall_not_mem.mpr
  cases wellFormed with
  | any => exact .any (plain fitting)
  | string => exact .string fitting
  | number => exact .number fitting
  | boolean => exact .boolean (plain fitting)
  | literal _ scalar => exact .literal (plain fitting) scalar
  | enumeration _ nonempty => exact .enumeration (plain fitting) nonempty
  | array _ item => exact .array fitting item
  | object _ distinct fields => exact .object (plain fitting) distinct fields
  | union _ several options => exact .union (plain fitting) several options
  | custom _ inner => exact .custom (plain fitting) inner

/-- Another step that fits keeps a schema well-formed. -/
theorem addStep
    (wellFormed : schema.WellFormed)
    {step : Step Value}
    (fits : schema.Allows step.rule) :
    (schema.addStep step).WellFormed := by
  refine wellFormed.withTraits fun other listed => ?_
  obtain listed | same := List.mem_append.mp listed
  · exact wellFormed.allows listed
  · rwa [List.mem_singleton.mp same]

end WellFormed

/-! ## Validation -/

/-- An outcome other than that an operation is asked of a value that lacks it. -/
def IsSupported {Result : Type} (outcome : Except Refusal Result) : Prop :=
  ∀ typeName operation, outcome ≠ .error (.fault (.lacksOperation typeName operation))

section Steps

variable {Result : Type} {step : Step Value} {value : Value}

@[simp] theorem isSupported_ok (result : Result) :
    IsSupported (.ok result : Except Refusal Result) := by
  simp [IsSupported]

@[simp] theorem isSupported_issues (issues : List Issue) :
    IsSupported (.error (.issues issues) : Except Refusal Result) := by
  simp [IsSupported]

@[simp] theorem isSupported_refusal (step : Step Value) :
    IsSupported (.error step.refusal : Except Refusal Result) := by
  unfold Step.refusal
  split
  · exact isSupported_issues _
  · exact isSupported_issues _
  · split
    · simp [IsSupported]
    · exact isSupported_issues _

/-- Steps are supported if each one is made for the values that it may be run on. -/
theorem isSupported_runSteps
    {IsOperand : Value → Prop}
    {steps : List (Step Value)}
    (supported : ∀ step ∈ steps, ∀ value, IsOperand value →
      step.rule.supports value = true ∧ IsOperand (step.rule.change value))
    (operand : IsOperand value) :
    IsSupported (runSteps steps value) := by
  induction steps generalizing value with
  | nil => exact isSupported_ok value
  | cons step steps inductionHypothesis =>
      obtain ⟨supports, changed⟩ := supported step List.mem_cons_self value operand
      have others := inductionHypothesis
        (fun other member => supported other (List.mem_cons_of_mem step member)) changed
      rw [runSteps, Step.run, if_pos supports]
      by_cases admitted : step.rule.admits value = true
      · rw [if_pos admitted]
        exact others
      · rw [if_neg admitted]
        exact isSupported_refusal step

/-- A text may be passed through the steps of texts. -/
theorem isSupported_runSteps_text
    {steps : List (Step Value)}
    (fitting : ∀ step ∈ steps, step.rule.IsForText)
    (content : String) :
    IsSupported (runSteps steps (.text content)) := by
  have supported : ∀ step ∈ steps, ∀ value, (∃ content, value = .text content) →
      step.rule.supports value = true ∧ ∃ content, step.rule.change value = .text content := by
    rintro step listed value ⟨content, rfl⟩
    have fits := fitting step listed
    refine ⟨?_, _, rfl⟩
    cases rule : step.rule <;> first | rfl | exact absurd fits (by simp [rule, Rule.IsForText])
  exact isSupported_runSteps supported ⟨content, rfl⟩

/-- A number may be passed through the steps of numbers. -/
theorem isSupported_runSteps_ofNumeral
    {steps : List (Step Value)}
    (fitting : ∀ step ∈ steps, step.rule.IsForNumber)
    (numeral : Numeral) :
    IsSupported (runSteps steps (.ofNumeral numeral)) := by
  have supported : ∀ step ∈ steps, ∀ value, (∃ numeral, value = Value.ofNumeral numeral) →
      step.rule.supports value = true ∧
        ∃ numeral, step.rule.change value = Value.ofNumeral numeral := by
    rintro step listed value ⟨numeral, rfl⟩
    have fits := fitting step listed
    cases rule : step.rule with
    | compare comparison bound =>
        refine ⟨?_, numeral, ?_⟩ <;> cases numeral <;> rfl
    | _ => exact absurd fits (by simp [rule, Rule.IsForNumber])
  exact isSupported_runSteps supported ⟨numeral, rfl⟩

/-- A list may be passed through the steps of lists. -/
theorem isSupported_runLengthSteps
    {steps : List (Step Value)}
    (fitting : ∀ step ∈ steps, step.rule.IsForList)
    (length : Nat) :
    IsSupported (runLengthSteps steps length) := by
  induction steps with
  | nil => exact isSupported_ok ()
  | cons step steps inductionHypothesis =>
      have others := inductionHypothesis fun other member =>
        fitting other (List.mem_cons_of_mem step member)
      have measured : step.rule.isLength = true := fitting step List.mem_cons_self
      rw [runLengthSteps, Step.runLength, if_pos measured]
      by_cases admitted : step.rule.admitsLength length = true
      · rw [if_pos admitted]
        exact others
      · rw [if_neg admitted]
        exact isSupported_refusal step

end Steps

section Parts

variable {Part : Type}

/-- Parts are collected without asking a value for an operation that it lacks. -/
def IsSupportedCollection (collected : Except Fault (Collected Part)) : Prop :=
  ∀ typeName operation, collected ≠ .error (.lacksOperation typeName operation)

/-- An error is the same for results of any other type. -/
theorem IsSupported.of_error
    {Result Other : Type}
    {refusal : Refusal}
    (supported : IsSupported (.error refusal : Except Refusal Result)) :
    IsSupported (.error refusal : Except Refusal Other) :=
  fun typeName operation same =>
    supported typeName operation (congrArg Except.error (Except.error.inj same))

theorem isSupported_acceptScalar
    {Result : Type}
    {traits : Traits Value}
    {toValue : Result → Value}
    (supported : ∀ result, IsSupported (runSteps traits.steps (toValue result)))
    (fit : Fit)
    (reading : Reading Result) :
    IsSupported (acceptScalar traits fit toValue reading) := by
  cases reading with
  | error violation => exact isSupported_issues _
  | ok found =>
      have steps := supported found.1
      simp only [acceptScalar]
      cases run : runSteps traits.steps (toValue found.1) with
      | ok value => exact isSupported_ok _
      | error refusal =>
          rw [run] at steps
          exact steps.of_error

theorem isSupported_buildList
    {traits : Traits Value}
    (fitting : ∀ step ∈ traits.steps, step.rule.IsForList)
    (items : List Instance)
    (fit : Fit) :
    IsSupported (buildList traits items fit) := by
  have steps := isSupported_runLengthSteps fitting items.length
  simp only [buildList]
  cases run : runLengthSteps traits.steps items.length with
  | ok => exact isSupported_ok _
  | error refusal =>
      rw [run] at steps
      exact steps.of_error

theorem isSupported_acceptMember
    (fit : Fit)
    (found : Except Violation Value) :
    IsSupported (acceptMember fit found) := by
  cases found with
  | error violation => exact isSupported_issues _
  | ok value => exact isSupported_ok _

theorem isSupportedCollection_collectPart
    {place : Place}
    {toPart : Instance → Part}
    {fit : Fit}
    {rest : Fit → Except Fault (Collected Part)}
    {outcome : Outcome}
    (supported : IsSupported outcome)
    (others : ∀ after, IsSupportedCollection (rest after)) :
    IsSupportedCollection (collectPart place toPart fit rest outcome) := by
  intro typeName operation same
  cases outcome with
  | ok accepted => exact others accepted.2 typeName operation (map_eq_error_iff.mp same)
  | error refusal =>
      cases refusal with
      | issues issues => exact others fit typeName operation (map_eq_error_iff.mp same)
      | fault fault =>
          obtain rfl := Except.error.inj same
          exact supported typeName operation rfl

theorem isSupportedCollection_collectItems
    {check : Fit → Value → Outcome}
    (supported : ∀ fit value, IsSupported (check fit value))
    (position : Nat)
    (fit : Fit)
    (items : List Value) :
    IsSupportedCollection (collectItems check position fit items) := by
  induction items generalizing position fit with
  | nil => simp [IsSupportedCollection, collectItems]
  | cons item items inductionHypothesis =>
      exact isSupportedCollection_collectPart (supported fit item) fun after =>
        inductionHypothesis (position + 1) after

theorem isSupported_assemble
    {build : List Part → Fit → Outcome}
    {collected : Except Fault (Collected Part)}
    (supported : IsSupportedCollection collected)
    (built : ∀ parts fit, IsSupported (build parts fit)) :
    IsSupported (assemble build collected) := by
  cases collected with
  | ok found =>
      obtain ⟨issues, parts, fit⟩ := found
      cases issues with
      | nil => exact built parts fit
      | cons issue issues => exact isSupported_issues _
  | error fault =>
      intro typeName operation same
      obtain rfl := Refusal.fault.inj (Except.error.inj same)
      exact supported typeName operation rfl

end Parts

section Schemas

/-- Whatever value a schema validates, no operation is asked of a value that lacks it. -/
def Supported (schema : Schema Value) : Prop :=
  ∀ way fit value, IsSupported (schema.validate way fit value)

theorem isSupportedCollection_validateFields
    {fields : List (String × Schema Value)}
    (supported : ∀ field ∈ fields, field.2.Supported)
    (way : List Nat)
    (position : Nat)
    (entries : List (String × Value))
    (fit : Fit) :
    IsSupportedCollection (validateFields way position fields entries fit) := by
  induction fields generalizing position fit with
  | nil => simp [IsSupportedCollection, validateFields]
  | cons field fields inductionHypothesis =>
      obtain ⟨key, field⟩ := field
      have others := inductionHypothesis fun other member =>
        supported other (List.mem_cons_of_mem (key, field) member)
      have first : field.Supported := supported (key, field) List.mem_cons_self
      rw [validateFields_cons]
      cases entries.lookup key with
      | some value =>
          exact isSupportedCollection_collectPart (first (position :: way) fit value)
            (others (position + 1))
      | none =>
          simp only
          split
          · intro typeName operation same
            exact others (position + 1) fit typeName operation (map_eq_error_iff.mp same)
          · exact others (position + 1) fit

theorem isSupported_validateOnly
    {options : List (Schema Value)}
    (supported : ∀ option ∈ options, option.Supported)
    (way kept : List Nat)
    (position : Nat)
    (fit : Fit)
    (value : Value) :
    IsSupported (validateOnly way kept position options fit value) := by
  induction options generalizing position with
  | nil => exact isSupported_issues _
  | cons option options inductionHypothesis =>
      rw [validateOnly]
      split
      · exact supported option List.mem_cons_self (position :: way) fit value
      · exact inductionHypothesis
          (fun other member => supported other (List.mem_cons_of_mem option member)) (position + 1)

/-- Trying options never fails because an operation is asked of a value that lacks it. -/
theorem tryOptions_ne_failed
    {options : List (Schema Value)}
    (supported : ∀ option ∈ options, option.Supported)
    (way kept : List Nat)
    (value : Value)
    (best : Option (Instance × Fit))
    (position : Nat)
    (typeName operation : String) :
    tryOptions way kept value best position options ≠
      .failed (.lacksOperation typeName operation) := by
  induction options generalizing position best with
  | nil => simp [tryOptions]
  | cons option options inductionHypothesis =>
      have others := inductionHypothesis fun other member =>
        supported other (List.mem_cons_of_mem option member)
      have first := supported option List.mem_cons_self (position :: way) .best value
      rw [tryOptions]
      split
      · cases validated : validate (position :: way) option .best value with
        | ok candidate =>
            simp only
            split
            · simp
            · exact others _ (position + 1)
        | error refusal =>
            cases refusal with
            | issues issues => exact others best (position + 1)
            | fault fault =>
                rw [validated] at first
                intro same
                obtain rfl := Trial.failed.inj same
                exact first typeName operation rfl
      · exact others best (position + 1)

theorem isSupported_outcome
    {trial : Trial}
    (fit : Fit)
    (supported : ∀ typeName operation, trial ≠ .failed (.lacksOperation typeName operation)) :
    IsSupported (trial.outcome fit) := by
  cases trial with
  | settled accepted => exact isSupported_ok _
  | found best =>
      cases best with
      | none => exact isSupported_issues _
      | some best => exact isSupported_ok _
  | failed fault =>
      intro typeName operation same
      obtain rfl := Refusal.fault.inj (Except.error.inj same)
      exact supported typeName operation rfl

theorem IsSupported.collapse
    {outcome : Outcome}
    (supported : IsSupported outcome) :
    IsSupported (Schema.collapse outcome) := by
  unfold Schema.collapse
  split
  · exact isSupported_issues _
  · exact supported

end Schemas

/-- Validation by a well-formed schema asks no value for an operation that it lacks. -/
theorem WellFormed.supported
    {schema : Schema Value}
    (wellFormed : schema.WellFormed) :
    schema.Supported := by
  induction wellFormed with
  | any =>
      intro way fit value
      unfold validate
      split <;> exact isSupported_ok _
  | string fitting =>
      intro way fit value
      unfold validate
      split
      · exact isSupported_ok _
      · exact isSupported_acceptScalar (isSupported_runSteps_text fitting) fit _
  | number fitting =>
      intro way fit value
      have steps := isSupported_runSteps_ofNumeral fitting
      unfold validate
      split
      · exact isSupported_ok _
      · dsimp only
        split
        · exact isSupported_acceptScalar (fun whole => steps (.int whole)) fit _
        · exact isSupported_acceptScalar (fun read => steps (integralNumeral read)) fit _
  | @boolean traits coerce plain =>
      intro way fit value
      have steps : ∀ flag, IsSupported (runSteps traits.steps (.bool flag)) := by simp [plain]
      unfold validate
      split
      · exact isSupported_ok _
      · exact isSupported_acceptScalar steps fit _
  | literal | enumeration =>
      intro way fit value
      unfold validate
      split
      · exact isSupported_ok _
      · exact isSupported_acceptMember fit _
  | @array traits item fitting _ itemSupported =>
      intro way fit value
      unfold validate
      split
      · exact isSupported_ok _
      · dsimp only
        split
        · exact isSupported_assemble
            (isSupportedCollection_collectItems (itemSupported (0 :: way)) 0 fit _)
            (isSupported_buildList fitting)
        · exact isSupported_issues _
  | @object traits fields _ _ _ fieldsSupported =>
      intro way fit value
      unfold validate
      split
      · exact isSupported_ok _
      · dsimp only
        split
        · exact isSupported_assemble
            (isSupportedCollection_validateFields fieldsSupported way 0 _ _)
            fun _ _ => isSupported_ok _
        · exact isSupported_issues _
  | @union traits options _ _ _ optionsSupported =>
      intro way fit value
      unfold validate
      split
      · exact isSupported_ok _
      · dsimp only
        split
        · exact (isSupported_validateOnly optionsSupported way _ 0 fit value).collapse
        · exact isSupported_outcome fit
            (tryOptions_ne_failed optionsSupported way _ value none 0)
  | custom _ _ innerSupported =>
      intro way fit value
      unfold validate
      split
      · exact isSupported_ok _
      · exact innerSupported way fit value

end Schema
end RoutineGate
