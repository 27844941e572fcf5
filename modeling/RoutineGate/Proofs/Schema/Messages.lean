import RoutineGate.Proofs.Request.Fields
import RoutineGate.Proofs.Schema.Options
import RoutineGate.Proofs.Schema.Parts
import RoutineGate.Proofs.Schema.WellFormed
import RoutineGate.Proofs.Service.Sections
import RoutineGate.Schema.Defaults

/-!
# Messages that are no texts

A step takes any value for its message.  One that counts as true and is no text cannot be
shown, so that a step with such a message ends validation with a fault instead of refusing a
value.  In a well-formed schema nothing else ends with a fault: whether validation does is
decided by the steps that it stops at.
-/

namespace RoutineGate
namespace Schema

/-- The fault of a step whose message cannot be shown. -/
def Step.fault? (step : Step Value) : Option Fault :=
  match step.message with
  | none => none
  | some (.text _) => none
  | some message => if message.isTruthy then some (.messageNotText message.typeName) else none

/-- The value that is passed through the steps of a text, a number or a truth value. -/
def operand? : Schema Value → Value → Option Value
  | .string _ coerce, value =>
      (readText (if coerce then coerceText value else value)).toOption.map fun read =>
        .text read.1
  | .number _ integer _, value =>
      if integer then (readInteger value).toOption.map fun read => .int read.1
      else (readNumber value).toOption.map fun read => .ofNumeral (integralNumeral read.1)
  | .boolean .., value => (readBoolean value).toOption.map fun read => .bool read.1
  | _, _ => none

/--
A step that validation of a value stops at: the first one that does not admit what is passed
to it.  Every item and every sent field is validated, and every option up to one that fits
perfectly.
-/
inductive StopsAt : Schema Value → Value → Step Value → Prop
  | scalar {schema : Schema Value} {value operand reached : Value}
      {before after : List (Step Value)} {step : Step Value}
      (given : schema.takesNull value = false)
      (read : schema.operand? value = some operand)
      (steps : schema.traits.steps = before ++ step :: after)
      (passed : runSteps before operand = .ok reached)
      (refused : step.rule.admits reached = false) :
      StopsAt schema value step
  | length {traits : Traits Value} {item : Schema Value} {values : List Value}
      {before after : List (Step Value)} {step : Step Value}
      (accepted : ∀ value ∈ values, item.Accepts value)
      (steps : traits.steps = before ++ step :: after)
      (passed : runLengthSteps before values.length = .ok ())
      (refused : step.rule.admitsLength values.length = false) :
      StopsAt (.array traits item) (.list values) step
  | item {traits : Traits Value} {item : Schema Value} {values : List Value} {value : Value}
      {step : Step Value}
      (listed : value ∈ values)
      (stops : StopsAt item value step) :
      StopsAt (.array traits item) (.list values) step
  | field {traits : Traits Value} {fields : List (String × Schema Value)}
      {entries : List (String × Value)} {key : String} {field : Schema Value} {value : Value}
      {step : Step Value}
      (declared : (key, field) ∈ fields)
      (sent : entries.lookup key = some value)
      (stops : StopsAt field value step) :
      StopsAt (.object traits fields) (.record entries) step
  | option {traits : Traits Value} {options : List (Schema Value)} {position : Nat}
      {option : Schema Value} {value : Value} {step : Step Value}
      (given : (Schema.union traits options).takesNull value = false)
      (here : options[position]? = some option)
      (kept : position ∈ alternatives options)
      (unsettled : ∀ earlier < position, earlier ∈ alternatives options →
        ∀ other, options[earlier]? = some other → ¬other.FitsPerfectly value)
      (stops : StopsAt option value step) :
      StopsAt (.union traits options) value step
  | custom {traits : Traits Value} {name : String} {inner : Schema Value} {value : Value}
      {step : Step Value}
      (given : (Schema.custom traits name inner).takesNull value = false)
      (stops : StopsAt inner value step) :
      StopsAt (.custom traits name inner) value step

/-- Every fault of validation is that of a step that it stops at. -/
def ExplainsFaults (schema : Schema Value) : Prop :=
  ∀ way fit value fault, validate way schema fit value = .error (.fault fault) →
    ∃ step, StopsAt schema value step ∧ step.fault? = some fault

/-! ## Steps -/

section Steps

variable {steps : List (Step Value)} {step : Step Value} {value : Value} {fault : Fault}

theorem Step.refusal_eq_fault_iff :
    step.refusal = .fault fault ↔ step.fault? = some fault := by
  unfold Step.refusal Step.fault?
  cases step.message with
  | none => simp
  | some message =>
      cases message with
      | text content => simp
      | _ => dsimp only; split <;> simp

/-- Steps that fit their values end with a fault only where one does not admit a value. -/
theorem exists_of_runSteps
    (supported : IsSupported (runSteps steps value))
    (failed : runSteps steps value = .error (.fault fault)) :
    ∃ before step after reached, steps = before ++ step :: after ∧
      runSteps before value = .ok reached ∧ step.rule.admits reached = false ∧
      step.fault? = some fault := by
  induction steps generalizing value with
  | nil => exact absurd failed (by simp)
  | cons step steps inductionHypothesis =>
      rw [runSteps, Step.run] at failed supported
      split at failed
      · next changed run =>
          obtain ⟨supports, admits, rfl⟩ : step.rule.supports value = true ∧
              step.rule.admits value = true ∧ step.rule.change value = changed := by
            split at run
            · next supports =>
                split at run
                · next admits => exact ⟨supports, admits, Except.ok.inj run⟩
                · exact absurd run (by simp)
            · exact absurd run (by simp)
          rw [if_pos supports, if_pos admits] at supported
          obtain ⟨before, other, after, reached, rfl, passed, refused, silent⟩ :=
            inductionHypothesis supported failed
          refine ⟨step :: before, other, after, reached, rfl, ?_, refused, silent⟩
          rw [runSteps, Step.run, if_pos supports, if_pos admits]
          exact passed
      · next stopped =>
          obtain rfl := Except.error.inj failed
          split at stopped
          · split at stopped
            · exact absurd stopped (by simp)
            · next refused =>
                exact ⟨[], step, steps, value, rfl, rfl, eq_false_of_ne_true refused,
                  Step.refusal_eq_fault_iff.mp (Except.error.inj stopped)⟩
          · next unsupported =>
              rw [if_neg unsupported] at supported
              exact absurd rfl (supported _ _)

/-- A step whose message cannot be shown ends steps with a fault where it is not passed. -/
theorem runSteps_eq_fault
    {before after : List (Step Value)}
    {reached : Value}
    (passed : runSteps before value = .ok reached)
    (refused : step.rule.admits reached = false)
    (silent : step.fault? = some fault) :
    ∃ other, runSteps (before ++ step :: after) value = .error (.fault other) := by
  have stopped : ∃ other, step.run reached = .error (.fault other) := by
    unfold Step.run
    split
    · rw [if_neg (by simp [refused]), Step.refusal_eq_fault_iff.mpr silent]
      exact ⟨fault, rfl⟩
    · exact ⟨_, rfl⟩
  obtain ⟨other, stopped⟩ := stopped
  refine ⟨other, ?_⟩
  rw [runSteps_append, passed, Except.bind, runSteps, stopped]

theorem exists_of_runLengthSteps
    {length : Nat}
    (supported : IsSupported (runLengthSteps steps length))
    (failed : runLengthSteps steps length = .error (.fault fault)) :
    ∃ before step after, steps = before ++ step :: after ∧
      runLengthSteps before length = .ok () ∧ step.rule.admitsLength length = false ∧
      step.fault? = some fault := by
  induction steps with
  | nil => exact absurd failed (by simp [runLengthSteps])
  | cons step steps inductionHypothesis =>
      rw [runLengthSteps] at failed supported
      split at failed
      · next run =>
          simp only [run] at supported
          obtain ⟨before, other, after, rfl, passed, refused, silent⟩ :=
            inductionHypothesis supported failed
          refine ⟨step :: before, other, after, rfl, ?_, refused, silent⟩
          rw [runLengthSteps, run]
          exact passed
      · next stopped =>
          obtain rfl := Except.error.inj failed
          simp only [stopped] at supported
          unfold Step.runLength at stopped
          split at stopped
          · split at stopped
            · exact absurd stopped (by simp)
            · next refused =>
                exact ⟨[], step, steps, rfl, rfl, eq_false_of_ne_true refused,
                  Step.refusal_eq_fault_iff.mp (Except.error.inj stopped)⟩
          · obtain rfl := Refusal.fault.inj (Except.error.inj stopped)
            exact absurd rfl (supported _ _)

theorem runLengthSteps_eq_fault
    {before after : List (Step Value)}
    {length : Nat}
    (passed : runLengthSteps before length = .ok ())
    (refused : step.rule.admitsLength length = false)
    (silent : step.fault? = some fault) :
    ∃ other, runLengthSteps (before ++ step :: after) length = .error (.fault other) := by
  induction before with
  | nil =>
      have stopped : ∃ other, step.runLength length = .error (.fault other) := by
        unfold Step.runLength
        split
        · rw [if_neg (by simp [refused]), Step.refusal_eq_fault_iff.mpr silent]
          exact ⟨fault, rfl⟩
        · exact ⟨_, rfl⟩
      obtain ⟨other, stopped⟩ := stopped
      refine ⟨other, ?_⟩
      rw [List.nil_append, runLengthSteps, stopped]
  | cons first before inductionHypothesis =>
      rw [runLengthSteps] at passed
      split at passed
      · next run =>
          rw [List.cons_append, runLengthSteps, run]
          exact inductionHypothesis passed
      · exact absurd passed (by simp)

end Steps

/-! ## Which steps end validation with a fault -/

theorem acceptScalar_eq_fault
    {Result : Type}
    {traits : Traits Value}
    {fit : Fit}
    {toValue : Result → Value}
    {reading : Reading Result}
    {fault : Fault}
    (failed : acceptScalar traits fit toValue reading = .error (.fault fault)) :
    ∃ read, reading = .ok read ∧
      runSteps traits.steps (toValue read.1) = .error (.fault fault) := by
  cases reading with
  | error violation => simp [acceptScalar, Refusal.ofViolation] at failed
  | ok read =>
      simp only [acceptScalar] at failed
      split at failed
      · exact absurd failed (by simp)
      · next run => exact ⟨read, rfl, by rw [run, Except.error.inj failed]⟩

theorem acceptMember_ne_fault
    {fit : Fit}
    {found : Except Violation Value}
    {fault : Fault} :
    acceptMember fit found ≠ .error (.fault fault) := by
  cases found <;> simp [acceptMember, Refusal.ofViolation]

/-- Validation stops at a step of a text, a number or a truth value that ends with a fault. -/
theorem exists_stopsAt_of_runSteps
    {schema : Schema Value}
    {value operand : Value}
    {fault : Fault}
    (given : schema.takesNull value = false)
    (read : schema.operand? value = some operand)
    (supported : IsSupported (runSteps schema.traits.steps operand))
    (failed : runSteps schema.traits.steps operand = .error (.fault fault)) :
    ∃ step, StopsAt schema value step ∧ step.fault? = some fault := by
  obtain ⟨before, step, after, reached, steps, passed, refused, silent⟩ :=
    exists_of_runSteps supported failed
  exact ⟨step, .scalar given read steps passed refused, silent⟩

/-- Null that a schema accepts by itself never ends validation with a fault. -/
theorem explainsFaults_of_given
    {schema : Schema Value}
    (otherwise : ∀ way fit value fault, schema.takesNull value = false →
      validate way schema fit value = .error (.fault fault) →
        ∃ step, StopsAt schema value step ∧ step.fault? = some fault) :
    schema.ExplainsFaults := by
  intro way fit value fault failed
  cases given : schema.takesNull value with
  | true =>
      rw [validate_of_takesNull given] at failed
      exact absurd failed (by simp)
  | false => exact otherwise way fit value fault given failed

/-- A list ends with the fault of an item, or of a step about its length. -/
theorem exists_stopsAt_of_list
    {traits : Traits Value}
    {item : Schema Value}
    (fitting : ∀ step ∈ traits.steps, step.rule.IsForList)
    (explained : item.ExplainsFaults)
    {way : List Nat}
    {fit : Fit}
    {values : List Value}
    {fault : Fault}
    (failed : validate way (.array traits item) fit (.list values) = .error (.fault fault)) :
    ∃ step, StopsAt (.array traits item) (.list values) step ∧ step.fault? = some fault := by
  rw [validate_list] at failed
  obtain collected | ⟨parts, after, collected, built⟩ := assemble_eq_fault_iff.mp failed
  · obtain ⟨value, listed, before, stopped⟩ := exists_of_collectItems collected
    obtain ⟨step, stops, silent⟩ := explained _ _ _ _ stopped
    exact ⟨step, .item listed stops, silent⟩
  · have items := forall₂_of_collectItems (fun _ _ _ => issues_ne_nil_of_refused) collected
    have accepted : ∀ value ∈ values, item.Accepts value := by
      intro value listed
      obtain ⟨part, -, before, after, validated⟩ := exists_of_forall₂ items listed
      exact accepts_of_validate validated
    have stopped : runLengthSteps traits.steps values.length = .error (.fault fault) := by
      rw [items.length_eq]
      unfold buildList at built
      split at built
      · exact absurd built (by simp)
      · next run => rw [run, Except.error.inj built]
    obtain ⟨before, step, rest, steps, passed, refused, silent⟩ :=
      exists_of_runLengthSteps (isSupported_runLengthSteps fitting _) stopped
    exact ⟨step, .length accepted steps passed refused, silent⟩

/-- A well-formed schema ends validation with a fault only at a step that it stops at. -/
theorem explainsFaults_of_wellFormed
    {schema : Schema Value}
    (wellFormed : schema.WellFormed) :
    schema.ExplainsFaults := by
  induction wellFormed with
  | any =>
      refine explainsFaults_of_given fun way fit value fault given failed => ?_
      rw [validate_any given] at failed
      exact absurd failed (by simp)
  | string fitting =>
      refine explainsFaults_of_given fun way fit value fault given failed => ?_
      rw [validate_string given] at failed
      obtain ⟨read, reading, stopped⟩ := acceptScalar_eq_fault failed
      refine exists_stopsAt_of_runSteps given ?_ (isSupported_runSteps_text fitting read.1) stopped
      simp only [operand?, reading, Except.toOption, Option.map_some]
  | @number traits integer coerce fitting =>
      refine explainsFaults_of_given fun way fit value fault given failed => ?_
      have supported := isSupported_runSteps_ofNumeral fitting
      cases integer with
      | true =>
          rw [validate_integer given] at failed
          obtain ⟨read, reading, stopped⟩ := acceptScalar_eq_fault failed
          refine exists_stopsAt_of_runSteps given ?_ (supported (.int read.1)) stopped
          simp only [operand?, if_true, reading, Except.toOption, Option.map_some]
          rfl
      | false =>
          rw [validate_number given] at failed
          obtain ⟨read, reading, stopped⟩ := acceptScalar_eq_fault failed
          refine exists_stopsAt_of_runSteps given ?_ (supported (integralNumeral read.1)) stopped
          simp only [operand?, Bool.false_eq_true, if_false, reading, Except.toOption,
            Option.map_some]
  | @boolean traits coerce plain =>
      refine explainsFaults_of_given fun way fit value fault given failed => ?_
      rw [validate_boolean given] at failed
      obtain ⟨read, -, stopped⟩ := acceptScalar_eq_fault failed
      rw [plain] at stopped
      exact absurd stopped (by simp)
  | literal =>
      refine explainsFaults_of_given fun way fit value fault given failed => ?_
      rw [validate_literal given] at failed
      exact absurd failed acceptMember_ne_fault
  | enumeration =>
      refine explainsFaults_of_given fun way fit value fault given failed => ?_
      rw [validate_enumeration given] at failed
      exact absurd failed acceptMember_ne_fault
  | array fitting _ inductionHypothesis =>
      refine explainsFaults_of_given fun way fit value fault given failed => ?_
      by_cases isList : ∃ values, value = .list values
      · obtain ⟨values, rfl⟩ := isList
        exact exists_stopsAt_of_list fitting inductionHypothesis failed
      · rw [validate_array_of_ne_list given (not_exists.mp isList)] at failed
        exact absurd failed (by simp [Refusal.ofViolation])
  | object _ _ _ inductionHypothesis =>
      refine explainsFaults_of_given fun way fit value fault given failed => ?_
      by_cases isRecord : ∃ entries, value = .record entries
      · obtain ⟨entries, rfl⟩ := isRecord
        rw [validate_record] at failed
        obtain validated | ⟨parts, after, -, built⟩ := assemble_eq_fault_iff.mp failed
        · obtain ⟨key, field, value, declared, sent, below, before, stopped⟩ :=
            exists_of_validateFields validated
          obtain ⟨step, stops, silent⟩ := inductionHypothesis _ declared _ _ _ _ stopped
          exact ⟨step, .field declared sent stops, silent⟩
        · exact absurd built (by simp [buildRecord])
      · rw [validate_object_of_ne_record given (not_exists.mp isRecord)] at failed
        exact absurd failed (by simp [Refusal.ofViolation])
  | union _ _ _ inductionHypothesis =>
      refine explainsFaults_of_given fun way fit value fault given failed => ?_
      obtain ⟨position, option, here, kept, ⟨below, before, stopped⟩, unsettled⟩ :=
        exists_of_union_eq_fault given failed
      obtain ⟨step, stops, silent⟩ := inductionHypothesis option
        (List.mem_of_getElem? here) _ _ _ _ stopped
      exact ⟨step, .option given here kept unsettled stops, silent⟩
  | custom _ _ inductionHypothesis =>
      refine explainsFaults_of_given fun way fit value fault given failed => ?_
      rw [validate_custom given] at failed
      obtain ⟨step, stops, silent⟩ := inductionHypothesis _ _ _ _ failed
      exact ⟨step, .custom given stops, silent⟩

/-- What is read of a scalar passes through the steps of its schema. -/
theorem validate_of_operand?
    {schema : Schema Value}
    {value operand : Value}
    (given : schema.takesNull value = false)
    (read : schema.operand? value = some operand)
    {refusal : Refusal}
    (stopped : runSteps schema.traits.steps operand = .error refusal)
    (way : List Nat)
    (fit : Fit) :
    validate way schema fit value = .error refusal := by
  have scalar : ∀ {Result : Type} {toValue : Result → Value} {reading : Reading Result},
      reading.toOption.map (fun read => toValue read.1) = some operand →
        acceptScalar schema.traits fit toValue reading = .error refusal := by
    intro Result toValue reading observed
    obtain ⟨read, rfl, rfl⟩ := exists_ok_of_toOption_map observed
    simp only [acceptScalar, stopped]
  cases schema with
  | string =>
      rw [validate_string given]
      exact scalar read
  | number traits integer coerce =>
      cases integer with
      | true =>
          rw [validate_integer given]
          exact scalar read
      | false =>
          rw [validate_number given]
          exact scalar read
  | boolean =>
      rw [validate_boolean given]
      exact scalar read
  | _ => exact absurd read (by simp [operand?])

/-- A step that validation stops at ends it with a fault if its message cannot be shown. -/
theorem StopsAt.faults
    {schema : Schema Value}
    {value : Value}
    {step : Step Value}
    (stops : StopsAt schema value step)
    {fault : Fault}
    (silent : step.fault? = some fault) :
    schema.Faults value := by
  induction stops with
  | scalar given read steps passed refused =>
      obtain ⟨other, stopped⟩ := runSteps_eq_fault passed refused silent
      rw [← steps] at stopped
      exact fun way fit => ⟨other, validate_of_operand? given read stopped way fit⟩
  | @length traits item values before after step accepted steps passed refused =>
      intro way fit
      obtain ⟨other, stopped⟩ := runLengthSteps_eq_fault passed refused silent
      obtain ⟨parts, last, collected, length⟩ := exists_collectItems_eq_ok
        (fun value listed fit => (accepted value listed).exists (0 :: way) fit) 0 fit
      refine ⟨other, ?_⟩
      rw [validate_list]
      refine assemble_eq_fault_iff.mpr (.inr ⟨parts, last, collected, ?_⟩)
      rw [buildList, length, steps, stopped]
  | item listed _ inductionHypothesis => exact (inductionHypothesis silent).list listed _
  | field declared sent _ inductionHypothesis =>
      exact (inductionHypothesis silent).record declared sent _
  | @option traits options position option value step given here kept unsettled _
      inductionHypothesis =>
      intro way fit
      rw [validate_union given]
      split
      · next single =>
          obtain ⟨only, same⟩ := List.length_eq_one_iff.mp single
          obtain ⟨other, validated⟩ := exists_validateOnly_eq_fault here
            (by rwa [Nat.zero_add]) (fun earlier before among => by
              rw [same, List.mem_singleton] at kept among
              omega) (inductionHypothesis silent) fit
          exact ⟨other, by rw [validated]; rfl⟩
      · obtain ⟨other, tried⟩ := exists_tryOptions_eq_failed here (by rwa [Nat.zero_add])
          (by simpa only [Nat.zero_add] using unsettled) (inductionHypothesis silent) none
        exact ⟨other, by rw [tried]; rfl⟩
  | custom given _ inductionHypothesis => exact (inductionHypothesis silent).custom given

/-- A step of a schema, at any depth. -/
inductive HasStep : Schema Value → Step Value → Prop
  | own {schema : Schema Value} {step : Step Value}
      (listed : step ∈ schema.traits.steps) :
      HasStep schema step
  | item {traits : Traits Value} {item : Schema Value} {step : Step Value}
      (within : HasStep item step) :
      HasStep (.array traits item) step
  | field {traits : Traits Value} {fields : List (String × Schema Value)} {key : String}
      {field : Schema Value} {step : Step Value}
      (declared : (key, field) ∈ fields)
      (within : HasStep field step) :
      HasStep (.object traits fields) step
  | option {traits : Traits Value} {options : List (Schema Value)} {option : Schema Value}
      {step : Step Value}
      (listed : option ∈ options)
      (within : HasStep option step) :
      HasStep (.union traits options) step
  | custom {traits : Traits Value} {name : String} {inner : Schema Value} {step : Step Value}
      (within : HasStep inner step) :
      HasStep (.custom traits name inner) step

/-- Validation stops at steps of the schema only. -/
theorem StopsAt.hasStep
    {schema : Schema Value}
    {value : Value}
    {step : Step Value}
    (stops : StopsAt schema value step) :
    HasStep schema step := by
  induction stops with
  | scalar _ _ steps =>
      refine .own ?_
      rw [steps]
      exact List.mem_append_right _ List.mem_cons_self
  | length _ steps =>
      refine .own ?_
      rw [traits, steps]
      exact List.mem_append_right _ List.mem_cons_self
  | item _ _ inductionHypothesis => exact .item inductionHypothesis
  | field declared _ _ inductionHypothesis => exact .field declared inductionHypothesis
  | option _ here _ _ _ inductionHypothesis =>
      exact .option (List.mem_of_getElem? here) inductionHypothesis
  | custom _ _ inductionHypothesis => exact .custom inductionHypothesis

/-- A model ends validation with the faults of a schema of records with its fields. -/
theorem validateModel_eq_fault_iff
    {model : String}
    {fields : List (String × Schema Value)}
    {value : Value}
    {fault : Fault} :
    validateModel model fields value = .error (.fault fault) ↔
      validate [] (.object {} fields) {} value = .error (.fault fault) := by
  cases value with
  | record entries =>
      rw [validateModel_record]
      cases validate [] (.object {} fields) {} (.record entries) <;> simp
  | _ => simp [validateModel, validate, acceptsNullHere, traits, Refusal.ofViolation]

end Schema

namespace Request

open Documentation (ParamDirective)

/-- A section is answered: its value is accepted, or refused with issues. -/
def IsAnswered (outcome : Except Schema.Refusal Value) : Prop :=
  (∃ output, outcome = .ok output) ∨ ∃ issues, issues ≠ [] ∧ outcome = .error (.issues issues)

/--
A compiled section accepts a value or refuses it with issues exactly if no step that it stops
at has a message that counts as true and is no text.  Otherwise validation ends with the fault
of such a step.  So a section without such a step answers every value.
-/
theorem isAnswered_iff_of_compileSchema
    {procedure : String}
    {scope : Expression.Scope}
    {directives : List ParamDirective}
    {schema : RequestSchema}
    (registered : scope.validators.WellFormed)
    (compiled : compileSchema procedure scope directives = .ok schema)
    {place : Section}
    {fields : Fields}
    (carried : schema.fields? place = some fields)
    (raw : Value) :
    (IsAnswered (schema.validate place raw) ↔
      ∀ step, Schema.StopsAt (.object {} fields) raw step → step.fault? = none) ∧
    (∀ fault, schema.validate place raw = .error (.fault fault) →
      ∃ step, Schema.StopsAt (.object {} fields) raw step ∧ step.fault? = some fault) ∧
    ((∀ step, Schema.HasStep (.object {} fields) step → step.fault? = none) →
      IsAnswered (schema.validate place raw)) := by
  obtain ⟨distinct, wellFormed⟩ := wellFormed_of_compileSchema registered compiled carried
  have explained : ∀ fault, schema.validate place raw = .error (.fault fault) →
      ∃ step, Schema.StopsAt (.object {} fields) raw step ∧ step.fault? = some fault := by
    intro fault failed
    rw [validate_of_fields? carried, Schema.validateModel_eq_fault_iff] at failed
    exact Schema.explainsFaults_of_wellFormed (.object rfl distinct wellFormed) _ _ _ _ failed
  have answered : (∀ step, Schema.StopsAt (.object {} fields) raw step → step.fault? = none) →
      IsAnswered (schema.validate place raw) := by
    intro shown
    cases outcome : schema.validate place raw with
    | ok output => exact .inl ⟨output, rfl⟩
    | error refusal =>
        cases refusal with
        | issues issues => exact .inr ⟨issues, issues_ne_nil_of_validate outcome, rfl⟩
        | fault fault =>
            obtain ⟨step, stops, silent⟩ := explained fault outcome
            exact absurd (silent.symm.trans (shown step stops)) (by simp)
  refine ⟨⟨?_, answered⟩, explained, fun shown => answered fun step stops =>
    shown step stops.hasStep⟩
  intro accepted step stops
  cases silent : step.fault? with
  | none => rfl
  | some fault =>
      obtain ⟨other, failed⟩ := stops.faults silent [] {}
      rw [← Schema.validateModel_eq_fault_iff, ← validate_of_fields? carried] at failed
      obtain ⟨output, same⟩ | ⟨issues, -, same⟩ := accepted
      · exact absurd (failed.symm.trans same) (by simp)
      · exact absurd (failed.symm.trans same) (by simp)

/-- A parameter of the body with a message for texts that are too short. -/
def shortTitle : ParamDirective where
  name := "a"
  key := "x"
  source := "body"
  expression := "z.string().min(3, 'Too short')"

/-- A parameter of the body with a number in place of the message. -/
def numberedTitle : ParamDirective where
  name := "a"
  key := "x"
  source := "body"
  expression := "z.string().min(3, 5)"

/-- A text of two characters. -/
def twoLetters : Value := .record [("x", .text "ab")]

/-- The text is refused with an issue, as the step that it stops at has a text for message. -/
theorem isAnswered_shortTitle :
    ∃ schema fields, compileSchema "p" .empty [shortTitle] = .ok schema ∧
      schema.fields? .body = some fields ∧ IsAnswered (schema.validate .body twoLetters) ∧
      ∀ step, Schema.StopsAt (.object {} fields) twoLetters step → step.fault? = none := by
  have observed : (compileSchema "p" .empty [shortTitle]).toOption.map (fun schema =>
      ((schema.fields? .body).isSome,
        (Schema.issuesOf (schema.validate .body twoLetters)).length)) = some (true, 1) := by
    decide +kernel
  obtain ⟨schema, compiled, same⟩ := exists_ok_of_toOption_map observed
  obtain ⟨carried, refused⟩ := Prod.mk.inj same
  obtain ⟨fields, carried⟩ := Option.isSome_iff_exists.mp carried
  have issue : Schema.issuesOf (schema.validate .body twoLetters) ≠ [] :=
    List.ne_nil_of_length_eq_add_one refused
  have answered : IsAnswered (schema.validate .body twoLetters) :=
    .inr ⟨_, issue, Schema.eq_of_issuesOf_ne_nil issue⟩
  exact ⟨schema, fields, compiled, carried, answered,
    (isAnswered_iff_of_compileSchema Expression.Validators.wellFormed_empty compiled carried
      twoLetters).1.mp answered⟩

/-- A number for a message makes validation end with a fault. -/
theorem not_isAnswered_numberedTitle :
    ∃ schema, compileSchema "api_post_x" .empty [numberedTitle] = .ok schema ∧
      (schema.fields? .body).isSome = true ∧
      ¬IsAnswered (schema.validate .body twoLetters) := by
  have observed : (compileSchema "api_post_x" .empty [numberedTitle]).toOption.map
      (fun schema => ((schema.fields? .body).isSome,
        (schema.validate .body twoLetters).toOption.isSome,
        (Schema.issuesOf (schema.validate .body twoLetters)).length)) =
        some (true, false, 0) := by
    decide +kernel
  obtain ⟨schema, compiled, same⟩ := exists_ok_of_toOption_map observed
  obtain ⟨carried, same⟩ := Prod.mk.inj same
  obtain ⟨refused, unexplained⟩ := Prod.mk.inj same
  refine ⟨schema, compiled, carried, ?_⟩
  rintro (⟨output, outcome⟩ | ⟨issues, issue, outcome⟩)
  · rw [outcome] at refused
    exact absurd refused (by simp [Except.toOption])
  · rw [outcome] at unexplained
    exact issue (List.length_eq_zero_iff.mp unexplained)

end Request
end RoutineGate
