import RoutineGate.Proofs.Schema.Keywords
import RoutineGate.Proofs.Schema.Locations
import RoutineGate.Proofs.Schema.Unions

/-!
# Required keys

A published record schema lists the keys that have to be there, and validation reports exactly
those of them that are not.  This holds at every record of a value, but not within unions: a
union refuses a value as a whole.
-/

namespace RoutineGate
namespace Schema

/-! ## Values that are there -/

/-- No issue says that the value itself is missing. -/
def IsPresent (issues : List Issue) : Prop :=
  ∀ issue ∈ issues, issue.location = [] → issue.violation ≠ .missing

section Scalars

variable {violation : Violation} {value : Value}

theorem isPresent_nil : IsPresent [] :=
  fun _ listed => absurd listed List.not_mem_nil

theorem isPresent_ofViolation
    (other : violation ≠ .missing) :
    IsPresent [{ location := [], violation }] := by
  intro issue listed _
  obtain rfl := List.mem_singleton.mp listed
  exact other

/-- A step says nothing but that it fails. -/
theorem violation_of_refusal
    {Result : Type}
    {step : Step Value}
    {issue : Issue}
    (listed : issue ∈ issuesOf (.error step.refusal : Except Refusal Result)) :
    issue.violation = .failedStep step.rule := by
  unfold Step.refusal at listed
  split at listed
  · rw [List.mem_singleton.mp listed]
  · rw [List.mem_singleton.mp listed]
    split <;> rfl
  · split at listed
    · exact absurd listed List.not_mem_nil
    · rw [List.mem_singleton.mp listed]

theorem isPresent_refusal
    {Result : Type}
    (step : Step Value) :
    IsPresent (issuesOf (.error step.refusal : Except Refusal Result)) := by
  intro issue listed _
  rw [violation_of_refusal listed]
  simp

/-- A refusal is the same for results of any other type. -/
theorem IsPresent.of_error
    {First Second : Type}
    {refusal : Refusal}
    (present : IsPresent (issuesOf (.error refusal : Except Refusal First))) :
    IsPresent (issuesOf (.error refusal : Except Refusal Second)) := by
  cases refusal <;> exact present

theorem isPresent_run
    (step : Step Value)
    (value : Value) :
    IsPresent (issuesOf (step.run value)) := by
  unfold Step.run
  split
  · split
    · exact isPresent_nil
    · exact isPresent_refusal step
  · exact isPresent_nil

theorem isPresent_runSteps
    (steps : List (Step Value))
    (value : Value) :
    IsPresent (issuesOf (runSteps steps value)) := by
  induction steps generalizing value with
  | nil => exact isPresent_nil
  | cons step steps inductionHypothesis =>
      have own := isPresent_run step value
      rw [runSteps]
      cases run : step.run value with
      | ok changed => exact inductionHypothesis changed
      | error refusal => rwa [run] at own

theorem isPresent_runLength
    (step : Step Value)
    (length : Nat) :
    IsPresent (issuesOf (step.runLength length)) := by
  unfold Step.runLength
  split
  · split
    · exact isPresent_nil
    · exact isPresent_refusal step
  · exact isPresent_nil

theorem isPresent_runLengthSteps
    (steps : List (Step Value))
    (length : Nat) :
    IsPresent (issuesOf (runLengthSteps steps length)) := by
  induction steps with
  | nil => exact isPresent_nil
  | cons step steps inductionHypothesis =>
      have own := isPresent_runLength step length
      rw [runLengthSteps]
      cases run : step.runLength length with
      | ok => exact inductionHypothesis
      | error refusal =>
          rw [run] at own
          exact own.of_error

/-- A list of a wrong length is there. -/
theorem isPresent_buildList
    (traits : Traits Value)
    (items : List Instance)
    (fit : Fit) :
    IsPresent (issuesOf (buildList traits items fit)) := by
  have counted := isPresent_runLengthSteps traits.steps items.length
  unfold buildList
  cases run : runLengthSteps traits.steps items.length with
  | ok => exact isPresent_nil
  | error refusal =>
      rw [run] at counted
      exact counted.of_error

theorem ne_missing_of_readText
    (refused : readText value = .error violation) :
    violation ≠ .missing := by
  unfold readText at refused
  grind

theorem ne_missing_of_readNumber
    (refused : readNumber value = .error violation) :
    violation ≠ .missing := by
  unfold readNumber requireFinite at refused
  grind

theorem ne_missing_of_readInteger
    (refused : readInteger value = .error violation) :
    violation ≠ .missing := by
  unfold readInteger integerOfFloat at refused
  grind

theorem ne_missing_of_readBoolean
    (refused : readBoolean value = .error violation) :
    violation ≠ .missing := by
  unfold readBoolean truthOfInt at refused
  grind

theorem ne_missing_of_findMember
    {values : List Value}
    (refused : findMember values value = .error violation) :
    violation ≠ .missing := by
  unfold findMember at refused
  grind

theorem isPresent_acceptScalar
    {Result : Type}
    {reading : Reading Result}
    (other : ∀ violation, reading = .error violation → violation ≠ .missing)
    (traits : Traits Value)
    (fit : Fit)
    (toValue : Result → Value) :
    IsPresent (issuesOf (acceptScalar traits fit toValue reading)) := by
  cases reading with
  | error violation => exact isPresent_ofViolation (other violation rfl)
  | ok found =>
      have stepwise := isPresent_runSteps traits.steps (toValue found.1)
      rw [acceptScalar]
      cases run : runSteps traits.steps (toValue found.1) with
      | ok value => exact isPresent_nil
      | error refusal =>
          rw [run] at stepwise
          exact stepwise.of_error

theorem isPresent_acceptMember
    (values : List Value)
    (fit : Fit) :
    IsPresent (issuesOf (acceptMember fit (findMember values value))) := by
  cases found : findMember values value with
  | ok member => exact isPresent_nil
  | error violation => exact isPresent_ofViolation (ne_missing_of_findMember found)

end Scalars

/-- What is made of parts is there, and all other issues are below it. -/
theorem isPresent_assemble
    {Part : Type}
    {build : List Part → Fit → Outcome}
    {collected : Collected Part}
    (built : ∀ parts fit, IsPresent (issuesOf (build parts fit)))
    (below : ∀ issue ∈ collected.issues, issue.location ≠ []) :
    IsPresent (issuesOf (assemble build (.ok collected))) := by
  obtain ⟨issues, parts, fit⟩ := collected
  cases issues with
  | nil => exact built parts fit
  | cons issue issues => exact fun issue listed here => absurd here (below issue listed)

theorem ne_nil_of_head?_eq_some
    {location : List Place}
    {place : Place}
    (first : location.head? = some place) :
    location ≠ [] := by
  rintro rfl
  exact absurd first (by simp)

/-- A union reports nothing but that no option fits. -/
theorem eq_noAlternative_of_union
    {traits : Traits Value}
    {options : List (Schema Value)}
    {way : List Nat}
    {fit : Fit}
    {value : Value}
    {issue : Issue}
    (listed : issue ∈ issuesOf (validate way (.union traits options) fit value)) :
    issue = { location := [], violation := .noAlternative } := by
  cases validated : validate way (.union traits options) fit value with
  | ok result =>
      rw [validated] at listed
      exact absurd listed List.not_mem_nil
  | error refusal =>
      rw [validated] at listed
      cases refusal with
      | fault fault => exact absurd listed List.not_mem_nil
      | issues issues =>
          obtain ⟨rfl, -⟩ := refuses_of_union validated
          exact List.mem_singleton.mp listed

/-- No schema says of a value that it is missing. -/
theorem isPresent_validate
    (schema : Schema Value)
    (way : List Nat)
    (fit : Fit)
    (value : Value) :
    IsPresent (issuesOf (validate way schema fit value)) := by
  cases given : schema.takesNull value with
  | true =>
      rw [validate_of_takesNull given]
      exact isPresent_nil
  | false =>
      match schema, given with
      | .any traits, given =>
          rw [validate_any given]
          exact isPresent_nil
      | .string traits coerce, given =>
          rw [validate_string given]
          exact isPresent_acceptScalar (fun _ => ne_missing_of_readText) traits fit _
      | .number traits true coerce, given =>
          rw [validate_integer given]
          exact isPresent_acceptScalar (fun _ => ne_missing_of_readInteger) traits fit _
      | .number traits false coerce, given =>
          rw [validate_number given]
          exact isPresent_acceptScalar (fun _ => ne_missing_of_readNumber) traits fit _
      | .boolean traits coerce, given =>
          rw [validate_boolean given]
          exact isPresent_acceptScalar (fun _ => ne_missing_of_readBoolean) traits fit _
      | .literal traits allowed, given =>
          rw [validate_literal given]
          exact isPresent_acceptMember [allowed] fit
      | .enumeration traits allowed, given =>
          rw [validate_enumeration given]
          exact isPresent_acceptMember allowed fit
      | .array traits item, given =>
          by_cases isList : ∃ items, value = .list items
          · obtain ⟨items, rfl⟩ := isList
            rw [validate_list]
            cases collected : collectItems (validate (0 :: way) item) 0 fit items with
            | error fault => exact isPresent_nil
            | ok parts =>
                refine isPresent_assemble (isPresent_buildList traits) fun issue listed => ?_
                obtain ⟨later, -, first⟩ := head?_location_of_collectItems collected issue listed
                exact ne_nil_of_head?_eq_some first
          · rw [validate_array_of_ne_list given (not_exists.mp isList)]
            exact isPresent_ofViolation (by simp)
      | .object traits fields, given =>
          by_cases isRecord : ∃ entries, value = .record entries
          · obtain ⟨entries, rfl⟩ := isRecord
            rw [validate_record]
            cases collected : validateFields way 0 fields entries (fit.lower .lax) with
            | error fault => exact isPresent_nil
            | ok parts =>
                refine isPresent_assemble (fun _ _ => isPresent_nil) fun issue listed => ?_
                obtain ⟨key, -, first⟩ := head?_location_of_validateFields collected issue listed
                exact ne_nil_of_head?_eq_some first
          · rw [validate_object_of_ne_record given (not_exists.mp isRecord)]
            exact isPresent_ofViolation (by simp)
      | .union traits options, given =>
          intro issue listed _
          rw [eq_noAlternative_of_union listed]
          simp
      | .custom traits name inner, given =>
          rw [validate_custom given]
          exact isPresent_validate inner way fit value

/-! ## Keys of records -/

/-- A key is reported as missing from the record at a location. -/
def ReportsMissing (location : List Place) (key : String) (issues : List Issue) : Prop :=
  ∃ issue ∈ issues, issue.location = location ++ [.key key] ∧ issue.violation = .missing

section Missing

variable {location : List Place} {key : String}

theorem reportsMissing_append_iff
    {issues others : List Issue} :
    ReportsMissing location key (issues ++ others) ↔
      ReportsMissing location key issues ∨ ReportsMissing location key others := by
  simp only [ReportsMissing, List.mem_append, or_and_right, exists_or]

/-- A location adds itself to what is reported there. -/
theorem reportsMissing_map_within_iff
    {issues : List Issue} :
    ReportsMissing location key (issues.map (Issue.within location)) ↔
      ReportsMissing [] key issues := by
  simp [ReportsMissing, Issue.within]

/-- What is missing from a record is reported below its location. -/
theorem reportsMissing_issuesAt_iff
    {issues : List Issue} :
    ReportsMissing location key (issuesAt location issues) ↔
      ReportsMissing location key issues := by
  constructor
  · rintro ⟨issue, listed, there⟩
    exact ⟨issue, List.mem_of_mem_filter listed, there⟩
  · rintro ⟨issue, listed, there, violation⟩
    exact ⟨issue, List.mem_filter.mpr ⟨listed, by simp [there]⟩, there, violation⟩

end Missing

section Records

variable {traits : Traits Value} {fields : List (String × Schema Value)}
variable {entries : List (String × Value)} {key : String}

theorem mem_requiredKeys_cons_iff
    {other : String}
    {field : Schema Value} :
    key ∈ requiredKeys ((other, field) :: fields) ↔
      key = other ∧ field.isRequired = true ∨ key ∈ requiredKeys fields := by
  rw [requiredKeys, requiredKeys, List.filter_cons]
  cases field.isRequired <;> simp

/-- The fields of a record report exactly the required keys that are absent. -/
theorem reportsMissing_of_validateFields
    {way : List Nat}
    {position : Nat}
    {fit : Fit}
    {collected : Collected (String × Instance)}
    (found : validateFields way position fields entries fit = .ok collected) :
    ReportsMissing [] key collected.issues ↔
      entries.lookup key = none ∧ key ∈ requiredKeys fields := by
  induction fields generalizing position fit collected with
  | nil =>
      obtain rfl := Except.ok.inj found
      simp [ReportsMissing, requiredKeys]
  | cons field fields inductionHypothesis =>
      obtain ⟨other, field⟩ := field
      rw [validateFields_cons] at found
      rw [mem_requiredKeys_cons_iff]
      cases sent : entries.lookup other with
      | some value =>
          rw [sent] at found
          obtain ⟨after, others, rested, same⟩ := exists_of_collectPart_eq_ok found
          -- what is reported under a key that is sent is about its value, which is there
          have present : ¬ReportsMissing [] key
              ((issuesOf (validate (position :: way) field fit value)).map
                (Issue.under (.key other))) := by
            rintro ⟨issue, listed, here, violation⟩
            obtain ⟨inner, own, rfl⟩ := List.mem_map.mp listed
            exact isPresent_validate field _ _ _ inner own (List.cons.inj here).2 violation
          have different : entries.lookup key = none → key ≠ other := by
            rintro absent rfl
            exact absurd (absent.symm.trans sent) (by simp)
          rw [same, reportsMissing_append_iff, inductionHypothesis rested]
          tauto
      | none =>
          simp only [sent] at found
          split at found
          · next required =>
              obtain ⟨others, rested, rfl⟩ := map_eq_ok_iff.mp found
              have own : ReportsMissing [] key
                  [{ location := [.key other], violation := .missing }] ↔ key = other := by
                simp [ReportsMissing, eq_comm]
              rw [Collected.addIssues, reportsMissing_append_iff, own,
                inductionHypothesis rested]
              have absent : key = other → entries.lookup key = none := fun same => same ▸ sent
              tauto
          · next optional =>
              rw [inductionHypothesis found]
              tauto

/-- A record reports exactly the required keys that are absent. -/
theorem reportsMissing_of_validate
    (answers : ¬(Schema.object traits fields).Faults (.record entries)) :
    ReportsMissing [] key (issuesOf (validate [] (.object traits fields) {} (.record entries))) ↔
      entries.lookup key = none ∧ key ∈ requiredKeys fields := by
  rw [validate_record]
  cases collected : validateFields [] 0 fields entries (Fit.lower {} .lax) with
  | error fault =>
      have failed : validate [] (.object traits fields) {} (.record entries) =
          .error (.fault fault) := by
        rw [validate_record, collected, assemble]
      exact absurd (faults_of_validate failed) answers
  | ok parts =>
      rw [← reportsMissing_of_validateFields collected]
      obtain ⟨issues, accepted, fit⟩ := parts
      cases issues <;> rfl

/-- A record schema and its model report the same of a record. -/
theorem issuesOf_validateModel
    (model : String)
    (traits : Traits Value)
    (fields : List (String × Schema Value))
    (entries : List (String × Value)) :
    issuesOf (validateModel model fields (.record entries)) =
      issuesOf (validate [] (.object traits fields) {} (.record entries)) := by
  rw [validateModel_record, validate_record, validate_record]
  cases assemble (buildRecord [] fields)
      (validateFields [] 0 fields entries (Fit.lower {} .lax)) with
  | ok result => rfl
  | error refusal => cases refusal <;> rfl

theorem not_faults_of_validateModel
    {model : String}
    (answers : ∀ fault, validateModel model fields (.record entries) ≠ .error (.fault fault)) :
    ¬(Schema.object traits fields).Faults (.record entries) := by
  intro faults
  obtain ⟨fault, failed⟩ := faults [] {}
  refine answers fault ?_
  rw [validate_record] at failed
  rw [validateModel_record, validate_record, failed]

end Records

/-! ## Accepted records -/

/-- A field accepts the value of its key in a record, or may be left out of it. -/
def AcceptsEntry (entries : List (String × Value)) (field : String × Schema Value) : Prop :=
  match entries.lookup field.1 with
  | some value => field.2.Accepts value
  | none => field.2.isRequired = false

section Accepting

variable {way : List Nat} {fields : List (String × Schema Value)}
variable {entries : List (String × Value)}

theorem TakesFields.acceptsEntry
    {position : Nat}
    {parts : List (String × Instance)}
    (takes : TakesFields way entries position fields parts) :
    ∀ field ∈ fields, AcceptsEntry entries field := by
  induction takes with
  | nil => exact fun field listed => absurd listed List.not_mem_nil
  | @sent position key field value fit after accepted fields parts present validated rest
      inductionHypothesis =>
      refine List.forall_mem_cons.mpr ⟨?_, inductionHypothesis⟩
      rw [AcceptsEntry, present]
      exact accepts_of_validate validated
  | @absent position key field fields parts absent optional rest inductionHypothesis =>
      refine List.forall_mem_cons.mpr ⟨?_, inductionHypothesis⟩
      rw [AcceptsEntry, absent]
      exact optional

/-- Fields that all accept their entries are collected without an issue. -/
theorem exists_validateFields_eq_ok
    (each : ∀ field ∈ fields, AcceptsEntry entries field)
    (position : Nat)
    (fit : Fit) :
    ∃ parts after, validateFields way position fields entries fit = .ok ⟨[], parts, after⟩ := by
  induction fields generalizing position fit with
  | nil => exact ⟨[], fit, rfl⟩
  | cons field fields inductionHypothesis =>
      obtain ⟨key, field⟩ := field
      obtain ⟨own, others⟩ := List.forall_mem_cons.mp each
      rw [validateFields_cons]
      unfold AcceptsEntry at own
      cases sent : entries.lookup key with
      | some value =>
          rw [sent] at own
          obtain ⟨accepted, middle, validated⟩ := Accepts.exists own (position :: way) fit
          obtain ⟨parts, after, rest⟩ := inductionHypothesis others (position + 1) middle
          refine ⟨(key, accepted) :: parts, after, ?_⟩
          simp only [validated, collectPart, rest, Except.map, Collected.addPart]
      | none =>
          rw [sent] at own
          obtain ⟨parts, after, rest⟩ := inductionHypothesis others (position + 1) fit
          refine ⟨parts, after, ?_⟩
          simp only [own, rest, Bool.false_eq_true, if_false]

/-- A model accepts a record exactly if each of its fields does. -/
theorem exists_validateModel_iff
    {model : String} :
    (∃ output, validateModel model fields (.record entries) = .ok output) ↔
      ∀ field ∈ fields, AcceptsEntry entries field := by
  constructor
  · rintro ⟨output, validated⟩
    rw [validateModel] at validated
    split at validated
    · next accepted after assembled =>
        obtain ⟨parts, fit, collected, -⟩ := assemble_eq_ok_iff.mp assembled
        exact (takesFields_of_validateFields collected).acceptsEntry
    · exact absurd validated (by simp)
  · intro each
    obtain ⟨parts, after, collected⟩ : ∃ parts after,
        validateFields [] 0 fields entries {} = .ok ⟨[], parts, after⟩ :=
      exists_validateFields_eq_ok each 0 {}
    rw [validateModel, collected]
    exact ⟨_, rfl⟩

end Accepting

/-! ## Published keys -/

/-- The keywords of a published schema, apart from what it says about null. -/
def ownKeywords (document : List (String × Value)) : List (String × Value) :=
  match document.lookup "anyOf" with
  | some (.list (.record keywords :: _)) => keywords
  | _ => document

def textOf? : Value → Option String
  | .text content => some content
  | _ => none

/-- The keys that a published record schema lists as required. -/
def publishedKeys (document : List (String × Value)) : List String :=
  match (ownKeywords document).lookup "required" with
  | some (.list keys) => keys.filterMap textOf?
  | _ => []

/-- The keywords of a record schema before its traits are published. -/
def objectKeywords (fields : List (String × Schema Value)) : List (String × Value) :=
  [("type", .text "object"), ("properties", .record (publishFields fields))] ++
    if (requiredKeys fields).isEmpty then []
    else [("required", .list ((requiredKeys fields).map .text))]

theorem publish_object
    (traits : Traits Value)
    (fields : List (String × Schema Value)) :
    publish (.object traits fields) = publishTraits false traits (objectKeywords fields) := by
  rw [publish]
  rfl

theorem ownKeywords_publish_object
    {traits : Traits Value}
    (plain : traits.steps = [])
    (fields : List (String × Schema Value)) :
    (ownKeywords (publish (.object traits fields))).lookup "required" =
      (objectKeywords fields).lookup "required" := by
  have unwrapped : (objectKeywords fields).lookup "anyOf" = none := by
    unfold objectKeywords
    split <;> rfl
  have same : addStepKeywords false (objectKeywords fields) traits.steps =
      objectKeywords fields := by
    rw [plain]
    rfl
  unfold ownKeywords
  rw [publish_object, lookup_publishTraits (by decide) (by decide), same]
  cases nullable : traits.isNullable with
  | true => rfl
  | false =>
      simp only [Bool.false_eq_true, if_false, unwrapped]
      rw [lookup_publishTraits (by decide) (by decide), same, nullable]
      rfl

/-- A record schema publishes the keys of its required fields. -/
theorem publishedKeys_publish
    {traits : Traits Value}
    (plain : traits.steps = [])
    (fields : List (String × Schema Value)) :
    publishedKeys (publish (.object traits fields)) = requiredKeys fields := by
  unfold publishedKeys
  rw [ownKeywords_publish_object plain, objectKeywords]
  cases required : requiredKeys fields with
  | nil => rfl
  | cons key keys =>
      have texts : ((key :: keys).map Value.text).filterMap textOf? = key :: keys := by
        rw [List.filterMap_map]
        exact List.filterMap_some
      exact texts

/-! ## Records within values -/

section Within

variable {model : String} {traits : Traits Value} {fields : List (String × Schema Value)}
variable {entries : List (String × Value)}

/-- A record within a value reports exactly the published keys that are absent from it. -/
theorem LeadsTo.reportsMissing
    {location : List Place}
    {schema : Schema Value}
    {value : Value}
    (leads : LeadsTo location schema value (.object traits fields) (.record entries))
    (wellFormed : schema.WellFormed)
    (answers : ¬schema.Faults value)
    (key : String) :
    ReportsMissing location key (issuesOf (validate [] schema {} value)) ↔
      entries.lookup key = none ∧ key ∈ publishedKeys (publish (.object traits fields)) := by
  rw [← reportsMissing_issuesAt_iff, leads.issuesAt_eq wellFormed answers [] {},
    reportsMissing_map_within_iff,
    reportsMissing_of_validate fun faults => answers (leads.faults faults)]
  cases leads.hasPart.wellFormed wellFormed with
  | object plain => rw [publishedKeys_publish plain]

/-- Nothing is missing at or below a value that a union describes. -/
theorem LeadsTo.ne_missing
    {location : List Place}
    {schema : Schema Value}
    {value found : Value}
    {options : List (Schema Value)}
    (leads : LeadsTo location schema value (.union traits options) found)
    (wellFormed : schema.WellFormed)
    (answers : ¬schema.Faults value) :
    ∀ issue ∈ issuesAt location (issuesOf (validate [] schema {} value)),
      issue.violation ≠ .missing := by
  intro issue listed
  rw [leads.issuesAt_eq wellFormed answers [] {}] at listed
  obtain ⟨own, reported, rfl⟩ := List.mem_map.mp listed
  rw [eq_noAlternative_of_union reported]
  simp [Issue.within]

/--
A record schema and its published form agree on what must be there: a key is reported as
missing from a record, or from a record within it, exactly if it is absent there and listed as
required by the schema that is published for it.  Records that an option of a union describes
are apart: at and below the value of a union no key is reported as missing.
-/
theorem reportsMissing_iff_of_validateModel
    (wellFormed : (Schema.object traits fields).WellFormed)
    (answers : ∀ fault, validateModel model fields (.record entries) ≠ .error (.fault fault)) :
    (∀ location traits' fields' entries',
      LeadsTo location (.object traits fields) (.record entries)
        (.object traits' fields') (.record entries') →
      ∀ key, ReportsMissing location key
          (issuesOf (validateModel model fields (.record entries))) ↔
        entries'.lookup key = none ∧ key ∈ publishedKeys (publish (.object traits' fields'))) ∧
    ∀ location traits' options value,
      LeadsTo location (.object traits fields) (.record entries) (.union traits' options) value →
      ∀ issue ∈ issuesAt location (issuesOf (validateModel model fields (.record entries))),
        issue.violation ≠ .missing := by
  have outcomeAnswers : ¬(Schema.object traits fields).Faults (.record entries) :=
    not_faults_of_validateModel answers
  rw [issuesOf_validateModel model traits]
  exact ⟨fun _ _ _ _ leads => leads.reportsMissing wellFormed outcomeAnswers,
    fun _ _ _ _ leads => leads.ne_missing wellFormed outcomeAnswers⟩

end Within

/-- The fields of a record of which only the name must be there. -/
def memberFields : List (String × Schema Value) :=
  [("name", .string {} false),
    ("note", .custom {} "Note" (.string { isOptional := true } false))]

theorem wellFormed_memberFields
    {traits : Traits Value}
    (plain : traits.steps = []) :
    (Schema.object traits memberFields).WellFormed := by
  refine .object plain (by decide) fun field listed => ?_
  obtain rfl | later := List.mem_cons.mp listed
  · exact .string (by simp)
  · obtain rfl := List.mem_singleton.mp later
    exact .custom rfl (.string (by simp))

/-- The fields of a record with a list of members, which may be null. -/
def teamFields : List (String × Schema Value) :=
  [("members", .array {} (.object { isNullable := true } memberFields))]

/-- From a member without anything the name is missing, and the note is not. -/
theorem reportsMissing_team :
    ∃ issues,
      validateModel "team" teamFields (.record [("members", .list [.null, .record []])]) =
        .error (.issues issues) ∧
      ReportsMissing [.key "members", .index 1] "name" issues ∧
      ¬ReportsMissing [.key "members", .index 1] "note" issues := by
  have reported : (issuesOf (validateModel "team" teamFields
      (.record [("members", .list [.null, .record []])]))).length = 1 := by
    decide +kernel
  have refused := eq_of_issuesOf_ne_nil (List.ne_nil_of_length_eq_add_one reported)
  have wellFormed : (Schema.object {} teamFields).WellFormed := by
    refine .object rfl (by decide) fun field listed => ?_
    obtain rfl := List.mem_singleton.mp listed
    exact .array (by simp) (wellFormed_memberFields rfl)
  obtain ⟨agree, -⟩ := reportsMissing_iff_of_validateModel wellFormed fun fault failed => by
    rw [refused] at failed
    exact absurd failed (by simp)
  have member := agree [.key "members", .index 1] _ _ _
    (.field List.mem_cons_self List.lookup_cons_self (.item rfl .here))
  refine ⟨_, refused, (member "name").mpr ⟨rfl, by decide +kernel⟩, fun missing => ?_⟩
  exact absurd ((member "note").mp missing).2 (by decide +kernel)

/-- The fields of a record whose only key is for a member or a number. -/
def holderFields : List (String × Schema Value) :=
  [("holder", .union {} [.object {} memberFields, .number {} false false])]

/-- A record without a required key is refused by a union, and no key is reported. -/
theorem not_reportsMissing_holder :
    ∃ issues,
      validateModel "holding" holderFields (.record [("holder", .record [])]) =
        .error (.issues issues) ∧
      "name" ∈ publishedKeys (publish (.object {} memberFields)) ∧
      ¬ReportsMissing [.key "holder"] "name" issues := by
  have reported : (issuesOf (validateModel "holding" holderFields
      (.record [("holder", .record [])]))).length = 1 := by
    decide +kernel
  have refused := eq_of_issuesOf_ne_nil (List.ne_nil_of_length_eq_add_one reported)
  have wellFormed : (Schema.object {} holderFields).WellFormed := by
    refine .object rfl (by decide) fun field listed => ?_
    obtain rfl := List.mem_singleton.mp listed
    refine .union rfl (by decide) fun option listed => ?_
    obtain rfl | later := List.mem_cons.mp listed
    · exact wellFormed_memberFields rfl
    · obtain rfl := List.mem_singleton.mp later
      exact .number (by simp)
  have answers : ¬(Schema.object {} holderFields).Faults (.record [("holder", .record [])]) :=
    not_faults_of_validateModel fun fault failed => by
      rw [refused] at failed
      exact absurd failed (by simp)
  refine ⟨_, refused, by decide +kernel, fun missing => ?_⟩
  rw [issuesOf_validateModel "holding" {}, ← reportsMissing_issuesAt_iff] at missing
  obtain ⟨issue, listed, -, violation⟩ := missing
  have leads : LeadsTo [.key "holder"] (.object {} holderFields)
      (.record [("holder", .record [])]) (.union {} _) (.record []) :=
    .field List.mem_cons_self List.lookup_cons_self .here
  exact leads.ne_missing wellFormed answers issue listed violation

end Schema
end RoutineGate
