import RoutineGate.Proofs.Schema.Parts
import RoutineGate.Proofs.Schema.WellFormed

/-!
# Where issues are

The issues at a location below a value are those of the schema that describes the value
there, taken alone: what is validated elsewhere neither adds issues there nor takes any away.
-/

namespace RoutineGate
namespace Schema

/--
A location within a value leads to another value, and the schema of the first one to a schema
of the second.
-/
inductive LeadsTo : List Place → Schema Value → Value → Schema Value → Value → Prop
  | here {schema : Schema Value} {value : Value} :
      LeadsTo [] schema value schema value
  | item {location : List Place} {traits : Traits Value} {item target : Schema Value}
      {values : List Value} {position : Nat} {value found : Value}
      (sent : values[position]? = some value)
      (leads : LeadsTo location item value target found) :
      LeadsTo (.index position :: location) (.array traits item) (.list values) target found
  | field {location : List Place} {traits : Traits Value}
      {fields : List (String × Schema Value)} {entries : List (String × Value)} {key : String}
      {field target : Schema Value} {value found : Value}
      (declared : (key, field) ∈ fields)
      (sent : entries.lookup key = some value)
      (leads : LeadsTo location field value target found) :
      LeadsTo (.key key :: location) (.object traits fields) (.record entries) target found
  | custom {location : List Place} {traits : Traits Value} {name : String}
      {inner target : Schema Value} {value found : Value}
      (given : (Schema.custom traits name inner).takesNull value = false)
      (leads : LeadsTo location inner value target found) :
      LeadsTo location (.custom traits name inner) value target found

/-- The issues at a location or below it. -/
def issuesAt (location : List Place) (issues : List Issue) : List Issue :=
  issues.filter fun issue => location.isPrefixOf issue.location

/-- The same issue, seen from where a location leads to the value. -/
def Issue.within (location : List Place) (issue : Issue) : Issue :=
  { issue with location := location ++ issue.location }

section Issues

variable {location : List Place} {place : Place} {issues : List Issue}

@[simp] theorem issuesAt_nil (issues : List Issue) : issuesAt [] issues = issues := by
  simp [issuesAt]

theorem issuesAt_append
    (location : List Place)
    (issues others : List Issue) :
    issuesAt location (issues ++ others) = issuesAt location issues ++ issuesAt location others :=
  List.filter_append ..

/-- Issues under a place are those there, seen from further away. -/
theorem issuesAt_map_under
    (place : Place)
    (location : List Place)
    (issues : List Issue) :
    issuesAt (place :: location) (issues.map (Issue.under place)) =
      (issuesAt location issues).map (Issue.under place) := by
  rw [issuesAt, issuesAt, List.filter_map]
  refine congrArg _ (List.filter_congr fun issue _ => ?_)
  simp [Issue.under]

/-- Issues that begin with another place are elsewhere. -/
theorem issuesAt_eq_nil
    (elsewhere : ∀ issue ∈ issues, issue.location.head? ≠ some place) :
    issuesAt (place :: location) issues = [] := by
  refine List.filter_eq_nil_iff.mpr fun issue listed isPrefix => elsewhere issue listed ?_
  cases found : issue.location with
  | nil => simp [found] at isPrefix
  | cons first rest =>
      rw [found, List.isPrefixOf_cons_cons, Bool.and_eq_true_iff, beq_iff_eq] at isPrefix
      rw [isPrefix.1, List.head?_cons]

theorem map_under_within
    (place : Place)
    (location : List Place)
    (issues : List Issue) :
    (issues.map (Issue.within location)).map (Issue.under place) =
      issues.map (Issue.within (place :: location)) := by
  rw [List.map_map]
  rfl

/-- The issues of a schema do not depend on its way and on what comes before. -/
theorem issuesOf_validate
    (schema : Schema Value)
    (way otherWay : List Nat)
    (fit otherFit : Fit)
    (value : Value) :
    issuesOf (validate way schema fit value) =
      issuesOf (validate otherWay schema otherFit value) := by
  have alike := alike_validate schema way otherWay fit otherFit value
  generalize validate way schema fit value = first at alike ⊢
  generalize validate otherWay schema otherFit value = second at alike ⊢
  cases alike <;> rfl

end Issues

/-! ## Issues of parts -/

section Parts

variable {Part : Type} {location : List Place}

/-- The issues of a part come before those of the parts after it. -/
theorem exists_of_collectPart_eq_ok
    {place : Place}
    {toPart : Instance → Part}
    {fit : Fit}
    {rest : Fit → Except Fault (Collected Part)}
    {outcome : Outcome}
    {collected : Collected Part}
    (found : collectPart place toPart fit rest outcome = .ok collected) :
    ∃ after others, rest after = .ok others ∧
      collected.issues = (issuesOf outcome).map (Issue.under place) ++ others.issues := by
  cases outcome with
  | ok result =>
      obtain ⟨others, rested, rfl⟩ := map_eq_ok_iff.mp found
      exact ⟨result.2, others, rested, rfl⟩
  | error refusal =>
      cases refusal with
      | issues issues =>
          obtain ⟨others, rested, rfl⟩ := map_eq_ok_iff.mp found
          exact ⟨fit, others, rested, rfl⟩
      | fault fault => exact absurd found (by simp [collectPart])

/-- The issues of items are at their positions. -/
theorem head?_location_of_collectItems
    {check : Fit → Value → Outcome}
    {position : Nat}
    {fit : Fit}
    {items : List Value}
    {collected : Collected Instance}
    (found : collectItems check position fit items = .ok collected) :
    ∀ issue ∈ collected.issues, ∃ later, position ≤ later ∧
      issue.location.head? = some (.index later) := by
  induction items generalizing position fit collected with
  | nil =>
      obtain rfl := Except.ok.inj found
      simp
  | cons item items inductionHypothesis =>
      obtain ⟨after, others, rested, same⟩ := exists_of_collectPart_eq_ok found
      intro issue listed
      rw [same] at listed
      obtain here | there := List.mem_append.mp listed
      · obtain ⟨inner, -, rfl⟩ := List.mem_map.mp here
        exact ⟨position, Nat.le_refl position, rfl⟩
      · obtain ⟨later, after, first⟩ := inductionHypothesis rested issue there
        exact ⟨later, by omega, first⟩

/-- The issues at the position of an item are its own. -/
theorem exists_issuesAt_index
    {check : Fit → Value → Outcome}
    {position index : Nat}
    {fit : Fit}
    {items : List Value}
    {item : Value}
    {collected : Collected Instance}
    (found : collectItems check position fit items = .ok collected)
    (sent : items[index]? = some item) :
    ∃ before, issuesAt (.index (position + index) :: location) collected.issues =
      (issuesAt location (issuesOf (check before item))).map
        (Issue.under (.index (position + index))) := by
  induction items generalizing position index fit collected with
  | nil => exact absurd sent (by simp)
  | cons first items inductionHypothesis =>
      obtain ⟨after, others, rested, same⟩ := exists_of_collectPart_eq_ok found
      rw [same, issuesAt_append]
      cases index with
      | zero =>
          obtain rfl := Option.some.inj sent
          refine ⟨fit, ?_⟩
          rw [Nat.add_zero, issuesAt_map_under, issuesAt_eq_nil, List.append_nil]
          intro issue listed atPosition
          obtain ⟨later, after, there⟩ := head?_location_of_collectItems rested issue listed
          have equal := Place.index.inj (Option.some.inj (there.symm.trans atPosition))
          omega
      | succ index =>
          obtain ⟨before, rest⟩ := inductionHypothesis rested sent
          rw [Nat.add_right_comm, Nat.add_assoc] at rest
          refine ⟨before, ?_⟩
          rw [rest, issuesAt_eq_nil, List.nil_append]
          intro issue listed atPosition
          obtain ⟨inner, -, rfl⟩ := List.mem_map.mp listed
          have equal := Place.index.inj (Option.some.inj atPosition)
          omega

variable {way : List Nat} {entries : List (String × Value)} {position : Nat}
variable {fields : List (String × Schema Value)}

/-- The issues of fields are at their keys. -/
theorem head?_location_of_validateFields
    {fit : Fit}
    {collected : Collected (String × Instance)}
    (found : validateFields way position fields entries fit = .ok collected) :
    ∀ issue ∈ collected.issues, ∃ key ∈ fields.map Prod.fst,
      issue.location.head? = some (.key key) := by
  induction fields generalizing position fit collected with
  | nil =>
      obtain rfl := Except.ok.inj found
      simp
  | cons field fields inductionHypothesis =>
      obtain ⟨key, field⟩ := field
      have later : ∀ {after others}, validateFields way (position + 1) fields entries after =
          .ok others → ∀ issue ∈ others.issues, ∃ other ∈ ((key, field) :: fields).map Prod.fst,
            issue.location.head? = some (.key other) := by
        intro after others rested issue listed
        obtain ⟨other, declared, there⟩ := inductionHypothesis rested issue listed
        exact ⟨other, List.mem_cons_of_mem key declared, there⟩
      rw [validateFields_cons] at found
      cases present : entries.lookup key with
      | some value =>
          rw [present] at found
          obtain ⟨after, others, rested, same⟩ := exists_of_collectPart_eq_ok found
          intro issue listed
          rw [same] at listed
          obtain here | there := List.mem_append.mp listed
          · obtain ⟨inner, -, rfl⟩ := List.mem_map.mp here
            exact ⟨key, List.mem_cons_self, rfl⟩
          · exact later rested issue there
      | none =>
          simp only [present] at found
          split at found
          · obtain ⟨others, rested, rfl⟩ := map_eq_ok_iff.mp found
            intro issue listed
            obtain rfl | there := List.mem_cons.mp listed
            · exact ⟨key, List.mem_cons_self, rfl⟩
            · exact later rested issue there
          · exact later found

/-- The issues at the key of a field that is sent are its own. -/
theorem issuesAt_key
    {fit : Fit}
    {collected : Collected (String × Instance)}
    (found : validateFields way position fields entries fit = .ok collected)
    (distinct : (fields.map Prod.fst).Nodup)
    {key : String}
    {field : Schema Value}
    {value : Value}
    (declared : (key, field) ∈ fields)
    (sent : entries.lookup key = some value) :
    issuesAt (.key key :: location) collected.issues =
      (issuesAt location (issuesOf (validate [] field {} value))).map
        (Issue.under (.key key)) := by
  induction fields generalizing position fit collected with
  | nil => exact absurd declared List.not_mem_nil
  | cons first fields inductionHypothesis =>
      obtain ⟨other, other'⟩ := first
      obtain ⟨undeclared, distinct⟩ := List.nodup_cons.mp distinct
      rw [validateFields_cons] at found
      obtain same | later := List.mem_cons.mp declared
      · obtain ⟨rfl, rfl⟩ := Prod.mk.inj same
        rw [sent] at found
        obtain ⟨after, others, rested, same⟩ := exists_of_collectPart_eq_ok found
        rw [same, issuesAt_append, issuesAt_map_under, issuesOf_validate field _ [] _ {},
          issuesAt_eq_nil, List.append_nil]
        intro issue listed atKey
        obtain ⟨key', declared', there⟩ := head?_location_of_validateFields rested issue listed
        obtain rfl := Place.key.inj (Option.some.inj (there.symm.trans atKey))
        exact undeclared declared'
      · have declaredKey : key ∈ fields.map Prod.fst := List.mem_map_of_mem later
        have different : other ≠ key := fun equal => undeclared (equal ▸ declaredKey)
        cases present : entries.lookup other with
        | some value' =>
            rw [present] at found
            obtain ⟨after, others, rested, same⟩ := exists_of_collectPart_eq_ok found
            rw [same, issuesAt_append, inductionHypothesis rested distinct later,
              issuesAt_eq_nil, List.nil_append]
            intro issue listed atKey
            obtain ⟨inner, -, rfl⟩ := List.mem_map.mp listed
            exact different (Place.key.inj (Option.some.inj atKey))
        | none =>
            simp only [present] at found
            split at found
            · obtain ⟨others, rested, rfl⟩ := map_eq_ok_iff.mp found
              rw [Collected.addIssues, issuesAt_append, inductionHypothesis rested distinct later,
                issuesAt_eq_nil, List.nil_append]
              intro issue listed atKey
              obtain rfl := List.mem_singleton.mp listed
              exact different (Place.key.inj (Option.some.inj atKey))
            · exact inductionHypothesis found distinct later

end Parts

/-! ## Issues of a whole -/

section Wholes

variable {location : List Place} {schema target : Schema Value} {value found : Value}

/-- The issues of a whole are those of its parts, apart from issues of the whole itself. -/
theorem issuesAt_assemble
    {Part : Type}
    {build : List Part → Fit → Outcome}
    {place : Place}
    (built : ∀ parts fit, ∀ issue ∈ issuesOf (build parts fit), issue.location = [])
    (collected : Collected Part) :
    issuesAt (place :: location) (issuesOf (assemble build (.ok collected))) =
      issuesAt (place :: location) collected.issues := by
  obtain ⟨issues, parts, fit⟩ := collected
  cases issues with
  | cons issue issues => rfl
  | nil =>
      rw [assemble, issuesAt_eq_nil]
      · rfl
      · intro issue listed
        rw [built parts fit issue listed]
        simp

theorem location_of_refusal
    {step : Step Value}
    {issues : List Issue}
    (refused : step.refusal = .issues issues) :
    ∀ issue ∈ issues, issue.location = [] := by
  unfold Step.refusal at refused
  split at refused
  · obtain rfl := Refusal.issues.inj refused
    simp
  · obtain rfl := Refusal.issues.inj refused
    intro issue listed
    rw [List.mem_singleton.mp listed]
    split <;> rfl
  · split at refused
    · exact absurd refused (by simp)
    · obtain rfl := Refusal.issues.inj refused
      simp

theorem location_of_runLengthSteps
    {steps : List (Step Value)}
    {length : Nat}
    {issues : List Issue}
    (refused : runLengthSteps steps length = .error (.issues issues)) :
    ∀ issue ∈ issues, issue.location = [] := by
  induction steps with
  | nil => exact absurd refused (by simp [runLengthSteps])
  | cons step steps inductionHypothesis =>
      rw [runLengthSteps] at refused
      split at refused
      · exact inductionHypothesis refused
      · next refusal run =>
          obtain rfl := Except.error.inj refused
          unfold Step.runLength at run
          split at run
          · split at run
            · exact absurd run (by simp)
            · exact location_of_refusal (Except.error.inj run)
          · exact absurd run (by simp)

/-- The issues of the length of a list are those of the list itself. -/
theorem location_of_buildList
    {traits : Traits Value}
    {parts : List Instance}
    {fit : Fit} :
    ∀ issue ∈ issuesOf (buildList traits parts fit), issue.location = [] := by
  intro issue listed
  unfold buildList at listed
  cases run : runLengthSteps traits.steps parts.length with
  | ok => simp [run, issuesOf] at listed
  | error refusal =>
      rw [run] at listed
      cases refusal with
      | issues issues => exact location_of_runLengthSteps run issue listed
      | fault fault => simp [issuesOf] at listed

/--
If validation ends without a fault, the issues at a location are those of the schema there,
taken alone.
-/
theorem LeadsTo.issuesAt_eq
    (leads : LeadsTo location schema value target found)
    (wellFormed : schema.WellFormed)
    (answers : ¬schema.Faults value)
    (way : List Nat)
    (fit : Fit) :
    issuesAt location (issuesOf (validate way schema fit value)) =
      (issuesOf (validate [] target {} found)).map (Issue.within location) := by
  induction leads generalizing way fit with
  | here =>
      rw [issuesAt_nil, issuesOf_validate _ way [] fit {}]
      exact (List.map_id _).symm
  | @item location traits item target values position value found sent leads
      inductionHypothesis =>
      cases wellFormed with
      | array _ itemWellFormed =>
          have itemAnswers : ¬item.Faults value := fun faults =>
            answers (faults.list (List.mem_of_getElem? sent) traits)
          cases collected : collectItems (validate (0 :: way) item) 0 fit values with
          | error fault =>
              have failed : validate way (.array traits item) fit (.list values) =
                  .error (.fault fault) := by
                rw [validate_list, collected, assemble]
              exact absurd (faults_of_validate failed) answers
          | ok parts =>
              obtain ⟨before, own⟩ : ∃ before,
                  issuesAt (.index position :: location) parts.issues =
                    (issuesAt location (issuesOf (validate (0 :: way) item before value))).map
                      (Issue.under (.index position)) := by
                simpa only [Nat.zero_add] using exists_issuesAt_index collected sent
              rw [validate_list, collected, issuesAt_assemble fun _ _ => location_of_buildList,
                own, inductionHypothesis itemWellFormed itemAnswers, map_under_within]
  | @field location traits fields entries key field target value found declared sent leads
      inductionHypothesis =>
      cases wellFormed with
      | object _ distinct fieldsWellFormed =>
          have fieldAnswers : ¬field.Faults value := fun faults =>
            answers (faults.record declared sent traits)
          cases collected : validateFields way 0 fields entries (fit.lower .lax) with
          | error fault =>
              have failed : validate way (.object traits fields) fit (.record entries) =
                  .error (.fault fault) := by
                rw [validate_record, collected, assemble]
              exact absurd (faults_of_validate failed) answers
          | ok parts =>
              rw [validate_record, collected, issuesAt_assemble fun _ _ issue listed =>
                  absurd listed List.not_mem_nil,
                issuesAt_key collected distinct declared sent,
                inductionHypothesis (fieldsWellFormed (key, field) declared) fieldAnswers,
                map_under_within]
  | custom given leads inductionHypothesis =>
      cases wellFormed with
      | custom _ innerWellFormed =>
          rw [validate_custom given]
          exact inductionHypothesis innerWellFormed (fun faults => answers (faults.custom given))
            way fit

end Wholes

end Schema
end RoutineGate
