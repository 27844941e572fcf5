import RoutineGate.Proofs.Schema.Verdict

/-!
# Options of a union

A union takes what one of its distinct options accepts, and is refused with a single issue if
each of them refuses.
-/

namespace RoutineGate
namespace Schema

section Options

variable {way kept : List Nat} {options : List (Schema Value)} {value : Value} {fault : Fault}

theorem exists_of_validateOnly
    {position : Nat}
    {fit : Fit}
    (failed : validateOnly way kept position options fit value = .error (.fault fault)) :
    ∃ index option, options[index]? = some option ∧ position + index ∈ kept ∧
      ∃ below, validate below option fit value = .error (.fault fault) := by
  induction options generalizing position with
  | nil => exact absurd failed (by simp [validateOnly, Refusal.ofViolation])
  | cons option options inductionHypothesis =>
      rw [validateOnly] at failed
      split at failed
      · next listed =>
          exact ⟨0, option, rfl, List.contains_iff_mem.mp listed, _, failed⟩
      · obtain ⟨index, other, here, listed, stops⟩ := inductionHypothesis failed
        exact ⟨index + 1, other, here, by rwa [← Nat.add_assoc, Nat.add_right_comm], stops⟩

theorem exists_validateOnly_eq_fault
    {index : Nat}
    {option : Schema Value}
    (here : options[index]? = some option)
    {position : Nat}
    (listed : position + index ∈ kept)
    (first : ∀ earlier < index, position + earlier ∉ kept)
    (failed : option.Faults value)
    (fit : Fit) :
    ∃ other, validateOnly way kept position options fit value = .error (.fault other) := by
  induction options generalizing position index with
  | nil => exact absurd here (by simp)
  | cons first' options inductionHypothesis =>
      rw [validateOnly]
      cases index with
      | zero =>
          obtain rfl := Option.some.inj here
          have among : kept.contains position = true := List.contains_iff_mem.mpr listed
          rw [if_pos among]
          exact failed _ fit
      | succ index =>
          have absent : ¬kept.contains position = true := fun among =>
            first 0 (by omega) (List.contains_iff_mem.mp among)
          rw [if_neg absent]
          refine inductionHypothesis here (by rwa [Nat.add_right_comm, Nat.add_assoc]) ?_
          intro earlier before
          rw [Nat.add_right_comm, Nat.add_assoc]
          exact first (earlier + 1) (by omega)

/-- Trying options fails at an option before which none fits perfectly. -/
theorem exists_of_tryOptions
    {best : Option (Instance × Fit)}
    {position : Nat}
    (failed : tryOptions way kept value best position options = .failed fault) :
    ∃ index option, options[index]? = some option ∧ position + index ∈ kept ∧
      (∃ below, validate below option .best value = .error (.fault fault)) ∧
      ∀ earlier < index, position + earlier ∈ kept →
        ∀ other, options[earlier]? = some other → ¬other.FitsPerfectly value := by
  induction options generalizing best position with
  | nil => exact absurd failed (by simp [tryOptions])
  | cons option options inductionHypothesis =>
      have later : ∀ {other}, tryOptions way kept value other (position + 1) options =
          .failed fault → (position ∈ kept → ¬option.FitsPerfectly value) →
          ∃ index found, (option :: options)[index]? = some found ∧ position + index ∈ kept ∧
            (∃ below, validate below found .best value = .error (.fault fault)) ∧
            ∀ earlier < index, position + earlier ∈ kept →
              ∀ other, (option :: options)[earlier]? = some other →
                ¬other.FitsPerfectly value := by
        intro other rest imperfect
        obtain ⟨index, found, here, listed, stops, unsettled⟩ := inductionHypothesis rest
        refine ⟨index + 1, found, here, ?_, stops, ?_⟩
        · rwa [← Nat.add_assoc, Nat.add_right_comm]
        · intro earlier before among other' there
          cases earlier with
          | zero =>
              obtain rfl := Option.some.inj there
              exact imperfect among
          | succ earlier =>
              refine unsettled earlier (by omega) ?_ other' there
              rwa [Nat.add_right_comm, Nat.add_assoc]
      rw [tryOptions] at failed
      split at failed
      · next listed =>
          cases validated : validate (position :: way) option .best value with
          | ok candidate =>
              simp only [validated] at failed
              split at failed
              · exact absurd failed (by simp)
              · next imperfect =>
                  refine later failed fun _ perfect => ?_
                  obtain ⟨accepted, same⟩ := perfect.exists (position :: way)
                  rw [validated] at same
                  obtain rfl := Except.ok.inj same
                  exact imperfect (by simp [Fit.isPerfect])
          | error refusal =>
              cases refusal with
              | issues issues =>
                  simp only [validated] at failed
                  refine later failed fun _ perfect => ?_
                  obtain ⟨accepted, same⟩ := perfect.exists (position :: way)
                  exact absurd (validated.symm.trans same) (by simp)
              | fault other =>
                  simp only [validated] at failed
                  obtain rfl := Trial.failed.inj failed
                  exact ⟨0, option, rfl, List.contains_iff_mem.mp listed, ⟨_, validated⟩,
                    fun earlier before => absurd before (by omega)⟩
      · next absent =>
          exact later failed fun listed => absurd (List.contains_iff_mem.mpr listed) absent

/-- Trying options fails if an option does before which none fits perfectly. -/
theorem exists_tryOptions_eq_failed
    {index : Nat}
    {option : Schema Value}
    (here : options[index]? = some option)
    {position : Nat}
    (listed : position + index ∈ kept)
    (unsettled : ∀ earlier < index, position + earlier ∈ kept →
      ∀ other, options[earlier]? = some other → ¬other.FitsPerfectly value)
    (failed : option.Faults value)
    (best : Option (Instance × Fit)) :
    ∃ other, tryOptions way kept value best position options = .failed other := by
  induction options generalizing position index best with
  | nil => exact absurd here (by simp)
  | cons first options inductionHypothesis =>
      rw [tryOptions]
      cases index with
      | zero =>
          obtain rfl := Option.some.inj here
          obtain ⟨fault, failed⟩ := failed (position :: way) .best
          have among : kept.contains position = true := List.contains_iff_mem.mpr listed
          rw [if_pos among, failed]
          exact ⟨fault, rfl⟩
      | succ index =>
          have later := inductionHypothesis here
            (by rwa [Nat.add_right_comm, Nat.add_assoc] : position + 1 + index ∈ kept)
            fun earlier before among => unsettled (earlier + 1) (by omega)
              (by rwa [Nat.add_right_comm, Nat.add_assoc] at among)
          split
          · next among =>
              cases validated : validate (position :: way) first .best value with
              | ok candidate =>
                  dsimp only
                  split
                  · next perfect =>
                      obtain ⟨accepted, fit⟩ := candidate
                      obtain rfl : fit = .best := by simpa [Fit.isPerfect] using perfect
                      exact absurd (fitsPerfectly_of_validate validated)
                        (unsettled 0 (by omega) (List.contains_iff_mem.mp among) first rfl)
                  · exact later _
              | error refusal =>
                  cases refusal with
                  | issues issues => exact later best
                  | fault other => exact ⟨other, rfl⟩
          · exact later best

/-- The first option that is kept decides, if only one is tried. -/
theorem exists_of_validateOnly_ok
    {position : Nat}
    {fit after : Fit}
    {accepted : Instance}
    (validated : validateOnly way kept position options fit value = .ok (accepted, after)) :
    ∃ index option, options[index]? = some option ∧ position + index ∈ kept ∧
      validate ((position + index) :: way) option fit value = .ok (accepted, after) := by
  induction options generalizing position with
  | nil => exact absurd validated (by simp [validateOnly])
  | cons option options inductionHypothesis =>
      rw [validateOnly] at validated
      split at validated
      · next listed => exact ⟨0, option, rfl, List.contains_iff_mem.mp listed, validated⟩
      · obtain ⟨index, other, here, listed, validated⟩ := inductionHypothesis validated
        rw [Nat.add_right_comm, Nat.add_assoc] at listed validated
        exact ⟨index + 1, other, here, listed, validated⟩

theorem refuses_of_validateOnly
    {position : Nat}
    {fit : Fit}
    {issues : List Issue}
    (refused : validateOnly way kept position options fit value = .error (.issues issues))
    {index : Nat}
    {option : Schema Value}
    (here : options[index]? = some option)
    (only : kept = [position + index]) :
    option.Refuses value := by
  induction options generalizing position index with
  | nil => exact absurd here (by simp)
  | cons first options inductionHypothesis =>
      rw [validateOnly] at refused
      cases index with
      | zero =>
          obtain rfl := Option.some.inj here
          rw [if_pos (by simp [only])] at refused
          exact refuses_of_validate refused
      | succ index =>
          rw [if_neg (by simp [only])] at refused
          exact inductionHypothesis refused here (by rw [only]; congr 1; omega)

/-- The instance that trying options comes to. -/
def Trial.accepted? : Trial → Option Instance
  | .settled accepted => some accepted
  | .found best => best.map Prod.fst
  | .failed _ => none

/-- An option that is kept accepts a value with an instance. -/
def IsTaken (way kept : List Nat) (value : Value) (position : Nat)
    (options : List (Schema Value)) (accepted : Instance) : Prop :=
  ∃ index option before after, options[index]? = some option ∧ position + index ∈ kept ∧
    validate ((position + index) :: way) option before value = .ok (accepted, after)

theorem isTaken_cons
    {option : Schema Value}
    {position : Nat}
    {accepted : Instance}
    (taken : IsTaken way kept value (position + 1) options accepted) :
    IsTaken way kept value position (option :: options) accepted := by
  obtain ⟨index, other, before, after, here, listed, validated⟩ := taken
  rw [Nat.add_right_comm, Nat.add_assoc] at listed validated
  exact ⟨index + 1, other, before, after, here, listed, validated⟩

/-- What trying options comes to has been found before, or is what an option accepts. -/
theorem isTaken_of_tryOptions
    {best : Option (Instance × Fit)}
    {position : Nat}
    {accepted : Instance}
    (tried : (tryOptions way kept value best position options).accepted? = some accepted) :
    best.map Prod.fst = some accepted ∨ IsTaken way kept value position options accepted := by
  induction options generalizing best position with
  | nil => exact .inl tried
  | cons option options inductionHypothesis =>
      rw [tryOptions] at tried
      split at tried
      · next listed =>
          have taken : ∀ {candidate : Instance × Fit},
              validate (position :: way) option .best value = .ok candidate →
                IsTaken way kept value position (option :: options) candidate.1 :=
            fun validated =>
              ⟨0, option, .best, _, rfl, List.contains_iff_mem.mp listed, validated⟩
          cases validated : validate (position :: way) option .best value with
          | ok candidate =>
              simp only [validated] at tried
              split at tried
              · obtain rfl := Option.some.inj tried
                exact .inr (taken validated)
              · obtain here | later := inductionHypothesis tried
                · -- the better one of the two candidates is one of them
                  unfold betterOf at here
                  split at here
                  · obtain rfl := Option.some.inj here
                    exact .inr (taken validated)
                  · split at here
                    · obtain rfl := Option.some.inj here
                      exact .inr (taken validated)
                    · exact .inl here
                · exact .inr (isTaken_cons later)
          | error refusal =>
              cases refusal with
              | issues issues =>
                  simp only [validated] at tried
                  exact (inductionHypothesis tried).imp id isTaken_cons
              | fault fault =>
                  simp only [validated] at tried
                  exact absurd tried (by simp [Trial.accepted?])
      · exact (inductionHypothesis tried).imp id isTaken_cons

/-- If nothing is found, then there was nothing before, and each option that is kept refuses. -/
theorem refuses_of_tryOptions
    {best : Option (Instance × Fit)}
    {position : Nat}
    (tried : tryOptions way kept value best position options = .found none) :
    best = none ∧ ∀ index option, options[index]? = some option → position + index ∈ kept →
      option.Refuses value := by
  induction options generalizing best position with
  | nil => exact ⟨Trial.found.inj tried, by simp⟩
  | cons option options inductionHypothesis =>
      have later : ∀ {other}, tryOptions way kept value other (position + 1) options =
          .found none → (position ∈ kept → option.Refuses value) →
          other = none ∧ ∀ index found, (option :: options)[index]? = some found →
            position + index ∈ kept → found.Refuses value := by
        intro other rest first
        obtain ⟨absent, others⟩ := inductionHypothesis rest
        refine ⟨absent, fun index found here listed => ?_⟩
        cases index with
        | zero =>
            obtain rfl := Option.some.inj here
            exact first listed
        | succ index =>
            refine others index found here ?_
            rwa [Nat.add_right_comm, Nat.add_assoc]
      rw [tryOptions] at tried
      split at tried
      · cases validated : validate (position :: way) option .best value with
        | ok candidate =>
            simp only [validated] at tried
            split at tried
            · exact absurd tried (by simp)
            · -- a candidate is not forgotten
              obtain ⟨absent, -⟩ := inductionHypothesis tried
              unfold betterOf at absent
              split at absent
              · exact absurd absent (by simp)
              · split at absent <;> exact absurd absent (by simp)
        | error refusal =>
            cases refusal with
            | issues issues =>
                simp only [validated] at tried
                exact later tried fun _ => refuses_of_validate validated
            | fault fault =>
                simp only [validated] at tried
                exact absurd tried (by simp)
      · next absent =>
          exact later tried fun listed => absurd (List.contains_iff_mem.mpr listed) absent

end Options

/-! ## The outcome of a union -/

section Unions

variable {traits : Traits Value} {options : List (Schema Value)} {way : List Nat} {fit : Fit}
variable {value : Value}

/-- What a union accepts it takes from an option that is kept, if it is not null itself. -/
theorem isTaken_of_validate
    (given : (Schema.union traits options).takesNull value = false)
    {after : Fit}
    {accepted : Instance}
    (validated : validate way (.union traits options) fit value = .ok (accepted, after)) :
    IsTaken way (alternatives options) value 0 options accepted := by
  rw [validate_union given] at validated
  split at validated
  · unfold collapse at validated
    split at validated
    · exact absurd validated (by simp)
    · obtain ⟨index, option, here, listed, validated⟩ := exists_of_validateOnly_ok validated
      exact ⟨index, option, fit, after, here, listed, validated⟩
  · have tried : (tryOptions way (alternatives options) value none 0 options).accepted? =
        some accepted := by
      unfold Trial.outcome at validated
      split at validated
      · next same =>
          obtain ⟨rfl, -⟩ := Prod.mk.inj (Except.ok.inj validated)
          rw [same]
          rfl
      · next same =>
          obtain ⟨rfl, -⟩ := Prod.mk.inj (Except.ok.inj validated)
          rw [same]
          rfl
      · exact absurd validated (by simp)
      · exact absurd validated (by simp)
    obtain absent | taken := isTaken_of_tryOptions tried
    · exact absurd absent (by simp)
    · exact taken

/-- A union is refused with a single issue, and only if every option that is kept refuses. -/
theorem refuses_of_union
    {issues : List Issue}
    (refused : validate way (.union traits options) fit value = .error (.issues issues)) :
    issues = [{ location := [], violation := .noAlternative }] ∧
      ∀ position ∈ alternatives options, ∀ option, options[position]? = some option →
        option.Refuses value := by
  cases given : (Schema.union traits options).takesNull value with
  | true =>
      rw [validate_of_takesNull given] at refused
      exact absurd refused (by simp)
  | false =>
      rw [validate_union given] at refused
      split at refused
      · next single =>
          obtain ⟨only, kept⟩ := List.length_eq_one_iff.mp single
          unfold collapse at refused
          split at refused
          · next found validated =>
              obtain rfl := Refusal.issues.inj (Except.error.inj refused)
              refine ⟨rfl, fun position listed option here => ?_⟩
              rw [kept, List.mem_singleton] at listed
              exact refuses_of_validateOnly validated here (by rw [kept, Nat.zero_add, listed])
          · next others => exact absurd refused (others issues)
      · unfold Trial.outcome at refused
        split at refused
        · exact absurd refused (by simp)
        · exact absurd refused (by simp)
        · next tried =>
            obtain rfl := Refusal.issues.inj (Except.error.inj refused)
            refine ⟨rfl, fun position listed option here => ?_⟩
            exact (refuses_of_tryOptions tried).2 position option here (by rwa [Nat.zero_add])
        · exact absurd refused (by simp)

/-- A union ends with the fault of an option that is kept, before which none fits perfectly. -/
theorem exists_of_union_eq_fault
    {fault : Fault}
    (given : (Schema.union traits options).takesNull value = false)
    (failed : validate way (.union traits options) fit value = .error (.fault fault)) :
    ∃ position option, options[position]? = some option ∧ position ∈ alternatives options ∧
      (∃ below before, validate below option before value = .error (.fault fault)) ∧
      ∀ earlier < position, earlier ∈ alternatives options →
        ∀ other, options[earlier]? = some other → ¬other.FitsPerfectly value := by
  rw [validate_union given] at failed
  split at failed
  · next single =>
      unfold collapse at failed
      split at failed
      · exact absurd failed (by simp [Refusal.ofViolation])
      · obtain ⟨position, option, here, kept, below, stopped⟩ := exists_of_validateOnly failed
        rw [Nat.zero_add] at kept
        refine ⟨position, option, here, kept, ⟨below, fit, stopped⟩, ?_⟩
        -- the only option that is kept has none before it
        intro earlier before among
        obtain ⟨only, same⟩ := List.length_eq_one_iff.mp single
        rw [same, List.mem_singleton] at kept among
        omega
  · unfold Trial.outcome at failed
    split at failed
    · exact absurd failed (by simp)
    · exact absurd failed (by simp)
    · exact absurd failed (by simp [Refusal.ofViolation])
    · next tried =>
        obtain rfl := Refusal.fault.inj (Except.error.inj failed)
        obtain ⟨position, option, here, kept, ⟨below, stopped⟩, unsettled⟩ :=
          exists_of_tryOptions tried
        rw [Nat.zero_add] at kept
        simp only [Nat.zero_add] at unsettled
        exact ⟨position, option, here, kept, ⟨below, .best, stopped⟩, unsettled⟩

/-- A union ends with a fault only if one of its options does. -/
theorem exists_faults_of_union
    {fault : Fault}
    (failed : validate way (.union traits options) fit value = .error (.fault fault)) :
    ∃ option ∈ options, option.Faults value := by
  cases given : (Schema.union traits options).takesNull value with
  | true =>
      rw [validate_of_takesNull given] at failed
      exact absurd failed (by simp)
  | false =>
      obtain ⟨position, option, here, -, ⟨below, before, stopped⟩, -⟩ :=
        exists_of_union_eq_fault given failed
      exact ⟨option, List.mem_of_getElem? here, faults_of_validate stopped⟩

end Unions

end Schema
end RoutineGate
