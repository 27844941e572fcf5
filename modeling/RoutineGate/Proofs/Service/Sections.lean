import RoutineGate.Service.Sections
import Mathlib.Data.List.Forall2

/-!
# What validation guarantees

Validated sections hold exactly what validating each of them gives; a section without a
schema holds what arrives.  If any section is refused, so is the request.
-/

namespace RoutineGate

namespace Schema

/-- A value is never refused without an issue. -/
theorem issues_ne_nil_of_validateModel
    {model : String}
    {fields : List (String × Schema Value)}
    {value : Value}
    {issues : List Issue}
    (refused : validateModel model fields value = .error (.issues issues)) :
    issues ≠ [] := by
  unfold validateModel at refused
  cases value with
  | record entries =>
      cases collected : validateFields [] 0 fields entries {} with
      | error fault => simp [collected, assemble] at refused
      | ok collected' =>
          obtain ⟨found, parts, fit⟩ := collected'
          cases found with
          | nil => simp [collected, assemble, buildRecord] at refused
          | cons issue rest =>
              obtain rfl : issue :: rest = issues := by
                simpa [collected, assemble] using refused
              exact List.cons_ne_nil issue rest
  | _ =>
      simp only [Refusal.ofViolation, Except.error.injEq, Refusal.issues.injEq] at refused
      subst refused
      exact List.cons_ne_nil _ _

end Schema

namespace Request

/-- A section is never refused without an issue. -/
theorem issues_ne_nil_of_validate
    {schema : RequestSchema}
    {place : Section}
    {raw : Value}
    {issues : List Schema.Issue}
    (refused : schema.validate place raw = .error (.issues issues)) :
    issues ≠ [] := by
  unfold RequestSchema.validate at refused
  cases fields : schema.fields? place with
  | none => simp [fields] at refused
  | some found =>
      rw [fields] at refused
      exact Schema.issues_ne_nil_of_validateModel refused

/-- A section has no fields exactly if it is not among those with a schema. -/
theorem fields?_eq_none_iff
    {schema : RequestSchema}
    {place : Section} :
    schema.fields? place = none ↔ place ∉ schema.sections.map Prod.fst := by
  simp only [RequestSchema.fields?, List.lookup_eq_none_iff, List.mem_map, not_exists, not_and]
  constructor
  · intro absent entry member same
    have different := absent entry member
    simp [same] at different
  · intro absent entry member
    have different := absent entry member
    simpa using fun same => different same.symm

end Request

namespace Service

variable {schema : Request.RequestSchema} {raw : SectionValues}

/-- Checking sections finds no issue exactly if it accepts each of them. -/
theorem checkSections_eq_ok_iff
    {places : List Request.Section}
    {values : List (Request.Section × Value)} :
    checkSections schema raw places = .ok { issues := [], values } ↔
      List.Forall₂
        (fun place entry => entry.1 = place ∧
          schema.validate place (raw place) = .ok entry.2)
        places values := by
  induction places generalizing values with
  | nil =>
      constructor
      · intro finished
        obtain rfl : [] = values := by simpa [checkSections] using finished
        exact .nil
      · rintro ⟨⟩
        rfl
  | cons place places inductionHypothesis =>
      constructor
      · intro finished
        unfold checkSections at finished
        cases validated : schema.validate place (raw place) with
        | ok value =>
            rw [validated] at finished
            cases rest : checkSections schema raw places with
            | error fault => simp [rest, Except.map] at finished
            | ok checked =>
                obtain ⟨issues, others⟩ := checked
                obtain ⟨rfl, rfl⟩ : issues = [] ∧ (place, value) :: others = values := by
                  simpa [rest, Except.map] using finished
                exact .cons ⟨rfl, validated⟩ (inductionHypothesis.mp rest)
        | error refusal =>
            rw [validated] at finished
            cases refusal with
            | fault fault => simp at finished
            | issues issues =>
                cases rest : checkSections schema raw places with
                | error fault => simp [rest, Except.map] at finished
                | ok checked =>
                    -- the issues of this section would have to be there
                    have some := Request.issues_ne_nil_of_validate validated
                    simp [rest, Except.map, some] at finished
      · rintro (_ | ⟨⟨same, validated⟩, rest⟩)
        have others := inductionHypothesis.mpr rest
        subst same
        simp [checkSections, validated, others, Except.map]

/-- What checking sections gives for a place: what is accepted there, or nothing. -/
theorem lookup_of_accepted
    {places : List Request.Section}
    {values : List (Request.Section × Value)}
    (accepted : List.Forall₂
      (fun place entry => entry.1 = place ∧ schema.validate place (raw place) = .ok entry.2)
      places values)
    (place : Request.Section) :
    schema.validate place (raw place) = .ok ((values.lookup place).getD (raw place)) ∨
      place ∉ places ∧ values.lookup place = none := by
  induction accepted with
  | nil => exact .inr ⟨List.not_mem_nil, rfl⟩
  | @cons first entry places values valid rest inductionHypothesis =>
      obtain ⟨key, value⟩ := entry
      obtain ⟨rfl, valid⟩ := valid
      by_cases same : place = key
      · subst same
        left
        rw [List.lookup_cons_self, Option.getD_some]
        exact valid
      · have apart : (place == key) = false := by simpa using same
        rw [List.lookup_cons, apart]
        refine inductionHypothesis.imp id fun ⟨outside, absent⟩ => ⟨?_, absent⟩
        exact List.not_mem_cons_of_ne_of_not_mem same outside

/-- Every section with or without a schema holds what validating it gives. -/
theorem validate_of_accepted
    {values : List (Request.Section × Value)}
    (accepted : List.Forall₂
      (fun place entry => entry.1 = place ∧ schema.validate place (raw place) = .ok entry.2)
      (schema.sections.map Prod.fst) values)
    (place : Request.Section) :
    schema.validate place (raw place) = .ok ((values.lookup place).getD (raw place)) := by
  obtain valid | ⟨outside, absent⟩ := lookup_of_accepted accepted place
  · exact valid
  · rw [absent, Option.getD_none]
    exact Request.validate_of_absent (Request.fields?_eq_none_iff.mpr outside) (raw place)

/-- Sections are accepted exactly if each of them is, and then they hold what it gives. -/
theorem validateSections_eq_ok_iff
    {sections : SectionValues} :
    validateSections schema raw = .ok sections ↔
      ∀ place, schema.validate place (raw place) = .ok (sections place) := by
  constructor
  · intro accepted
    unfold validateSections at accepted
    cases checked : checkSections schema raw (schema.sections.map Prod.fst) with
    | error fault => simp [checked] at accepted
    | ok found =>
        obtain ⟨issues, values⟩ := found
        cases issues with
        | cons issue issues => simp [checked] at accepted
        | nil =>
            simp only [checked, Except.ok.injEq] at accepted
            subst accepted
            exact validate_of_accepted (checkSections_eq_ok_iff.mp checked)
  · intro accepted
    let values := (schema.sections.map Prod.fst).map fun place => (place, sections place)
    have checked : checkSections schema raw (schema.sections.map Prod.fst) =
        .ok { issues := [], values } := by
      rw [checkSections_eq_ok_iff, List.forall₂_map_right_iff, List.forall₂_same]
      exact fun place _ => ⟨rfl, accepted place⟩
    have sectionsEq : (fun place => (values.lookup place).getD (raw place)) = sections := by
      funext place
      have valid := validate_of_accepted (checkSections_eq_ok_iff.mp checked) place
      rw [accepted place] at valid
      exact (Except.ok.inj valid).symm
    rw [validateSections, checked]
    exact congrArg Except.ok sectionsEq

/-- Sections of which none has a schema are left as they are. -/
theorem validateSections_of_sections_eq_nil
    (unchecked : schema.sections = []) :
    validateSections schema raw = .ok raw := by
  rw [validateSections_eq_ok_iff]
  intro place
  have absent : schema.fields? place = none := by
    rw [Request.fields?_eq_none_iff, unchecked]
    exact List.not_mem_nil
  exact Request.validate_of_absent absent (raw place)

/-- If a section is refused, so are the sections. -/
theorem validateSections_ne_ok
    {place : Request.Section}
    {refusal : Schema.Refusal}
    (refused : schema.validate place (raw place) = .error refusal)
    (sections : SectionValues) :
    validateSections schema raw ≠ .ok sections := by
  intro accepted
  have valid := validateSections_eq_ok_iff.mp accepted place
  rw [refused] at valid
  contradiction

end Service
end RoutineGate
