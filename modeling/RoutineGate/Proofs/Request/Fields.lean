import RoutineGate.Proofs.Expression.Typing
import RoutineGate.Proofs.Request.Merging

/-!
# Fields of sections

The fields of each section of a compiled request schema have distinct keys and well-formed
schemas, so they make up a well-formed schema of a record.
-/

namespace RoutineGate

/-- Without registered validators, all of them are well-formed. -/
theorem Expression.Validators.wellFormed_empty :
    Expression.Validators.WellFormed .empty := by
  intro name inner found
  exact absurd found (by simp [Registry.empty, Registry.get?])

namespace Request

open Documentation (ParamDirective)

variable {procedure : String} {scope : Expression.Scope}
variable {directives : List ParamDirective} {schema : RequestSchema}

/-- What a parameter compiles to is well-formed. -/
theorem wellFormed_of_compileParameter
    (registered : scope.validators.WellFormed)
    {directive : ParamDirective}
    {parameter : CompiledParameter}
    (compiled : compileParameter procedure scope directive = .ok parameter) :
    parameter.node.WellFormed := by
  obtain ⟨source, node, -, denoted, rfl⟩ := compileParameter_eq_ok_iff.mp compiled
  unfold compileExpression at denoted
  split at denoted
  · next node' evaluated =>
      obtain rfl := Except.ok.inj denoted
      exact (Expression.wellFormed_of_compile registered evaluated).1
  · exact absurd denoted (by simp)
  · exact absurd denoted (by simp)

/-- The sections of a request schema are those of compiled parameters. -/
theorem exists_parameters_of_compileSchema
    (compiled : compileSchema procedure scope directives = .ok schema) :
    ∃ parameters, directives.mapM (compileParameter procedure scope) = .ok parameters ∧
      schema.sections = groupSections parameters := by
  obtain ⟨parameters, pairs, -, rfl⟩ := compileSchema_eq_ok_iff.mp compiled
  exact ⟨parameters, mapM_eq_ok_iff.mpr pairs, rfl⟩

/-- The fields of a section make up a well-formed schema. -/
theorem wellFormed_of_compileSchema
    (registered : scope.validators.WellFormed)
    (compiled : compileSchema procedure scope directives = .ok schema)
    {place : Section}
    {fields : Fields}
    (carried : schema.fields? place = some fields) :
    (fields.map Prod.fst).Nodup ∧ ∀ field ∈ fields, field.2.WellFormed := by
  obtain ⟨parameters, traversed, sections⟩ := exists_parameters_of_compileSchema compiled
  rw [RequestSchema.fields?, sections, lookup_groupSections] at carried
  obtain ⟨-, same⟩ := Option.ite_none_right_eq_some.mp carried
  obtain rfl := Option.some.inj same
  refine Value.gather_holds fun pair listed => ?_
  obtain ⟨parameter, member, rfl⟩ := List.mem_map.mp listed
  have traversed := mapM_eq_ok_iff.mp traversed
  obtain ⟨directive, -, made⟩ := exists_of_forall₂ (List.Forall₂.flip traversed)
    (List.mem_of_mem_filter member)
  exact wellFormed_of_compileParameter registered made

/-- No two fields of a section have one key. -/
theorem nodup_keys_of_compileSchema
    (compiled : compileSchema procedure scope directives = .ok schema)
    (place : Section) :
    (((schema.fields? place).getD []).map Prod.fst).Nodup := by
  obtain ⟨parameters, -, sections⟩ := exists_parameters_of_compileSchema compiled
  have gathered : ((sectionFields parameters place).map Prod.fst).Nodup ∧
      ∀ entry ∈ sectionFields parameters place, True :=
    @Value.gather_holds (Schema Value) (fun _ => True) _ fun _ _ => trivial
  rw [RequestSchema.fields?, sections, lookup_groupSections]
  split
  · exact gathered.1
  · exact List.nodup_nil

/-- A section with fields is validated as a record by them. -/
theorem validate_of_fields?
    {place : Section}
    {fields : Fields}
    (carried : schema.fields? place = some fields)
    (raw : Value) :
    schema.validate place raw =
      Schema.validateModel (schema.modelName place) fields raw := by
  rw [RequestSchema.validate, carried]

end Request
end RoutineGate
