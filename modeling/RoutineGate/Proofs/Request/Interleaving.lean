import RoutineGate.Proofs.Request.Merging

/-!
# Interleaved sources

Parameters of different sources do not meet in a request schema: each section is made up of the
parameters that it carries, in their order.  So how the directives of different sources are
interleaved does not matter, and the sections come in an order of their own.
-/

namespace RoutineGate
namespace Request

open Documentation (ParamDirective)

/-! ## Parameters of one source -/

/-- The directives among several that name a source. -/
def directivesFrom (source : String) (directives : List ParamDirective) : List ParamDirective :=
  directives.filter fun directive => directive.source = source

/-- For each source, two lists have the same directives in the same order. -/
def AgreeBySource (first second : List ParamDirective) : Prop :=
  ∀ source, directivesFrom source first = directivesFrom source second

theorem AgreeBySource.symm
    {first second : List ParamDirective}
    (agree : AgreeBySource first second) :
    AgreeBySource second first :=
  fun source => (agree source).symm

/-- Lists that agree by source have the same directives. -/
theorem AgreeBySource.mem_of_mem
    {first second : List ParamDirective}
    (agree : AgreeBySource first second)
    {directive : ParamDirective}
    (member : directive ∈ first) :
    directive ∈ second := by
  have listed : directive ∈ directivesFrom directive.source first := by
    simp [directivesFrom, member]
  rw [agree] at listed
  exact List.mem_of_mem_filter listed

section Compiled

variable {procedure : String} {scope : Expression.Scope}
variable {directives first second : List ParamDirective}
variable {parameters firstParameters secondParameters : List CompiledParameter}

variable (procedure scope) in
/-- Directives compile to parameters, one by one. -/
abbrev CompileTo : List ParamDirective → List CompiledParameter → Prop :=
  List.Forall₂ fun directive parameter =>
    compileParameter procedure scope directive = .ok parameter

/-- The directives of a source compile to the parameters of this source. -/
theorem compileTo_filter
    (pairs : CompileTo procedure scope directives parameters)
    (source : Source) :
    CompileTo procedure scope (directivesFrom source.name directives)
      (parameters.filter fun parameter => parameter.source = source) := by
  refine List.rel_filter ?_ pairs
  intro directive parameter compiled
  obtain ⟨named, node, found, -, rfl⟩ := compileParameter_eq_ok_iff.mp compiled
  obtain same := Source.ofName?_eq_some_iff.mp found
  simp only [decide_eq_true_eq]
  constructor
  · intro here
    rw [here] at found
    simpa using found.symm
  · rintro rfl
    exact same

/-- What directives compile to is determined by them. -/
theorem eq_of_compileTo
    (firstPairs : CompileTo procedure scope directives firstParameters)
    (secondPairs : CompileTo procedure scope directives secondParameters) :
    firstParameters = secondParameters := by
  refine List.right_unique_forall₂' ?_ firstPairs secondPairs
  intro directive parameter other compiled otherCompiled
  exact Except.ok.inj (compiled.symm.trans otherCompiled)

/-- Directives that agree by source make up the same sections. -/
theorem groupSections_eq_of_agreeBySource
    (agree : AgreeBySource first second)
    (firstPairs : CompileTo procedure scope first firstParameters)
    (secondPairs : CompileTo procedure scope second secondParameters) :
    groupSections firstParameters = groupSections secondParameters := by
  have sameFields (place : Section) :
      sectionFields firstParameters place = sectionFields secondParameters place := by
    have firstCarried := compileTo_filter firstPairs (.within place)
    rw [agree] at firstCarried
    have carried := eq_of_compileTo firstCarried (compileTo_filter secondPairs (.within place))
    rw [sectionFields, sectionFields, carried]
  simp only [groupSections, sameFields]

/-- A schema of directives is one of all that agree with them by source. -/
theorem compileSchema_of_agreeBySource
    (agree : AgreeBySource first second)
    {schema : RequestSchema}
    (compiled : compileSchema procedure scope first = .ok schema) :
    compileSchema procedure scope second = .ok schema := by
  obtain ⟨firstParameters, firstPairs, faultless, rfl⟩ := compileSchema_eq_ok_iff.mp compiled
  obtain ⟨secondParameters, secondPairs⟩ : ∃ secondParameters,
      CompileTo procedure scope second secondParameters := by
    refine exists_forall₂ fun directive member => ?_
    obtain ⟨parameter, -, made⟩ := exists_of_forall₂ firstPairs (agree.symm.mem_of_mem member)
    exact ⟨parameter, made⟩
  have sameSections := groupSections_eq_of_agreeBySource agree firstPairs secondPairs
  refine compileSchema_eq_ok_iff.mpr ⟨secondParameters, secondPairs, ?_, ?_⟩
  · rw [← sameSections, faultless]
  · rw [sameSections]

/-! ## Which sections there are -/

/-- Gathering loses a key only if there are no pairs. -/
theorem gather_eq_nil_iff
    {Datum : Type}
    {pairs : List (String × Datum)} :
    Value.gather pairs = [] ↔ pairs = [] := by
  constructor
  · intro empty
    obtain rfl | ⟨front, ⟨key, value⟩, rfl⟩ := List.eq_nil_or_concat' pairs
    · rfl
    · have found := Value.lookup_gather key (front ++ [(key, value)])
      simp [empty] at found
  · rintro rfl
    rfl

/-- A section has fields exactly if a directive names it. -/
theorem sectionFields_ne_nil_iff
    (pairs : CompileTo procedure scope directives parameters)
    (place : Section) :
    sectionFields parameters place ≠ [] ↔
      ∃ directive ∈ directives, directive.source = place.name := by
  have carried := (compileTo_filter pairs (.within place)).length_eq
  rw [sectionFields, Ne, gather_eq_nil_iff, List.map_eq_nil_iff, ← List.length_eq_zero_iff,
    ← carried, List.length_eq_zero_iff, directivesFrom]
  simp only [List.filter_eq_nil_iff, decide_eq_true_eq, not_forall, not_not, exists_prop]
  rfl

/-- The sections of a schema are those that a directive names, in the order of validation. -/
theorem map_fst_sections
    {schema : RequestSchema}
    (compiled : compileSchema procedure scope directives = .ok schema) :
    schema.sections.map Prod.fst =
      Section.all.filter fun place => ∃ directive ∈ directives, directive.source = place.name := by
  obtain ⟨parameters, pairs, -, rfl⟩ := compileSchema_eq_ok_iff.mp compiled
  simp only [groupSections, List.filter_map, List.map_map]
  rw [show Prod.fst ∘ (fun place => (place, sectionFields parameters place)) = id from rfl,
    List.map_id]
  refine List.filter_congr fun place _ => ?_
  rw [Bool.eq_iff_iff, decide_eq_true_eq, ← sectionFields_ne_nil_iff pairs place]
  simp

end Compiled

/--
Two lists of directives that agree by source compile to the same schemas: there is one for the
first exactly if there is one for the second, and then both are equal.  Its sections are those
that a directive names, each once and in the order of validation.
-/
theorem compileSchema_interleaved
    {first second : List ParamDirective}
    (agree : AgreeBySource first second)
    (procedure : String)
    (scope : Expression.Scope) :
    (∀ schema, compileSchema procedure scope first = .ok schema ↔
      compileSchema procedure scope second = .ok schema) ∧
    ∀ schema, compileSchema procedure scope first = .ok schema →
      schema.sections.map Prod.fst =
        [.querystring, .params, .body, .headers].filter fun place =>
          ∃ directive ∈ first, directive.source = place.name := by
  refine ⟨fun schema => ⟨?_, ?_⟩, fun schema compiled => map_fst_sections compiled⟩
  · exact compileSchema_of_agreeBySource agree
  · exact compileSchema_of_agreeBySource agree.symm

/-- A header before or between two parameters of the body does not matter. -/
theorem compileSchema_interleaved_titles :
    AgreeBySource [longTitle, headerTitle, anyTitle] [headerTitle, longTitle, anyTitle] ∧
    ∃ schema, compileSchema "p" .empty [longTitle, headerTitle, anyTitle] = .ok schema ∧
      compileSchema "p" .empty [headerTitle, longTitle, anyTitle] = .ok schema ∧
      schema.sections.map Prod.fst = [.body, .headers] := by
  have agree :
      AgreeBySource [longTitle, headerTitle, anyTitle] [headerTitle, longTitle, anyTitle] := by
    intro source
    by_cases body : "body" = source
    · subst body
      decide
    · simp [directivesFrom, List.filter_cons, longTitle, anyTitle, body]
  have lengths : (compileSchema "p" .empty [longTitle, headerTitle, anyTitle]).toOption.map
      (fun schema => schema.sections.length) = some 2 := by
    decide +kernel
  obtain ⟨schema, compiled, -⟩ := exists_ok_of_toOption_map lengths
  obtain ⟨same, keys⟩ := compileSchema_interleaved agree "p" .empty
  refine ⟨agree, schema, compiled, (same schema).mp compiled, ?_⟩
  rw [keys schema compiled]
  decide

end Request
end RoutineGate
