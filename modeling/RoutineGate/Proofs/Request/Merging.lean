import Mathlib.Data.List.Induction
import RoutineGate.Proofs.Traversal
import RoutineGate.Request.Schema

/-!
# Merging parameters into sections

The parameters that a section carries are merged into one record schema by their keys.  Of
several ones with a key only the last is left, so the schema of each parameter is in its
section exactly if parameters that share a key have the same schema.
-/

namespace RoutineGate

namespace Value

variable {Datum : Type}

theorem put_ne_nil
    (key : String)
    (value : Datum)
    (entries : List (String × Datum)) :
    put key value entries ≠ [] := by
  cases entries with
  | nil => simp [put]
  | cons entry entries =>
      rw [put]
      split <;> simp

theorem lookup_foldl_put
    (key : String)
    (pairs entries : List (String × Datum)) :
    (pairs.foldl (fun entries pair => put pair.1 pair.2 entries) entries).lookup key =
      (pairs.reverse.lookup key).or (entries.lookup key) := by
  induction pairs generalizing entries with
  | nil => rfl
  | cons pair pairs inductionHypothesis =>
      obtain ⟨name, value⟩ := pair
      rw [List.foldl_cons, inductionHypothesis, List.reverse_cons, List.lookup_append,
        Option.or_assoc]
      by_cases same : key = name
      · subst same
        rw [lookup_put_self, List.lookup_cons_self, Option.some_or]
      · have apart : (key == name) = false := by simpa using same
        rw [lookup_put_of_ne same, List.lookup_cons, apart, List.lookup_nil, Option.none_or]

/-- Of the values that are gathered under a key the last one counts. -/
theorem lookup_gather
    (key : String)
    (pairs : List (String × Datum)) :
    (gather pairs).lookup key = pairs.reverse.lookup key := by
  rw [gather, lookup_foldl_put, List.lookup_nil, Option.or_none]

end Value

namespace Request

open Documentation (ParamDirective)

/-! ## Compiled parameters -/

theorem Source.ofName?_eq_some_iff
    {content : String}
    {source : Source} :
    Source.ofName? content = some source ↔ content = source.name :=
  find?_named_eq_some_iff Source.ofName?_name

/-- Whether a parameter is carried by a section under a key. -/
def CompiledParameter.isAt (place : Section) (key : String) (parameter : CompiledParameter) :
    Bool :=
  parameter.source = .within place ∧ parameter.key = key

/-- The last parameter that a section carries under a key. -/
def lastAt? (parameters : List CompiledParameter) (place : Section) (key : String) :
    Option CompiledParameter :=
  parameters.reverse.find? (CompiledParameter.isAt place key)

theorem lookup_map_filter
    (place : Section)
    (key : String)
    (parameters : List CompiledParameter) :
    ((parameters.filter fun parameter => parameter.source = .within place).map fun parameter =>
        (parameter.key, parameter.node)).lookup key =
      (parameters.find? (CompiledParameter.isAt place key)).map CompiledParameter.node := by
  induction parameters with
  | nil => rfl
  | cons parameter parameters inductionHypothesis =>
      by_cases carried : parameter.source = .within place
      · by_cases same : key = parameter.key
        · simp [CompiledParameter.isAt, carried, same]
        · have apart : (key == parameter.key) = false := by simpa using same
          simp [CompiledParameter.isAt, carried, Ne.symm same, List.lookup_cons, apart,
            inductionHypothesis]
      · simp [CompiledParameter.isAt, carried, inductionHypothesis]

/-! ## Sections of compiled parameters -/

/-- The fields of the parameters that a section carries. -/
def sectionFields (parameters : List CompiledParameter) (place : Section) : Fields :=
  Value.gather <|
    (parameters.filter fun parameter => parameter.source = .within place).map fun parameter =>
      (parameter.key, parameter.node)

/-- The sections that carry parameters, with their fields. -/
def groupSections (parameters : List CompiledParameter) : Sections :=
  (Section.all.map fun place => (place, sectionFields parameters place)).filter
    fun entry => !entry.2.isEmpty

/-- One more parameter sets a field of the section that carries it. -/
theorem sectionFields_concat
    (parameters : List CompiledParameter)
    (parameter : CompiledParameter)
    (place : Section) :
    sectionFields (parameters ++ [parameter]) place =
      if parameter.source = .within place then
        Value.put parameter.key parameter.node (sectionFields parameters place)
      else sectionFields parameters place := by
  by_cases carried : parameter.source = .within place
  · simp [sectionFields, Value.gather, List.filter_append, carried]
  · simp [sectionFields, List.filter_append, carried]

theorem lookup_setFields
    (place other : Section)
    (fields : Fields)
    (sections : Sections) :
    (setFields place fields sections).lookup other =
      if other = place then some fields else sections.lookup other := by
  induction sections with
  | nil =>
      rw [setFields, List.lookup_cons]
      cases same : other == place <;> simp_all
  | cons entry sections inductionHypothesis =>
      obtain ⟨first, old⟩ := entry
      rw [setFields]
      by_cases found : first = place
      · subst found
        simp only [if_true, List.lookup_cons]
        cases same : other == first <;> simp_all
      · simp only [found, if_false, List.lookup_cons, inductionHypothesis]
        cases same : other == first <;> simp_all

/-- Extending sections parameter by parameter gives each the fields of its parameters. -/
theorem lookup_foldl_extendSection
    (parameters : List CompiledParameter)
    (place : Section) :
    (parameters.foldl extendSection []).lookup place =
      if sectionFields parameters place = [] then none
      else some (sectionFields parameters place) := by
  induction parameters using List.reverseRecOn with
  | nil => rfl
  | append_singleton parameters parameter inductionHypothesis =>
      have fields : ((parameters.foldl extendSection []).lookup place).getD [] =
          sectionFields parameters place := by
        rw [inductionHypothesis]
        split <;> simp_all
      rw [List.foldl_concat, sectionFields_concat, extendSection]
      cases carried : parameter.source with
      | within found =>
          rw [lookup_setFields]
          by_cases same : place = found
          · subst same
            simp [fields, Value.put_ne_nil]
          · simp [same, Ne.symm same, inductionHypothesis]
      | user | request => simp [inductionHypothesis]

theorem orderedSections_foldl_extendSection (parameters : List CompiledParameter) :
    orderedSections (parameters.foldl extendSection []) = groupSections parameters := by
  rw [orderedSections, groupSections]
  simp only [lookup_foldl_extendSection]
  induction Section.all with
  | nil => rfl
  | cons place places inductionHypothesis =>
      rw [List.filterMap_cons, List.map_cons, List.filter_cons, inductionHypothesis]
      by_cases empty : sectionFields parameters place = [] <;> simp [empty]

/-- The field of a section under a key is that of the last parameter there. -/
theorem lookup_sectionFields
    (parameters : List CompiledParameter)
    (place : Section)
    (key : String) :
    (sectionFields parameters place).lookup key =
      (lastAt? parameters place key).map CompiledParameter.node := by
  rw [sectionFields, Value.lookup_gather, ← List.map_reverse, ← List.filter_reverse,
    lookup_map_filter, lastAt?]

theorem lookup_filter_map
    {Datum : Type}
    (make : Section → List Datum)
    (place : Section)
    (places : List Section) :
    ((places.map fun place => (place, make place)).filter
        fun entry => !entry.2.isEmpty).lookup place =
      if place ∈ places ∧ make place ≠ [] then some (make place) else none := by
  induction places with
  | nil => simp
  | cons first places inductionHypothesis =>
      by_cases empty : make first = []
      · by_cases same : place = first
        · subst same
          simp [empty, inductionHypothesis]
        · simp [empty, inductionHypothesis, same]
      · by_cases same : place = first
        · subst same
          simp [empty]
        · have apart : (place == first) = false := by simpa using same
          simp [empty, List.lookup_cons, apart, inductionHypothesis, same]

/-- A section has a schema exactly if it carries parameters. -/
theorem lookup_groupSections
    (parameters : List CompiledParameter)
    (place : Section) :
    (groupSections parameters).lookup place =
      if sectionFields parameters place ≠ [] then some (sectionFields parameters place)
      else none := by
  have listed : place ∈ Section.all := by cases place <;> decide
  rw [groupSections, lookup_filter_map]
  simp only [listed, true_and]

/-! ## Fields of a request schema -/

/-- The schema of a section under a key. -/
def RequestSchema.field? (schema : RequestSchema) (place : Section) (key : String) :
    Option (Schema Value) :=
  (schema.fields? place).bind (List.lookup key)

/-- The section and the key that a parameter directive claims, if it names a section. -/
def slot? (directive : ParamDirective) : Option (Section × String) :=
  match Source.ofName? directive.source with
  | some (.within place) => some (place, sourceKey (.within place) directive.key)
  | _ => none

section Compiled

variable {procedure : String} {scope : Expression.Scope}
variable {directives : List ParamDirective} {schema : RequestSchema}

/-- A parameter is compiled from its source, its key and its schema expression. -/
theorem compileParameter_eq_ok_iff
    {directive : ParamDirective}
    {parameter : CompiledParameter} :
    compileParameter procedure scope directive = .ok parameter ↔
      ∃ source node, Source.ofName? directive.source = some source ∧
        compileExpression procedure scope directive = .ok node ∧
        parameter = { source, key := sourceKey source directive.key, node } := by
  unfold compileParameter
  cases Source.ofName? directive.source with
  | none => simp
  | some source =>
      cases compileExpression procedure scope directive with
      | error failure => simp
      | ok node => simp [eq_comm]

/-- Compiling directives one by one into sections compiles all of them, and then groups them. -/
theorem foldlM_addDirective (sections : Sections) :
    directives.foldlM (addDirective procedure scope) sections =
      (directives.mapM (compileParameter procedure scope)).map
        (List.foldl extendSection sections) := by
  induction directives generalizing sections with
  | nil => rfl
  | cons directive directives inductionHypothesis =>
      rw [List.foldlM_cons, List.mapM_cons, addDirective]
      cases compileParameter procedure scope directive with
      | error failure => rfl
      | ok parameter =>
          simp only [Except.map, bind, Except.bind, inductionHypothesis]
          cases directives.mapM (compileParameter procedure scope) <;> rfl

theorem compileSchema_of_error
    {failure : CompileFailure}
    (refused : directives.mapM (compileParameter procedure scope) = .error failure) :
    compileSchema procedure scope directives = .error failure := by
  rw [compileSchema, foldlM_addDirective, refused]
  rfl

theorem compileSchema_of_ok
    {parameters : List CompiledParameter}
    (compiled : directives.mapM (compileParameter procedure scope) = .ok parameters) :
    compileSchema procedure scope directives =
      match sectionsFault? (groupSections parameters) with
      | some fault => .error (.fault fault)
      | none => .ok { procedure, sections := groupSections parameters } := by
  rw [compileSchema, foldlM_addDirective, compiled, ← orderedSections_foldl_extendSection]
  rfl

/-- A request schema groups the compiled parameters, if no section of them has a fault. -/
theorem compileSchema_eq_ok_iff :
    compileSchema procedure scope directives = .ok schema ↔
      ∃ parameters,
        List.Forall₂ (fun directive parameter =>
            compileParameter procedure scope directive = .ok parameter)
          directives parameters ∧
        sectionsFault? (groupSections parameters) = none ∧
        schema = { procedure, sections := groupSections parameters } := by
  simp only [← mapM_eq_ok_iff]
  cases traversed : directives.mapM (compileParameter procedure scope) with
  | error failure => simp [compileSchema_of_error traversed]
  | ok parameters =>
      rw [compileSchema_of_ok traversed]
      cases unusable : sectionsFault? (groupSections parameters) with
      | some fault => simp [unusable]
      | none => simp [unusable, eq_comm]

/-- A parameter is carried by a section under a key exactly if its directive claims them. -/
theorem isAt_iff_slot?
    {directive : ParamDirective}
    {parameter : CompiledParameter}
    (compiled : compileParameter procedure scope directive = .ok parameter)
    (place : Section)
    (key : String) :
    parameter.isAt place key = true ↔ slot? directive = some (place, key) := by
  obtain ⟨source, node, named, -, rfl⟩ := compileParameter_eq_ok_iff.mp compiled
  unfold CompiledParameter.isAt slot?
  cases source with
  | within found =>
      simp only [named, Source.within.injEq, decide_eq_true_eq, Option.some.injEq,
        Prod.mk.injEq]
  | user => simp [named]
  | request => simp [named]

/-- The node that the schema expression of a directive denotes. -/
def nodeOf? (procedure : String) (scope : Expression.Scope)
    (directive : ParamDirective) : Option (Schema Value) :=
  (compileExpression procedure scope directive).toOption

/-- The last directive that claims a section and a key. -/
def lastClaim? (directives : List ParamDirective) (place : Section) (key : String) :
    Option ParamDirective :=
  directives.reverse.find? fun directive => slot? directive = some (place, key)

/-- The last parameter under a key is that of the last directive that claims it. -/
theorem find?_compiled
    {parameters : List CompiledParameter}
    (traversed : List.Forall₂ (fun directive parameter =>
        compileParameter procedure scope directive = .ok parameter)
      directives parameters)
    (place : Section)
    (key : String) :
    (parameters.find? (CompiledParameter.isAt place key)).map CompiledParameter.node =
      (directives.find? fun directive => slot? directive = some (place, key)).bind
        (nodeOf? procedure scope) := by
  induction traversed with
  | nil => rfl
  | @cons directive parameter directives parameters compiled rest inductionHypothesis =>
      have claims := isAt_iff_slot? compiled place key
      obtain ⟨source, node, -, denoted, rfl⟩ := compileParameter_eq_ok_iff.mp compiled
      by_cases claimed : slot? directive = some (place, key)
      · rw [List.find?_cons_of_pos (claims.mpr claimed), List.find?_cons_of_pos (by simpa),
          Option.map_some, Option.bind_some, nodeOf?, denoted]
        rfl
      · rw [List.find?_cons_of_neg (mt claims.mp claimed), List.find?_cons_of_neg (by simpa)]
        exact inductionHypothesis

/-- A request schema has under each key what the last directive that claims it denotes. -/
theorem field?_eq
    (compiled : compileSchema procedure scope directives = .ok schema)
    (place : Section)
    (key : String) :
    schema.field? place key =
      (lastClaim? directives place key).bind (nodeOf? procedure scope) := by
  obtain ⟨parameters, pairs, -, rfl⟩ := compileSchema_eq_ok_iff.mp compiled
  rw [lastClaim?, ← find?_compiled (List.rel_reverse pairs), ← lastAt?, ← lookup_sectionFields,
    RequestSchema.field?, RequestSchema.fields?, lookup_groupSections]
  by_cases empty : sectionFields parameters place = []
  · simp [empty]
  · simp [empty]

/-- Every directive of a request schema names a source and denotes a node. -/
theorem exists_node
    (compiled : compileSchema procedure scope directives = .ok schema)
    {directive : ParamDirective}
    (member : directive ∈ directives) :
    ∃ source node, Source.ofName? directive.source = some source ∧
      compileExpression procedure scope directive = .ok node := by
  obtain ⟨parameters, pairs, -, -⟩ := compileSchema_eq_ok_iff.mp compiled
  obtain ⟨parameter, -, made⟩ := exists_of_forall₂ pairs member
  obtain ⟨source, node, named, denoted, -⟩ := compileParameter_eq_ok_iff.mp made
  exact ⟨source, node, named, denoted⟩

/-- A directive that claims a section and a key leaves a last one that does. -/
theorem exists_lastClaim?
    {directive : ParamDirective}
    (member : directive ∈ directives)
    {place : Section}
    {key : String}
    (claimed : slot? directive = some (place, key)) :
    ∃ last ∈ directives, slot? last = some (place, key) ∧
      lastClaim? directives place key = some last := by
  cases found : lastClaim? directives place key with
  | none =>
      have unclaimed := List.find?_eq_none.mp found directive (List.mem_reverse.mpr member)
      exact absurd (decide_eq_true claimed) unclaimed
  | some last =>
      have listed := List.mem_reverse.mp (List.mem_of_find?_eq_some found)
      have claims := List.find?_some found
      exact ⟨last, listed, by simpa using claims, rfl⟩

/-- Every claimed field of a request schema is there. -/
theorem exists_field?
    (compiled : compileSchema procedure scope directives = .ok schema)
    {directive : ParamDirective}
    (member : directive ∈ directives)
    {place : Section}
    {key : String}
    (claimed : slot? directive = some (place, key)) :
    ∃ node, schema.field? place key = some node := by
  obtain ⟨last, listed, -, found⟩ := exists_lastClaim? member claimed
  obtain ⟨source, node, -, denoted⟩ := exists_node compiled listed
  refine ⟨node, ?_⟩
  rw [field?_eq compiled, found, Option.bind_some, nodeOf?, denoted]
  rfl

/-! ## Which schemas are kept -/

/-- The node that a directive denotes is in its section under its key. -/
def IsKept (procedure : String) (scope : Expression.Scope) (schema : RequestSchema)
    (directive : ParamDirective) : Prop :=
  ∀ place key, slot? directive = some (place, key) →
    ∃ node, compileExpression procedure scope directive = .ok node ∧
      schema.field? place key = some node

/-- Directives that claim the same section and key denote the same node. -/
def AgreeOnSlots (procedure : String) (scope : Expression.Scope)
    (directives : List ParamDirective) : Prop :=
  ∀ first ∈ directives, ∀ second ∈ directives, ∀ slot,
    slot? first = some slot → slot? second = some slot →
      nodeOf? procedure scope first = nodeOf? procedure scope second

/-- A directive is kept exactly if the last one that claims its slot denotes the same node. -/
theorem isKept_iff_of_lastClaim?
    (compiled : compileSchema procedure scope directives = .ok schema)
    {directive last : ParamDirective}
    (member : directive ∈ directives)
    {place : Section}
    {key : String}
    (claimed : slot? directive = some (place, key))
    (found : lastClaim? directives place key = some last) :
    IsKept procedure scope schema directive ↔
      nodeOf? procedure scope last = nodeOf? procedure scope directive := by
  obtain ⟨-, own, -, denoted⟩ := exists_node compiled member
  have ownNode : nodeOf? procedure scope directive = some own := by
    rw [nodeOf?, denoted]
    rfl
  have field := field?_eq compiled place key
  rw [found, Option.bind_some] at field
  constructor
  · intro kept
    obtain ⟨node, sameNode, there⟩ := kept place key claimed
    obtain rfl : own = node := Except.ok.inj (denoted.symm.trans sameNode)
    rw [← field, there, ownNode]
  · intro same place' key' claimed'
    obtain ⟨rfl, rfl⟩ : place = place' ∧ key = key' := by
      simpa using claimed.symm.trans claimed'
    exact ⟨own, denoted, by rw [field, same, ownNode]⟩

/--
Every directive is kept in the section and under the key that it claims exactly if the
directives that share a section and a key denote the same node.  Otherwise the last one of
them is kept.
-/
theorem isKept_iff_agreeOnSlots
    (compiled : compileSchema procedure scope directives = .ok schema) :
    ((∀ directive ∈ directives, IsKept procedure scope schema directive) ↔
      AgreeOnSlots procedure scope directives) ∧
    ∀ earlier directive later, directives = earlier ++ directive :: later →
      (∀ other ∈ later, slot? other ≠ slot? directive) →
      IsKept procedure scope schema directive := by
  refine ⟨⟨?_, ?_⟩, ?_⟩
  · rintro kept first firstMember second secondMember ⟨place, key⟩ firstClaims secondClaims
    obtain ⟨last, -, -, found⟩ := exists_lastClaim? firstMember firstClaims
    have firstSame := (isKept_iff_of_lastClaim? compiled firstMember firstClaims found).mp
      (kept first firstMember)
    have secondSame := (isKept_iff_of_lastClaim? compiled secondMember secondClaims found).mp
      (kept second secondMember)
    exact firstSame.symm.trans secondSame
  · intro agree directive member place key claimed
    obtain ⟨last, listed, lastClaims, found⟩ := exists_lastClaim? member claimed
    have same := agree last listed directive member (place, key) lastClaims claimed
    exact (isKept_iff_of_lastClaim? compiled member claimed found).mpr same place key claimed
  · rintro earlier directive later rfl unclaimed place key claimed
    have member : directive ∈ earlier ++ directive :: later := by simp
    have found : lastClaim? (earlier ++ directive :: later) place key = some directive := by
      -- read from the end, the directive is the first one that claims the slot
      rw [lastClaim?, List.reverse_append, List.reverse_cons, List.append_assoc,
        List.find?_append, List.find?_eq_none.mpr, Option.none_or]
      · simp [claimed]
      · intro other listed
        simpa [← claimed] using unclaimed other (List.mem_reverse.mp listed)
    exact (isKept_iff_of_lastClaim? compiled member claimed found).mpr rfl place key claimed

end Compiled

/-- A parameter of the body of at least five characters. -/
def longTitle : ParamDirective where
  name := "a"
  key := "x"
  source := "body"
  expression := "z.string().min(5)"

/-- A parameter that shares the key of `longTitle`. -/
def anyTitle : ParamDirective where
  name := "b"
  key := "x"
  source := "body"
  expression := ""

/-- A parameter of the headers. -/
def headerTitle : ParamDirective where
  name := "b"
  key := "X"
  source := "headers"
  expression := ""

/-- Parameters in different sections are both kept. -/
theorem isKept_of_distinct :
    ∃ schema, compileSchema "p" .empty [longTitle, headerTitle] = .ok schema ∧
      ∀ directive ∈ [longTitle, headerTitle], IsKept "p" .empty schema directive := by
  have lengths : (compileSchema "p" .empty [longTitle, headerTitle]).toOption.map (fun schema =>
      schema.sections.length) = some 2 := by
    decide +kernel
  have apart : slot? longTitle ≠ slot? headerTitle := by decide +kernel
  obtain ⟨schema, compiled, -⟩ := exists_ok_of_toOption_map lengths
  refine ⟨schema, compiled, (isKept_iff_agreeOnSlots compiled).1.mpr ?_⟩
  intro first firstMember second secondMember slot firstClaims secondClaims
  have same := firstClaims.trans secondClaims.symm
  rw [List.mem_pair] at firstMember secondMember
  obtain rfl | rfl := firstMember <;> obtain rfl | rfl := secondMember
  · rfl
  · exact absurd same apart
  · exact absurd same.symm apart
  · rfl

/-- The bound of a parameter is lost to a later one with the same key. -/
theorem not_isKept_of_shared :
    ∃ schema, compileSchema "p" .empty [longTitle, anyTitle] = .ok schema ∧
      ¬∀ directive ∈ [longTitle, anyTitle], IsKept "p" .empty schema directive := by
  have kept : (compileSchema "p" .empty [longTitle, anyTitle]).toOption.map (fun schema =>
      (schema.field? .body "x").map fun node => node.traits.steps.length) = some (some 0) := by
    decide +kernel
  have own : (nodeOf? "p" .empty longTitle).map (fun node => node.traits.steps.length) =
      some 1 := by
    decide +kernel
  obtain ⟨schema, compiled, unbounded⟩ := exists_ok_of_toOption_map kept
  refine ⟨schema, compiled, fun all => ?_⟩
  obtain ⟨node, denoted, there⟩ := all longTitle List.mem_cons_self .body "x" (by decide +kernel)
  have none : node.traits.steps.length = 0 := by simpa [there] using unbounded
  have one : node.traits.steps.length = 1 := by
    simpa [nodeOf?, denoted, Except.toOption] using own
  omega

end Request
end RoutineGate
