import RoutineGate.Proofs.Request.Fields
import RoutineGate.Proofs.Route.Compilation
import RoutineGate.Proofs.Schema.Required
import RoutineGate.Proofs.Service.Sections
import RoutineGate.Route.Description

/-!
# What descriptions say

The description of a route says which parameters a request carries in its path, its query and
its headers, which of them are required, and whether a body is.  Routing and validation decide
the same on their own, from the path and from the schemas of the sections.
-/

namespace RoutineGate

namespace Route

open Schema (AcceptsEntry ReportsMissing issuesOf requiredKeys)

variable {Hook : Type}

/-! ## Reading a description -/

/-- The name of a parameter that is described at a location, and whether it is required. -/
def documentedAt? (location : String) : Value → Option (String × Bool)
  | .record entries =>
      match entries.lookup "name", entries.lookup "in", entries.lookup "required" with
      | some (.text name), some (.text place), some (.bool isRequired) =>
          if place = location then some (name, isRequired) else none
      | _, _, _ => none
  | _ => none

/-- The parameters that a description has at a location. -/
def documentedIn (location : String) : Value → List (String × Bool)
  | .record entries =>
      match entries.lookup "parameters" with
      | some (.list parameters) => parameters.filterMap (documentedAt? location)
      | _ => []
  | _ => []

/-- Whether a description says that a body is required. -/
def requiresBody : Value → Bool
  | .record entries =>
      match entries.lookup "requestBody" with
      | some (.record body) =>
          match body.lookup "required" with
          | some (.bool isRequired) => isRequired
          | _ => false
      | _ => false
  | _ => false

/-- The fields of a section; a section without a schema has none. -/
def fieldsOf (route : Route Hook) (place : Request.Section) : Request.Fields :=
  (route.schema.fields? place).getD []

section Reading

variable {route : Route Hook}

theorem documentedIn_description
    (route : Route Hook)
    (location : String) :
    documentedIn location (description route) =
      (parameterEntries route).filterMap (documentedAt? location) := by
  unfold description
  cases parameterEntries route with
  | nil => cases route.schema.fields? .body <;> rfl
  | cons entry rest => rfl

/-- What is described at one location is found there only. -/
theorem filterMap_parameterEntry
    {Item : Type}
    (name : Item → String)
    (isRequired : Item → Bool)
    (schema : Item → Value)
    (location other : String)
    (items : List Item) :
    (items.map fun item =>
        parameterEntry (name item) other (isRequired item) (schema item)).filterMap
        (documentedAt? location) =
      if other = location then items.map fun item => (name item, isRequired item) else [] := by
  have each : ∀ item, documentedAt? location
      (parameterEntry (name item) other (isRequired item) (schema item)) =
        if other = location then some (name item, isRequired item) else none := fun _ => rfl
  induction items with
  | nil => simp
  | cons item items inductionHypothesis =>
      rw [List.map_cons, List.filterMap_cons, each, inductionHypothesis]
      by_cases same : other = location <;> simp [same]

/-- A description has the parameters of a section at its location, and the path has others. -/
theorem documentedIn_eq
    (route : Route Hook)
    {place : Request.Section}
    {location : String}
    (located : (place, location) ∈ locations) :
    documentedIn location (description route) =
      (route.fieldsOf place).map (fun field =>
        (field.1, location = pathLocation || field.2.isRequired)) ++
      if pathLocation = location then (undescribed route).map fun name => (name, true)
      else [] := by
  rw [documentedIn_description, parameterEntries, List.filterMap_append,
    filterMap_parameterEntry]
  refine congrArg (· ++ _) ?_
  simp only [locations, List.flatMap_cons, List.flatMap_nil, List.append_nil,
    List.filterMap_append, sectionEntries, filterMap_parameterEntry]
  simp only [locations, List.mem_cons, List.not_mem_nil, or_false, Prod.mk.injEq] at located
  obtain ⟨rfl, rfl⟩ | ⟨rfl, rfl⟩ | ⟨rfl, rfl⟩ := located <;> simp [fieldsOf]

/-- A description requires a body exactly if a schema describes one. -/
theorem requiresBody_description (route : Route Hook) :
    requiresBody (description route) = (route.schema.fields? .body).isSome := by
  unfold description
  cases parameterEntries route <;> cases route.schema.fields? .body <;> rfl

end Reading

/-! ## What requests need -/

/-- A section of a route accepts a record. -/
def AcceptsSection (route : Route Hook) (place : Request.Section)
    (entries : List (String × Value)) : Prop :=
  ∃ output, route.schema.validate place (.record entries) = .ok output

/-- The sections of a request are accepted. -/
def AcceptsRequest (route : Route Hook) (raw : Service.SectionValues) : Prop :=
  ∃ sections, Service.validateSections route.schema raw = .ok sections

/-- A request is like another one, but a section of it lacks an entry. -/
structure LeavesOut (place : Request.Section) (name : String)
    (sent raw : Service.SectionValues) : Prop where
  elsewhere : ∀ other, other ≠ place → raw other = sent other
  within : ∃ before entries, sent place = .record before ∧ raw place = .record entries ∧
    entries.lookup name = none ∧ ∀ key, key ≠ name → entries.lookup key = before.lookup key

/--
The parameters that a description has at a location are those of a section, and a parameter is
required exactly if a request must have it.
-/
structure DescribesSection (route : Route Hook) (place : Request.Section)
    (location : String) : Prop where
  /-- Every parameter of the section is described once. -/
  names : (documentedIn location (description route)).map Prod.fst =
    (route.fieldsOf place).map Prod.fst
  distinct : ((documentedIn location (description route)).map Prod.fst).Nodup
  /-- Without a required parameter no request is accepted. -/
  required : ∀ name, (name, true) ∈ documentedIn location (description route) →
    ∀ raw entries, raw place = .record entries → entries.lookup name = none →
      ¬route.AcceptsRequest raw
  /-- Without any other parameter a request is accepted if it is accepted with it. -/
  optional : ∀ name, (name, false) ∈ documentedIn location (description route) →
    ∀ sent raw, LeavesOut place name sent raw → route.AcceptsRequest sent →
      route.AcceptsRequest raw
  /-- If validation answers, what it reports as missing is required. -/
  reports : ∀ name isRequired,
    (name, isRequired) ∈ documentedIn location (description route) →
    ∀ entries, entries.lookup name = none →
      (∀ fault, route.schema.validate place (.record entries) ≠ .error (.fault fault)) →
      (ReportsMissing [] name (issuesOf (route.schema.validate place (.record entries))) ↔
        isRequired = true)

/-- The described parameters of the path are those of the route, each once and required. -/
structure DescribesPath (route : Route Hook) : Prop where
  distinct : ((documentedIn pathLocation (description route)).map Prod.fst).Nodup
  names : ∀ name, name ∈ (documentedIn pathLocation (description route)).map Prod.fst ↔
    name ∈ route.pathParameters
  required : ∀ parameter ∈ documentedIn pathLocation (description route), parameter.2 = true

/-- A body is described as required exactly if an empty one is refused. -/
def DescribesBody (route : Route Hook) : Prop :=
  ∀ exchange : Service.Exchange, exchange.request.body = [] →
    ∃ sections, Service.readSections route.schema exchange = .ok sections ∧
      (requiresBody (description route) = true ↔
        ¬∃ output, route.schema.validate .body (sections .body) = .ok output)

section Sections

variable {route : Route Hook} {place : Request.Section} {entries : List (String × Value)}

/-- A section accepts a record exactly if each of its fields does. -/
theorem acceptsSection_iff :
    route.AcceptsSection place entries ↔
      ∀ field ∈ route.fieldsOf place, AcceptsEntry entries field := by
  unfold AcceptsSection fieldsOf
  cases carried : route.schema.fields? place with
  | none =>
      rw [Request.validate_of_absent carried]
      simp
  | some fields =>
      rw [Request.validate_of_fields? carried]
      exact Schema.exists_validateModel_iff

/-- A request is accepted exactly if each of its sections is. -/
theorem acceptsRequest_iff
    {raw : Service.SectionValues} :
    route.AcceptsRequest raw ↔
      ∀ place, ∃ output, route.schema.validate place (raw place) = .ok output := by
  unfold AcceptsRequest
  simp only [Service.validateSections_eq_ok_iff]
  constructor
  · rintro ⟨sections, valid⟩ place
    exact ⟨sections place, valid place⟩
  · intro each
    exact ⟨fun place => (each place).choose, fun place => (each place).choose_spec⟩

/-- A section of an accepted request is accepted. -/
theorem AcceptsRequest.accepts
    {raw : Service.SectionValues}
    (accepts : route.AcceptsRequest raw)
    (carried : raw place = .record entries) :
    route.AcceptsSection place entries := by
  have own := acceptsRequest_iff.mp accepts place
  rwa [carried] at own

/-- Only a key that may be left out is accepted without a value. -/
theorem AcceptsSection.isRequired_eq_false
    (accepts : route.AcceptsSection place entries)
    {field : String × Schema Value}
    (declared : field ∈ route.fieldsOf place)
    (absent : entries.lookup field.1 = none) :
    field.2.isRequired = false := by
  have own := acceptsSection_iff.mp accepts field declared
  rwa [AcceptsEntry, absent] at own

/-- Leaving out a key that may be left out changes nothing for the others. -/
theorem AcceptsSection.without
    {sent : List (String × Value)}
    (accepts : route.AcceptsSection place sent)
    (distinct : ((route.fieldsOf place).map Prod.fst).Nodup)
    {field : String × Schema Value}
    (declared : field ∈ route.fieldsOf place)
    (optional : field.2.isRequired = false)
    (others : ∀ key, key ≠ field.1 → entries.lookup key = sent.lookup key)
    (absent : entries.lookup field.1 = none) :
    route.AcceptsSection place entries := by
  refine acceptsSection_iff.mpr fun other listed => ?_
  have own := acceptsSection_iff.mp accepts other listed
  by_cases same : other.1 = field.1
  · obtain rfl := List.inj_on_of_nodup_map distinct listed declared same
    rw [AcceptsEntry, absent]
    exact optional
  · rw [AcceptsEntry, others other.1 same]
    exact own

/-- Validation that answers reports a key that is left out exactly if it is required. -/
theorem reportsMissing_iff_isRequired
    (distinct : ((route.fieldsOf place).map Prod.fst).Nodup)
    {field : String × Schema Value}
    (declared : field ∈ route.fieldsOf place)
    (absent : entries.lookup field.1 = none)
    (answers : ∀ fault,
      route.schema.validate place (.record entries) ≠ .error (.fault fault)) :
    ReportsMissing [] field.1 (issuesOf (route.schema.validate place (.record entries))) ↔
      field.2.isRequired = true := by
  unfold fieldsOf at declared distinct
  cases carried : route.schema.fields? place with
  | none =>
      rw [carried] at declared
      exact absurd declared List.not_mem_nil
  | some fields =>
      rw [carried, Option.getD_some] at declared distinct
      rw [Request.validate_of_fields? carried] at answers ⊢
      rw [Schema.issuesOf_validateModel _ {},
        Schema.reportsMissing_of_validate (Schema.not_faults_of_validateModel answers)]
      constructor
      · rintro ⟨-, listed⟩
        obtain ⟨other, among, same⟩ := List.mem_map.mp listed
        obtain ⟨member, required⟩ := List.mem_filter.mp among
        obtain rfl := List.inj_on_of_nodup_map distinct member declared same
        exact required
      · intro required
        exact ⟨absent, List.mem_map_of_mem (List.mem_filter.mpr ⟨declared, required⟩)⟩

/-- The parameters of the query and of the headers are described as validation treats them. -/
theorem describesSection
    {location : String}
    (located : (place, location) ∈ locations)
    (apart : location ≠ pathLocation)
    (distinct : ((route.fieldsOf place).map Prod.fst).Nodup) :
    DescribesSection route place location := by
  have documented : documentedIn location (description route) =
      (route.fieldsOf place).map fun field => (field.1, field.2.isRequired) := by
    rw [documentedIn_eq route located, if_neg (Ne.symm apart), List.append_nil]
    simp only [apart, decide_false, Bool.false_or]
  have names : (documentedIn location (description route)).map Prod.fst =
      (route.fieldsOf place).map Prod.fst := by
    rw [documented, List.map_map]
    rfl
  have exists_field : ∀ {name isRequired},
      (name, isRequired) ∈ documentedIn location (description route) →
        ∃ field ∈ route.fieldsOf place, field.1 = name ∧ field.2.isRequired = isRequired := by
    intro name isRequired listed
    rw [documented] at listed
    obtain ⟨field, declared, same⟩ := List.mem_map.mp listed
    exact ⟨field, declared, Prod.mk.inj same⟩
  refine ⟨names, names ▸ distinct, ?_, ?_, ?_⟩
  · intro name listed raw entries carried absent accepts
    obtain ⟨field, declared, rfl, required⟩ := exists_field listed
    have unneeded := (accepts.accepts carried).isRequired_eq_false declared absent
    exact absurd unneeded (by simp [required])
  · intro name listed sent raw leavesOut accepts
    obtain ⟨field, declared, rfl, optional⟩ := exists_field listed
    obtain ⟨before, entries, carriedBefore, carried, absent, others⟩ := leavesOut.within
    refine acceptsRequest_iff.mpr fun other => ?_
    by_cases same : other = place
    · rw [same, carried]
      exact (accepts.accepts carriedBefore).without distinct declared optional others absent
    · rw [leavesOut.elsewhere other same]
      exact acceptsRequest_iff.mp accepts other
  · intro name isRequired listed entries absent answers
    obtain ⟨field, declared, rfl, rfl⟩ := exists_field listed
    exact reportsMissing_iff_isRequired distinct declared absent answers

/--
The path is described as it is routed exactly if every parameter that a schema declares for it
is in the path, and no other one is there twice.
-/
theorem describesPath_iff
    (distinct : ((route.fieldsOf .params).map Prod.fst).Nodup) :
    DescribesPath route ↔
      (∀ key ∈ (route.fieldsOf .params).map Prod.fst, key ∈ route.pathParameters) ∧
      (undescribed route).Nodup := by
  have located : (Request.Section.params, pathLocation) ∈ locations := by decide
  have documented : documentedIn pathLocation (description route) =
      ((route.fieldsOf .params).map fun field => (field.1, true)) ++
        (undescribed route).map fun name => (name, true) := by
    rw [documentedIn_eq route located, if_pos rfl]
    simp only [decide_true, Bool.true_or]
  have names : (documentedIn pathLocation (description route)).map Prod.fst =
      (route.fieldsOf .params).map Prod.fst ++ undescribed route := by
    rw [documented, List.map_append, List.map_map, List.map_map]
    exact congrArg _ (List.map_id _)
  have undescribed_iff : ∀ name, name ∈ undescribed route ↔
      name ∈ route.pathParameters ∧ name ∉ (route.fieldsOf .params).map Prod.fst := by
    intro name
    simp [undescribed, fieldsOf]
  constructor
  · intro describes
    refine ⟨fun key declared => (describes.names key).mp ?_, ?_⟩
    · rw [names]
      exact List.mem_append_left _ declared
    · have each := describes.distinct
      rw [names] at each
      exact (List.nodup_append.mp each).2.1
  · rintro ⟨within, once⟩
    -- the declared names come first, and what is not described by them is apart from them
    refine ⟨?_, fun name => ?_, fun parameter listed => ?_⟩
    · rw [names, List.nodup_append]
      refine ⟨distinct, once, fun name declared other other' same => ?_⟩
      exact ((undescribed_iff other).mp other').2 (same ▸ declared)
    · rw [names, List.mem_append, undescribed_iff]
      have declared := within name
      tauto
    · rw [documented] at listed
      obtain declared | other := List.mem_append.mp listed
      · obtain ⟨field, -, rfl⟩ := List.mem_map.mp declared
        rfl
      · obtain ⟨name, -, rfl⟩ := List.mem_map.mp other
        rfl

/-- An empty body is read as an empty record if a schema describes the body. -/
theorem readSections_of_empty
    (schema : Request.RequestSchema)
    {exchange : Service.Exchange}
    (empty : exchange.request.body = []) :
    Service.readSections schema exchange =
      .ok (Service.rawSections exchange (Service.bodyFor schema .null)) := by
  rw [Service.readSections, empty]
  rfl

/-- An empty body is refused exactly if a schema requires one of its fields. -/
theorem exists_validate_empty_iff :
    (∃ output, route.schema.validate .body (Service.bodyFor route.schema .null) = .ok output) ↔
      ∀ fields, route.schema.fields? .body = some fields →
        ∀ field ∈ fields, field.2.isRequired = false := by
  cases carried : route.schema.fields? .body with
  | none =>
      rw [Request.validate_of_absent carried]
      simp
  | some fields =>
      have read : Service.bodyFor route.schema .null = .record [] := by
        simp only [Service.bodyFor, carried]
      rw [read, Request.validate_of_fields? carried, Schema.exists_validateModel_iff]
      simp [AcceptsEntry]

/-- An exchange without a body. -/
def emptyExchange : Service.Exchange where
  request := { method := "POST", path := "/" }
  procedure := ""

/-- The body is described as it is validated exactly if a described body has a required field. -/
theorem describesBody_iff :
    DescribesBody route ↔ ∀ fields, route.schema.fields? .body = some fields →
      ∃ field ∈ fields, field.2.isRequired = true := by
  have refused_iff : (requiresBody (description route) = true ↔
      ¬∃ output, route.schema.validate .body (Service.bodyFor route.schema .null) =
        .ok output) ↔
      ∀ fields, route.schema.fields? .body = some fields →
        ∃ field ∈ fields, field.2.isRequired = true := by
    rw [requiresBody_description, exists_validate_empty_iff]
    cases route.schema.fields? .body <;> simp
  constructor
  · intro describes
    obtain ⟨sections, read, agrees⟩ := describes emptyExchange rfl
    rw [readSections_of_empty route.schema rfl] at read
    obtain rfl := Except.ok.inj read
    exact refused_iff.mp agrees
  · intro each exchange empty
    exact ⟨_, readSections_of_empty route.schema empty, refused_iff.mpr each⟩

/--
The parameters of the query and of the headers are described as they are validated.  Those of
the path are described as they are routed exactly if the schema of the path declares no others
and none that it leaves out is repeated, and the body as it is validated exactly if there is
none or one of its fields is required.
-/
theorem describes_of_compile
    {context : CompileContext Hook}
    {procedure : Procedure}
    (compiled : compile context procedure = .ok route) :
    DescribesSection route .querystring "query" ∧
    DescribesSection route .headers "header" ∧
    (DescribesPath route ↔
      (∀ key ∈ (route.fieldsOf .params).map Prod.fst, key ∈ route.pathParameters) ∧
      (undescribed route).Nodup) ∧
    (DescribesBody route ↔ ∀ fields, route.schema.fields? .body = some fields →
      ∃ field ∈ fields, field.2.isRequired = true) := by
  obtain ⟨directives, compilesTo⟩ := exists_compilesTo compiled
  have distinct : ∀ place, ((route.fieldsOf place).map Prod.fst).Nodup := fun place =>
    Request.nodup_keys_of_compileSchema compilesTo.schema_eq place
  exact ⟨describesSection (by decide) (by decide) (distinct .querystring),
    describesSection (by decide) (by decide) (distinct .headers),
    describesPath_iff (distinct .params), describesBody_iff⟩

/-- A procedure with a parameter of the path and one of the body. -/
def renamingProcedure : Procedure where
  name := "api_post_items__.id."
  definition := some "/**\n * @param {params} id z.string()\n * @param {body} name z.string()\n */"
  parameters := ["id", "name"]

/-- The description of the procedure agrees with its route. -/
theorem describes_renamingProcedure :
    ∃ route : Route Unit, compile {} renamingProcedure = .ok route ∧
      route.pathParameters = ["id"] ∧ DescribesPath route ∧ DescribesBody route := by
  have observed : (compile ({} : CompileContext Unit) renamingProcedure).toOption.map
      (fun route => (route.pathParameters, (route.fieldsOf .params).map Prod.fst,
        undescribed route, (route.schema.fields? .body).map fun fields =>
          fields.map fun field => field.2.isRequired)) =
      some (["id"], ["id"], [], some [true]) := by
    decide +kernel
  obtain ⟨route, compiled, same⟩ := exists_ok_of_toOption_map observed
  obtain ⟨path, declared, rest, body⟩ := by simpa only [Prod.mk.injEq] using same
  obtain ⟨-, -, pathAgrees, bodyAgrees⟩ := describes_of_compile compiled
  refine ⟨route, compiled, path, pathAgrees.mpr ?_, bodyAgrees.mpr fun fields carried => ?_⟩
  · rw [declared, path, rest]
    decide
  · rw [carried, Option.map_some, Option.some.injEq] at body
    have required : true ∈ fields.map fun field => field.2.isRequired := by simp [body]
    obtain ⟨field, declared, required⟩ := List.mem_map.mp required
    exact ⟨field, declared, required⟩

/-- A procedure with a parameter that its path lacks, and one of the body that may be left out. -/
def notingProcedure : Procedure where
  name := "api_post_notes"
  definition := some
    "/**\n * @param {params} code z.string()\n * @param {body} note z.string().optional()\n */"
  parameters := ["code", "note"]

/-- Neither the path nor the body of the procedure is described as it is routed and validated. -/
theorem not_describes_notingProcedure :
    ∃ route : Route Unit, compile {} notingProcedure = .ok route ∧
      ¬DescribesPath route ∧ ¬DescribesBody route := by
  have observed : (compile ({} : CompileContext Unit) notingProcedure).toOption.map
      (fun route => (route.pathParameters, (route.fieldsOf .params).map Prod.fst,
        (route.schema.fields? .body).map fun fields =>
          fields.map fun field => field.2.isRequired)) =
      some ([], ["code"], some [false]) := by
    decide +kernel
  obtain ⟨route, compiled, same⟩ := exists_ok_of_toOption_map observed
  obtain ⟨path, declared, body⟩ := by simpa only [Prod.mk.injEq] using same
  obtain ⟨directives, compilesTo⟩ := exists_compilesTo compiled
  refine ⟨route, compiled, fun describes => ?_, fun describes => ?_⟩
  · have within := ((describesPath_iff (Request.nodup_keys_of_compileSchema
      compilesTo.schema_eq .params)).mp describes).1 "code" (by simp [declared])
    rw [path] at within
    exact absurd within List.not_mem_nil
  · obtain ⟨fields, carried, optional⟩ := Option.map_eq_some_iff.mp body
    obtain ⟨field, listed, required⟩ := describesBody_iff.mp describes fields carried
    have among : true ∈ fields.map fun field => field.2.isRequired :=
      List.mem_map.mpr ⟨field, listed, required⟩
    rw [optional] at among
    exact absurd among (by simp)

end Sections

end Route
end RoutineGate
