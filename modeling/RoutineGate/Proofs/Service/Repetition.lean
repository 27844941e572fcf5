import RoutineGate.Proofs.Call.Encoding
import RoutineGate.Proofs.Schema.Required
import RoutineGate.Proofs.Schema.Texts
import RoutineGate.Proofs.Service.Binding

/-!
# Keys that a query repeats

A key that a query repeats carries the list of its values, and a parameter for a list of texts is
bound to them.  A key that occurs once carries its value itself, which is no list: there is no
query for a list of one text.
-/

namespace RoutineGate

namespace Value

theorem isPlain_textList (values : List String) : (Schema.textList values).isPlain = true := by
  rw [Schema.textList, isPlain]
  induction values with
  | nil => rfl
  | cons value values inductionHypothesis => exact inductionHypothesis

end Value

namespace Http

theorem lookup_map_keys
    {Datum : Type}
    (make : String → Datum)
    (key : String)
    (keys : List String) :
    (keys.map fun key => (key, make key)).lookup key =
      if key ∈ keys then some (make key) else none := by
  induction keys with
  | nil => rfl
  | cons first keys inductionHypothesis =>
      rw [List.map_cons, List.lookup_cons]
      by_cases same : key = first
      · simp [same]
      · have apart : (key == first) = false := by simpa using same
        simp [apart, same, inductionHypothesis]

/-- A key carries what its values are joined to. -/
theorem lookup_groupParameters
    {parameters : List (String × String)}
    {key : String}
    (some : valuesOf parameters key ≠ []) :
    (groupParameters parameters).lookup key =
      Option.some (joinValues (valuesOf parameters key)) := by
  have listed : key ∈ (parameters.map Prod.fst).eraseDups := by
    obtain ⟨value, sent⟩ := List.exists_mem_of_ne_nil _ some
    obtain ⟨parameter, found, -⟩ := List.mem_map.mp sent
    obtain ⟨member, same⟩ := List.mem_filter.mp found
    obtain rfl := of_decide_eq_true same
    exact List.mem_eraseDups.mpr (List.mem_map_of_mem member)
  rw [groupParameters, lookup_map_keys, if_pos listed]

end Http

namespace Schema

variable {fields : List (String × Schema Value)} {entries : List (String × Value)}

/--
The issues that a model reports under the key of a field that is sent are those of the field,
unless validation ends with a fault.
-/
theorem issuesAt_validateModel
    {model : String}
    (distinct : (fields.map Prod.fst).Nodup)
    {key : String}
    {field : Schema Value}
    {value : Value}
    (declared : (key, field) ∈ fields)
    (sent : entries.lookup key = some value) :
    (∃ fault, validateModel model fields (.record entries) = .error (.fault fault)) ∨
      issuesAt [.key key] (issuesOf (validateModel model fields (.record entries))) =
        (issuesOf (validate [] field {} value)).map (Issue.under (.key key)) := by
  rw [issuesOf_validateModel model {}, validateModel_record, validate_record]
  cases collected : validateFields [] 0 fields entries (Fit.lower {} .lax) with
  | error fault => exact .inl ⟨fault, rfl⟩
  | ok parts =>
      right
      rw [issuesAt_assemble (by simp [buildRecord, issuesOf]), issuesAt_key collected distinct
        declared sent, issuesAt_nil]

end Schema

namespace Service

open Schema (texts textList issuesAt issuesOf AcceptsEntry)

variable {World : Type}

/-- A route has a parameter for the list of the texts that a query has for a key. -/
structure TakesTexts (route : Route (Hook World)) (parameter key : String) : Prop where
  /-- The parameter is bound to the key of the query. -/
  bound : ∃ binding, (bindingsByName route).lookup parameter = some binding ∧
    binding.source = some (.within .querystring) ∧ binding.key = key
  /-- A list of texts is declared under the key. -/
  described : route.schema.field? .querystring key = some texts

/--
The texts that a request has for a key of its query are taken as a list: validation accepts what
the query carries under the key and reports nothing there, and once the sections are validated
the parameter is bound to the written form of the list.
-/
structure BindsTexts (route : Route (Hook World)) (exchange : Exchange)
    (parameter key : String) (values : List String) : Prop where
  accepted : ∀ field, route.schema.field? .querystring key = some field →
    AcceptsEntry (Http.groupParameters (Http.queryParameters exchange.request.query)) (key, field)
  unreported : issuesAt [.key key] (issuesOf
    (route.schema.validate .querystring (Http.queryRecord exchange.request.query))) = []
  bound : ∀ raw sections, readSections route.schema exchange = .ok raw →
    validateSections route.schema raw = .ok sections →
      ∃ text, Json.print true (textList values) = .ok text ∧
        Json.parse text.toList = .ok (textList values) ∧
        Call.bindArgument route.procedure.name (bindingsByName route) (fieldsOf exchange sections)
          parameter = .ok (.text text)

/-! ## What a query carries -/

/-- The query section is read as what the keys of the query carry. -/
theorem raw_querystring_of_readSections
    {schema : Request.RequestSchema}
    {exchange : Exchange}
    {raw : SectionValues}
    (read : readSections schema exchange = .ok raw) :
    raw .querystring = Http.queryRecord exchange.request.query := by
  obtain ⟨body, -, rfl⟩ := map_eq_ok_iff.mp read
  rfl

/-- A list of texts is written, and read back from what is written. -/
theorem exists_print_textList (values : List String) :
    ∃ text, Json.print true (textList values) = .ok text ∧
      Json.parse text.toList = .ok (textList values) ∧
      Call.encodeArgument (textList values) = .ok (.text text) := by
  have encoded : Call.IsEncoded (textList values) := trivial
  obtain ⟨text, passed, represents⟩ :=
    Call.exists_encodeArgument_eq encoded (Value.isPlain_textList values)
  refine ⟨text, ?_, Json.parse_of_represents represents, passed⟩
  rw [Call.encodeArgument_of_isEncoded encoded] at passed
  obtain ⟨written, printed, same⟩ := map_eq_ok_iff.mp passed
  rw [printed, Value.text.inj same]

/-! ## What a route makes of it -/

section Binding

variable {context : CompileContext (Hook World)} {procedure : Procedure}
variable {route : Route (Hook World)} {exchange : Exchange} {parameter key : String}
variable {values : List String}

/-- Texts in a list are accepted as a list of texts. -/
theorem accepts_textList (values : List String) : texts.Accepts (textList values) := by
  obtain ⟨after, validated⟩ := Schema.exists_validate_texts [] {} values
  exact ⟨_, after, validated⟩

/-- The expression that denotes a list of texts, whatever validators are registered. -/
theorem compile_texts (scope : Expression.Scope) :
    Expression.compile scope "z.array(z.string())" = .ok texts := by
  rfl

/-- The only directive that claims a key of the query for a list of texts is compiled to it. -/
theorem takesTexts_of_compilesTo
    {directives : List Documentation.Directive}
    (compiled : Route.CompilesTo context procedure directives route)
    {directive : Documentation.ParamDirective}
    (only : Route.IsOnlyFor (directives.filterMap Documentation.Directive.param?)
      directive.name directive)
    (declared : directive.name ∈ procedure.parameters)
    (source : Request.Source.ofName? directive.source = some (.within .querystring))
    (denotes : Expression.compile context.toScope directive.expression = .ok texts)
    (unshared : ∀ other ∈ directives.filterMap Documentation.Directive.param?,
      Request.slot? other = Request.slot? directive → other = directive) :
    TakesTexts route directive.name directive.key := by
  have claimed : Request.slot? directive = some (.querystring, directive.key) := by
    simp only [Request.slot?, source, Request.sourceKey]
  constructor
  · have bound := Route.forall₂_compileBindings compiled.bindings_eq
    exact ⟨Route.bindingOf directive, lookup_bindings bound declared only, source, rfl⟩
  · obtain ⟨last, listed, lastClaimed, found⟩ := Request.exists_lastClaim? only.1 claimed
    obtain rfl := unshared last listed (lastClaimed.trans claimed.symm)
    rw [Request.field?_eq compiled.schema_eq, found, Option.bind_some, Request.nodeOf?,
      Request.compileExpression, denotes]
    rfl

/-- The query section has a list of texts under the key, and no other field there. -/
theorem TakesTexts.exists_fields
    (takes : TakesTexts route parameter key)
    (compiled : Route.compile context procedure = .ok route) :
    ∃ fields, route.schema.fields? .querystring = some fields ∧ (key, texts) ∈ fields ∧
      (fields.map Prod.fst).Nodup := by
  obtain ⟨directives, parts⟩ := Route.exists_compilesTo compiled
  have distinct := Request.nodup_keys_of_compileSchema parts.schema_eq .querystring
  obtain ⟨fields, carried, found⟩ := Option.bind_eq_some_iff.mp takes.described
  rw [carried, Option.getD_some] at distinct
  obtain ⟨before, after, rfl, -⟩ := List.lookup_eq_some_iff.mp found
  exact ⟨_, carried, List.mem_append_cons_self, distinct⟩

/-- What the query carries under the key decides the issues there. -/
theorem issuesAt_querystring
    (compiled : Route.compile context procedure = .ok route)
    (takes : TakesTexts route parameter key)
    {value : Value}
    (sent : (Http.groupParameters (Http.queryParameters exchange.request.query)).lookup key =
      some value) :
    (∃ fault, route.schema.validate .querystring
        (Http.queryRecord exchange.request.query) = .error (.fault fault)) ∨
      issuesAt [.key key] (issuesOf
          (route.schema.validate .querystring (Http.queryRecord exchange.request.query))) =
        (issuesOf (Schema.validate [] texts {} value)).map (Schema.Issue.under (.key key)) := by
  obtain ⟨fields, carried, declared, distinct⟩ := takes.exists_fields compiled
  rw [Request.validate_of_fields? carried]
  exact Schema.issuesAt_validateModel distinct declared sent

/-- Once the sections are validated, a list of texts is bound in its written form. -/
theorem bindArgument_of_textList
    (compiled : Route.compile context procedure = .ok route)
    (takes : TakesTexts route parameter key)
    (sent : (Http.groupParameters (Http.queryParameters exchange.request.query)).lookup key =
      some (textList values))
    {raw sections : SectionValues}
    (read : readSections route.schema exchange = .ok raw)
    (valid : validateSections route.schema raw = .ok sections) :
    Call.bindArgument route.procedure.name (bindingsByName route) (fieldsOf exchange sections)
      parameter = (Call.encodeArgument (textList values)).mapError .fault := by
  obtain ⟨fields, carried, declared, distinct⟩ := takes.exists_fields compiled
  obtain ⟨binding, bound, source, rfl⟩ := takes.bound
  have accepted := validateSections_eq_ok_iff.mp valid .querystring
  rw [raw_querystring_of_readSections read, Request.validate_of_fields? carried] at accepted
  obtain ⟨entries, isRecord⟩ := Schema.exists_entries_of_validateModel accepted
  rw [isRecord] at accepted
  have passed := Schema.lookup_of_validateModel_texts accepted distinct declared sent
  have found : (fieldsOf exchange sections).find binding = .ok (textList values) := by
    simp only [Call.Fields.find, source, Call.Fields.lookup, fieldsOf, isRecord, Call.entry,
      passed, Option.getD_some]
  rw [Call.bindArgument, bound]
  simp only [found, Except.bind]

/-- A key that carries a single text is not taken for a list of texts. -/
theorem not_acceptsEntry_of_text
    {entries : List (String × Value)}
    {value : String}
    (sent : entries.lookup key = some (.text value)) :
    ¬AcceptsEntry entries (key, texts) := by
  intro own
  rw [AcceptsEntry, sent] at own
  obtain ⟨accepted, after, validated⟩ := own
  rw [Schema.validate_texts_text] at validated
  contradiction

/-- A single text keeps the sections of a request from being valid. -/
theorem validateSections_ne_ok_of_text
    (compiled : Route.compile context procedure = .ok route)
    (takes : TakesTexts route parameter key)
    {value : String}
    (sent : (Http.groupParameters (Http.queryParameters exchange.request.query)).lookup key =
      some (.text value))
    {raw : SectionValues}
    (read : readSections route.schema exchange = .ok raw)
    (sections : SectionValues) :
    validateSections route.schema raw ≠ .ok sections := by
  intro valid
  obtain ⟨fields, carried, declared, -⟩ := takes.exists_fields compiled
  have accepted := validateSections_eq_ok_iff.mp valid .querystring
  rw [raw_querystring_of_readSections read, Request.validate_of_fields? carried] at accepted
  exact not_acceptsEntry_of_text sent
    (Schema.exists_validateModel_iff.mp ⟨_, accepted⟩ (key, texts) declared)

/-- A key that carries a list of texts is taken for it. -/
theorem bindsTexts_of_textList
    (compiled : Route.compile context procedure = .ok route)
    (takes : TakesTexts route parameter key)
    (sent : (Http.groupParameters (Http.queryParameters exchange.request.query)).lookup key =
      some (textList values)) :
    BindsTexts route exchange parameter key values := by
  have accepted := accepts_textList values
  constructor
  case accepted =>
    intro field described
    obtain rfl := Option.some.inj (described.symm.trans takes.described)
    rwa [AcceptsEntry, sent]
  case unreported =>
    obtain ⟨fault, failed⟩ | own := issuesAt_querystring compiled takes sent
    · rw [failed]
      rfl
    · obtain ⟨part, after, validated⟩ := accepted
      rw [own, validated]
      rfl
  case bound =>
    intro raw sections read valid
    obtain ⟨text, printed, parsed, encoded⟩ := exists_print_textList values
    refine ⟨text, printed, parsed, ?_⟩
    rw [bindArgument_of_textList compiled takes sent read valid, encoded]
    rfl

/--
A parameter for a list of texts is bound to the texts that a query has for its key exactly if
there are at least two of them.  A single text is reported to be no list, and the procedure is
never called with it.
-/
theorem bindsTexts_iff
    (compiled : Route.compile context procedure = .ok route)
    (takes : TakesTexts route parameter key)
    (sent : Http.valuesOf (Http.queryParameters exchange.request.query) key = values)
    (some : values ≠ []) :
    (BindsTexts route exchange parameter key values ↔ 2 ≤ values.length) ∧
    (values.length = 1 →
      (∀ raw sections, readSections route.schema exchange = .ok raw →
        validateSections route.schema raw ≠ .ok sections) ∧
      ∀ issues, route.schema.validate .querystring
          (Http.queryRecord exchange.request.query) = .error (.issues issues) →
        issuesAt [.key key] issues = [{ location := [.key key], violation := .notList }]) := by
  have carried := Http.lookup_groupParameters (sent ▸ some)
  rw [sent] at carried
  refine ⟨⟨fun binds => ?_, fun several => ?_⟩, fun single => ?_⟩
  · by_contra few
    have positive := List.length_pos_iff.mpr some
    obtain ⟨value, rfl⟩ := List.length_eq_one_iff.mp (by omega : values.length = 1)
    exact not_acceptsEntry_of_text carried (binds.accepted texts takes.described)
  · rw [Http.joinValues_of_length_ne_one (by omega)] at carried
    exact bindsTexts_of_textList compiled takes carried
  · obtain ⟨value, rfl⟩ := List.length_eq_one_iff.mp single
    rw [Http.joinValues_singleton] at carried
    refine ⟨fun raw sections read =>
      validateSections_ne_ok_of_text compiled takes carried read sections, fun issues refused => ?_⟩
    obtain ⟨fault, failed⟩ | own := issuesAt_querystring compiled takes carried
    · exact absurd (refused.symm.trans failed) (by simp)
    · rw [refused, Schema.validate_texts_text] at own
      exact own

end Binding

/-! ## Two queries -/

/-- A procedure with a parameter for a list of texts. -/
def tagsProcedure : Procedure where
  name := "api_get_tags"
  definition := some "/** @param {querystring} p_tags<tags> z.array(z.string()) */"
  parameters := ["p_tags"]

/-- An exchange that starts with a query. -/
def tagsExchange (query : String) : Exchange where
  request :=
    { method := "GET", path := "/tags", query := query.toList.map fun char => char.toNat.toUInt8 }
  procedure := "api_get_tags"

/-- The procedure is compiled, and its parameter takes texts. -/
theorem exists_tagsRoute :
    ∃ route, Route.compile bareContext tagsProcedure = .ok route ∧
      TakesTexts route "p_tags" "tags" := by
  have compiles : (Route.compile bareContext tagsProcedure).toOption.map (fun _ => ()) =
      some () := by
    decide +kernel
  obtain ⟨route, compiled, -⟩ := exists_ok_of_toOption_map compiles
  obtain ⟨directives, parts⟩ := Route.exists_compilesTo compiled
  let directive : Documentation.ParamDirective :=
    { name := "p_tags", key := "tags", source := "querystring"
      expression := "z.array(z.string())" }
  have documented : Route.directivesOf tagsProcedure true = .ok [.param directive] := by
    rfl
  obtain rfl := Except.ok.inj (documented.symm.trans parts.directives_eq)
  have only : Route.IsOnlyFor [directive] directive.name directive :=
    ⟨List.mem_singleton_self directive, rfl, fun other listed _ => List.mem_singleton.mp listed⟩
  have takes : TakesTexts route directive.name directive.key :=
    takesTexts_of_compilesTo parts only (List.mem_singleton_self _) rfl
      (compile_texts _) fun other listed _ => List.mem_singleton.mp listed
  exact ⟨route, compiled, takes⟩

/-- Two tags, with another key between them, are bound as a list. -/
theorem bindsTexts_twoTags :
    ∃ route, Route.compile bareContext tagsProcedure = .ok route ∧
      BindsTexts route (tagsExchange "tags=b&page=2&tags=a") "p_tags" "tags" ["b", "a"] := by
  obtain ⟨route, compiled, takes⟩ := exists_tagsRoute
  have sent : Http.valuesOf (Http.queryParameters
      (tagsExchange "tags=b&page=2&tags=a").request.query) "tags" = ["b", "a"] := by
    decide +kernel
  exact ⟨route, compiled, (bindsTexts_iff compiled takes sent (by simp)).1.mpr (by simp)⟩

/-- A single tag is no list. -/
theorem not_bindsTexts_singleTag :
    ∃ route, Route.compile bareContext tagsProcedure = .ok route ∧
      TakesTexts route "p_tags" "tags" ∧
      Http.valuesOf (Http.queryParameters (tagsExchange "tags=a").request.query) "tags" = ["a"] ∧
      ¬BindsTexts route (tagsExchange "tags=a") "p_tags" "tags" ["a"] := by
  obtain ⟨route, compiled, takes⟩ := exists_tagsRoute
  have sent : Http.valuesOf (Http.queryParameters (tagsExchange "tags=a").request.query) "tags" =
      ["a"] := by
    decide +kernel
  refine ⟨route, compiled, takes, sent, fun binds => ?_⟩
  have carried := Http.lookup_groupParameters (sent ▸ List.cons_ne_nil "a" [])
  rw [sent, Http.joinValues_singleton] at carried
  exact not_acceptsEntry_of_text carried (binds.accepted texts takes.described)

end Service
end RoutineGate
