import Mathlib
import RoutineGate.Proofs.Json.Writing
import RoutineGate.Proofs.Request.Merging
import RoutineGate.Proofs.Route.Compilation
import RoutineGate.Proofs.Service.Sections

/-!
# What a procedure is called with

When the sections of a request are valid, its procedure is called with one argument for
each declared parameter: what the directive of the parameter finds in a validated section,
in what the sender is known by, or in what hooks have put aside.  Only a list or a record
without a written form keeps it from being called.
-/

namespace RoutineGate

namespace Value

/-- Whether a value can be passed to a procedure: what a list or a record holds must be data. -/
def isPassable : Value → Bool
  | .list items => areData items
  | .record entries => holdData entries
  | _ => true

end Value

namespace Call

/-- Exactly a value that can be passed is encoded. -/
theorem isOk_encodeArgument
    (value : Value) :
    (encodeArgument value).isOk = value.isPassable := by
  cases value with
  | list items =>
      have written := Json.isOk_write (.list items)
      rw [Value.isData] at written
      rw [encodeArgument, Value.isPassable, ← written, Json.print]
      cases Json.write true (.list items) <;> rfl
  | record entries =>
      have written := Json.isOk_write (.record entries)
      rw [Value.isData] at written
      rw [encodeArgument, Value.isPassable, ← written, Json.print]
      cases Json.write true (.record entries) <;> rfl
  | _ => rfl

/-- Values are all encoded exactly if each of them can be passed. -/
theorem isOk_mapM_encodeArgument
    (values : List Value) :
    (values.mapM encodeArgument).isOk = values.all Value.isPassable := by
  induction values with
  | nil => rfl
  | cons value values inductionHypothesis =>
      rw [List.mapM_cons, List.all_cons, ← inductionHypothesis, ← isOk_encodeArgument]
      cases encodeArgument value with
      | error fault => rfl
      | ok argument => cases values.mapM encodeArgument <;> rfl

/-- Arguments are the encoded values that the bindings of the parameters find. -/
theorem bindArguments_eq
    {procedure : String}
    {bindings : List (String × Binding)}
    {fields : Fields}
    {parameters : List String}
    {values : List Value}
    (found : List.Forall₂ (fun parameter value => ∃ binding,
        bindings.lookup parameter = some binding ∧ fields.find binding = .ok value)
      parameters values) :
    bindArguments procedure parameters bindings fields =
      (values.mapM encodeArgument).mapError .fault := by
  unfold bindArguments
  induction found with
  | nil => rfl
  | @cons parameter value parameters values first rest inductionHypothesis =>
      obtain ⟨binding, bound, carried⟩ := first
      rw [List.mapM_cons, List.mapM_cons, inductionHypothesis, bindArgument, bound]
      simp only [carried, Except.bind]
      cases encodeArgument value with
      | error fault => rfl
      | ok argument => cases values.mapM encodeArgument <;> rfl

end Call

namespace Schema

/-- An accepted section is a record. -/
theorem exists_entries_of_validateModel
    {model : String}
    {fields : List (String × Schema Value)}
    {value result : Value}
    (accepted : validateModel model fields value = .ok result) :
    ∃ entries, result = .record entries := by
  unfold validateModel at accepted
  cases value with
  | record entries =>
      cases collected : validateFields [] 0 fields entries {} with
      | error fault => simp [collected, assemble] at accepted
      | ok found =>
          obtain ⟨issues, parts, fit⟩ := found
          cases issues with
          | cons issue issues => simp [collected, assemble] at accepted
          | nil =>
              simp only [collected, assemble, buildRecord, finish, Except.ok.injEq] at accepted
              exact ⟨_, accepted.symm⟩
  | _ => simp at accepted

end Schema

namespace Service

open Documentation (ParamDirective)

variable {World : Type}

/--
What a request carries for a source under a key.  A section counts only as it is validated,
and what is absent is null.
-/
inductive Carries (schema : Request.RequestSchema) (raw : SectionValues) (exchange : Exchange)
    (key : String) : Request.Source → Value → Prop
  /-- A validated section carries the entry under its key. -/
  | inSection {place : Request.Section} {fields : Request.Fields}
      {entries : List (String × Value)}
      (described : schema.fields? place = some fields)
      (validated : schema.validate place (raw place) = .ok (.record entries)) :
      Carries schema raw exchange key (.within place)
        ((entries.lookup (Request.sourceKey (.within place) key)).getD .null)
  /-- A known sender carries the entry under the key. -/
  | ofSender {entries : List (String × Value)}
      (known : exchange.sender.user = some (.record entries)) :
      Carries schema raw exchange key .user ((entries.lookup key).getD .null)
  /-- An unknown sender carries nothing. -/
  | anonymous (unknown : exchange.sender.user = none) :
      Carries schema raw exchange key .user .null
  /-- What hooks have put aside is carried under its key. -/
  | aside : Carries schema raw exchange key .request ((exchange.data.lookup key).getD .null)

section Carrying

variable {schema : Request.RequestSchema} {raw sections : SectionValues} {exchange : Exchange}

/-- The lookup for a source finds what the request carries for it. -/
theorem lookup_of_carries
    (valid : validateSections schema raw = .ok sections)
    {key : String}
    {source : Request.Source}
    {value : Value}
    (carried : Carries schema raw exchange key source value) :
    (fieldsOf exchange sections).lookup source key = .ok value := by
  cases carried with
  | @inSection place fields entries described validated =>
      have accepted := validateSections_eq_ok_iff.mp valid place
      rw [validated, Except.ok.injEq] at accepted
      cases place <;>
        simp only [Call.Fields.lookup, fieldsOf, ← accepted, Call.entry, Call.entryOrNull,
          Request.sourceKey]
  | @ofSender entries known =>
      simp only [Call.Fields.lookup, fieldsOf, known, Option.getD_some, Call.entry]
      cases entries with
      | nil => rfl
      | cons entry entries => rfl
  | anonymous unknown =>
      simp only [Call.Fields.lookup, fieldsOf, unknown, Option.getD_none]
      rfl
  | aside => rfl

/-- Every directive of a request schema names a source for which the request carries a value. -/
theorem exists_carries
    {procedure : String}
    {scope : Expression.Scope}
    {directives : List ParamDirective}
    (compiled : Request.compileSchema procedure scope directives = .ok schema)
    (valid : validateSections schema raw = .ok sections)
    (identified : ∀ user, exchange.sender.user = some user → ∃ entries, user = .record entries)
    {directive : ParamDirective}
    (member : directive ∈ directives) :
    ∃ source value, Request.Source.ofName? directive.source = some source ∧
      Carries schema raw exchange directive.key source value := by
  obtain ⟨source, node, named, -⟩ := Request.exists_node compiled member
  cases source with
  | within place =>
      have claimed : Request.slot? directive =
          some (place, Request.sourceKey (.within place) directive.key) := by
        simp only [Request.slot?, named]
      obtain ⟨found, there⟩ := Request.exists_field? compiled member claimed
      obtain ⟨fields, described, -⟩ := Option.bind_eq_some_iff.mp there
      have accepted := validateSections_eq_ok_iff.mp valid place
      have model := accepted
      simp only [Request.RequestSchema.validate, described] at model
      obtain ⟨entries, isRecord⟩ := Schema.exists_entries_of_validateModel model
      rw [isRecord] at accepted
      exact ⟨_, _, named, .inSection described accepted⟩
  | user =>
      cases known : exchange.sender.user with
      | none => exact ⟨_, _, named, .anonymous known⟩
      | some user =>
          obtain ⟨entries, rfl⟩ := identified user known
          exact ⟨_, _, named, .ofSender known⟩
  | request => exact ⟨_, _, named, .aside⟩

end Carrying

/-! ## The arguments of a route -/

/-- What a request carries for a parameter by the only directive for it. -/
def CarriesFor (directives : List ParamDirective) (schema : Request.RequestSchema)
    (raw : SectionValues) (exchange : Exchange) (parameter : String) (value : Value) : Prop :=
  ∃ directive source, Route.IsOnlyFor directives parameter directive ∧
    Request.Source.ofName? directive.source = some source ∧
    Carries schema raw exchange directive.key source value

/-- Under the name of a parameter stands the binding of the only directive for it. -/
theorem lookup_bindings
    {directives : List ParamDirective}
    {parameters : List String}
    {bindings : List Call.Binding}
    (bound : List.Forall₂ (fun parameter binding => ∃ directive,
        Route.IsOnlyFor directives parameter directive ∧ binding = Route.bindingOf directive)
      parameters bindings)
    {parameter : String}
    (member : parameter ∈ parameters)
    {directive : ParamDirective}
    (only : Route.IsOnlyFor directives parameter directive) :
    (bindings.map fun binding => (binding.name, binding)).lookup parameter =
      some (Route.bindingOf directive) := by
  induction bound with
  | nil => exact absurd member List.not_mem_nil
  | @cons first binding parameters bindings made rest inductionHypothesis =>
      obtain ⟨found, ⟨listed, named, -⟩, rfl⟩ := made
      obtain ⟨-, -, unique⟩ := only
      have bindingName : (Route.bindingOf found).name = first := named
      rw [List.map_cons, bindingName]
      by_cases same : parameter = first
      · subst same
        rw [List.lookup_cons_self, unique found listed named]
      · have apart : (parameter == first) = false := by simpa using same
        rw [List.lookup_cons, apart]
        exact inductionHypothesis (List.mem_of_ne_of_mem same member)

section Invoking

variable {context : CompileContext (Hook World)} {procedure : Procedure}
variable {directives : List Documentation.Directive} {route : Route (Hook World)}
variable {raw sections : SectionValues} {exchange : Exchange}

/-- The arguments of a route are the encoded values that a valid request carries. -/
theorem exists_argumentsFor_eq
    (compiled : Route.CompilesTo context procedure directives route)
    (valid : validateSections route.schema raw = .ok sections)
    (identified : ∀ user, exchange.sender.user = some user → ∃ entries, user = .record entries) :
    ∃ values, List.Forall₂
        (CarriesFor (directives.filterMap Documentation.Directive.param?) route.schema raw exchange)
        procedure.parameters values ∧
      argumentsFor route (fieldsOf exchange sections) =
        (values.mapM Call.encodeArgument).mapError .fault := by
  have bound := Route.forall₂_compileBindings compiled.bindings_eq
  have each : ∀ parameter ∈ procedure.parameters, ∃ value,
      CarriesFor (directives.filterMap Documentation.Directive.param?) route.schema raw exchange
        parameter value := by
    intro parameter member
    obtain ⟨binding, -, directive, only, -⟩ := exists_of_forall₂ bound member
    obtain ⟨source, value, named, found⟩ :=
      exists_carries compiled.schema_eq valid identified only.1
    exact ⟨value, directive, source, only, named, found⟩
  obtain ⟨values, carried⟩ := exists_forall₂ each
  refine ⟨values, carried, ?_⟩
  rw [argumentsFor, compiled.procedure_eq]
  apply Call.bindArguments_eq
  rw [List.forall₂_iff_zip] at carried ⊢
  refine ⟨carried.1, fun {parameter value} paired => ?_⟩
  obtain ⟨member, -⟩ := List.of_mem_zip paired
  obtain ⟨directive, source, only, named, found⟩ := carried.2 paired
  refine ⟨Route.bindingOf directive, lookup_bindings bound member only, ?_⟩
  rw [Call.Fields.find, Route.bindingOf, named]
  exact lookup_of_carries valid found

/-- An answer is never that a parameter has no binding. -/
theorem answerOf_ne_unbound
    (result : Except Call.FailureCause (List Value))
    (caller called parameter : String) :
    answerOf caller result ≠ .error (.binding (.unbound called parameter)) := by
  cases result with
  | ok results =>
      rw [answerOf]
      cases Call.demultiplex results <;> simp [Except.mapError]
  | error cause =>
      rw [answerOf, InvocationError.ofCause]
      cases Call.Failure.of caller cause <;> simp

end Invoking

/-- Values are encoded to arguments, one by one. -/
def EncodeTo (values arguments : List Value) : Prop :=
  List.Forall₂ (fun value argument => Call.encodeArgument value = .ok argument) values arguments

/-- The procedure of a route is called with encoded values, unless one cannot be passed. -/
structure CallsWith (database : Database.ProcedureDatabase World) (route : Route (Hook World))
    (fields : Call.Fields) (values : List Value) : Prop where
  /-- The encoded values are the arguments of the call. -/
  called : ∀ arguments, EncodeTo values arguments → ∀ world,
    invokeRoute database route fields world =
      (answerOf route.procedure.name (database.call route.procedure.name arguments world).1,
        (database.call route.procedure.name arguments world).2)
  /-- Values are encoded exactly if all of them can be passed. -/
  encoded_iff : (∃ arguments, EncodeTo values arguments) ↔ ∀ value ∈ values, value.isPassable
  /-- Nothing is called, and the world is left alone, if some value cannot be passed. -/
  uncalled : (∃ value ∈ values, value.isPassable = false) → ∃ found, ∀ world,
    invokeRoute database route fields world = (.error (.binding (.fault found)), world)
  /-- No parameter is without a binding. -/
  bound : ∀ world called parameter,
    (invokeRoute database route fields world).1 ≠ .error (.binding (.unbound called parameter))

/-- Arguments that are encoded values are passed in a call. -/
theorem callsWith_of_argumentsFor
    {route : Route (Hook World)}
    {fields : Call.Fields}
    {values : List Value}
    (arguments : argumentsFor route fields = (values.mapM Call.encodeArgument).mapError .fault)
    (database : Database.ProcedureDatabase World) :
    CallsWith database route fields values := by
  have passed := Call.isOk_mapM_encodeArgument values
  constructor
  case called =>
    intro encoded encodes world
    rw [EncodeTo, ← mapM_eq_ok_iff] at encodes
    rw [invokeRoute, arguments, encodes]
    rfl
  case encoded_iff =>
    simp only [EncodeTo, ← mapM_eq_ok_iff]
    rw [← List.all_eq_true, ← passed]
    cases values.mapM Call.encodeArgument <;> simp [Except.isOk, Except.toBool]
  case uncalled =>
    rintro ⟨value, member, unpassable⟩
    have fails : (values.mapM Call.encodeArgument).isOk = false := by
      rw [passed, List.all_eq_false]
      exact ⟨value, member, by simp [unpassable]⟩
    cases encoded : values.mapM Call.encodeArgument with
    | ok encodedValues => simp [encoded, Except.isOk, Except.toBool] at fails
    | error found =>
        refine ⟨found, fun world => ?_⟩
        rw [invokeRoute, arguments, encoded]
        rfl
  case bound =>
    intro world called parameter
    rw [invokeRoute, arguments]
    cases values.mapM Call.encodeArgument with
    | error found => simp [Except.mapError, pure, StateT.pure]
    | ok encoded =>
        exact answerOf_ne_unbound (database.call route.procedure.name encoded world).1 _ _ _

/--
If the sections of a request are valid, the procedure of a compiled route is called with the
encoded values that the request carries for its parameters, one for each in order.
-/
theorem callsWith_of_valid
    {context : CompileContext (Hook World)}
    {procedure : Procedure}
    {route : Route (Hook World)}
    (compiled : Route.compile context procedure = .ok route)
    {raw sections : SectionValues}
    (valid : validateSections route.schema raw = .ok sections)
    {exchange : Exchange}
    (identified : ∀ user, exchange.sender.user = some user → ∃ entries, user = .record entries)
    (database : Database.ProcedureDatabase World) :
    route.procedure = procedure ∧
    ∃ directives values,
      Route.directivesOf procedure context.isStrict = .ok directives ∧
      List.Forall₂
        (CarriesFor (directives.filterMap Documentation.Directive.param?) route.schema raw exchange)
        procedure.parameters values ∧
      CallsWith database route (fieldsOf exchange sections) values := by
  obtain ⟨directives, parts⟩ := Route.exists_compilesTo compiled
  obtain ⟨values, carried, bound⟩ := exists_argumentsFor_eq parts valid identified
  refine ⟨parts.procedure_eq, directives, values, parts.directives_eq, carried, ?_⟩
  exact callsWith_of_argumentsFor bound database

/-! ## A procedure that takes what hooks have put aside -/

/-- A procedure with a parameter for what hooks have put aside. -/
def takingProcedure : Procedure where
  name := "api_get_x"
  definition := some "/** @param {request} p */"
  parameters := ["p"]

/-- An exchange in which a value is put aside. -/
def exchangeWith (value : Value) : Exchange where
  request := { method := "GET", path := "/x" }
  procedure := "api_get_x"
  data := [("p", value)]

/-- A context in which nothing is registered. -/
def bareContext : CompileContext (Hook Unit) := {}

/-- The procedure is called with a number that is put aside. -/
theorem callsWith_takingProcedure :
    ∃ route, Route.compile bareContext takingProcedure = .ok route ∧
      ∀ database, ∃ directives values,
        List.Forall₂ (CarriesFor directives route.schema (fun _ => .null)
          (exchangeWith (.int 1))) ["p"] values ∧
        CallsWith database route (fieldsOf (exchangeWith (.int 1)) fun _ => .null) values := by
  have sections : (Route.compile bareContext takingProcedure).toOption.map (fun route =>
      route.schema.sections.length) = some 0 := by
    decide +kernel
  obtain ⟨route, compiled, unchecked⟩ := exists_ok_of_toOption_map sections
  have valid : validateSections route.schema (fun _ => .null) = .ok fun _ => .null :=
    validateSections_of_sections_eq_nil (List.length_eq_zero_iff.mp unchecked)
  have unknown : ∀ user, (exchangeWith (.int 1)).sender.user = some user →
      ∃ entries, user = .record entries := by
    intro user known
    exact absurd known (by simp [exchangeWith, Exchange.sender, Auth.Context.anonymous])
  refine ⟨route, compiled, fun database => ?_⟩
  obtain ⟨-, directives, values, -, carried, calls⟩ :=
    callsWith_of_valid compiled valid unknown database
  exact ⟨_, values, carried, calls⟩

/-- The procedure is not called with a list that has no written form, though all is valid. -/
theorem uncalled_of_unwritable :
    ∃ route, Route.compile bareContext takingProcedure = .ok route ∧
      validateSections route.schema (fun _ => .null) = .ok (fun _ => .null) ∧
      (exchangeWith (.list [.status 0 none])).sender.user = none ∧
      ∀ (database : Database.ProcedureDatabase Unit) (world : Unit),
        invokeRoute database route
            (fieldsOf (exchangeWith (.list [.status 0 none])) fun _ => .null) world =
          (.error (.binding (.fault (.notWritable "CallStatus"))), world) := by
  have evaluated : (Route.compile bareContext takingProcedure).toOption.map (fun route =>
      (route.schema.sections.length,
        match argumentsFor route
          (fieldsOf (exchangeWith (.list [.status 0 none])) fun _ => .null) with
        | .ok _ => none
        | .error problem => some problem)) =
      some (0, some (.fault (.notWritable "CallStatus"))) := by
    decide +kernel
  obtain ⟨route, compiled, results⟩ := exists_ok_of_toOption_map evaluated
  obtain ⟨unchecked, failed⟩ := Prod.mk.inj results
  have valid : validateSections route.schema (fun _ => .null) = .ok fun _ => .null :=
    validateSections_of_sections_eq_nil (List.length_eq_zero_iff.mp unchecked)
  refine ⟨route, compiled, valid, rfl, fun database world => ?_⟩
  rw [invokeRoute]
  cases bound : argumentsFor route
      (fieldsOf (exchangeWith (.list [.status 0 none])) fun _ => .null) with
  | ok arguments => simp [bound] at failed
  | error problem =>
      obtain rfl : problem = .fault (.notWritable "CallStatus") := by
        simpa [bound] using failed
      rfl

end Service
end RoutineGate
