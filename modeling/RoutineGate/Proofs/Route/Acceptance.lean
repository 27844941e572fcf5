import RoutineGate.Proofs.Auth.Guards
import RoutineGate.Proofs.Request.Merging
import RoutineGate.Proofs.Route.Compilation

/-!
# What is served

A procedure is served exactly if its name says a method, its documentation can be read, and what
its directives ask for is there.  Anything else is rejected with an error that names the
procedure.
-/

namespace RoutineGate

open Documentation (Directive GuardDirective HooksDirective ParamDirective)

/-! ## What a procedure asks for -/

/-- A name goes on after its start with a method, up to the first low line. -/
def NamesMethod (start name : String) : Prop :=
  ∃ (rest : List Char) (method : Method), name.toList = start.toList ++ rest ∧
    Text.upper (String.ofList (rest.takeWhile (· != '_'))) = method.name

/-- The documentation of a procedure can be read, and has some directives. -/
def Documents (procedure : Procedure) (directives : List Directive) : Prop :=
  ∃ tags, Documentation.readTags (procedure.definition.getD "") = .ok tags ∧
    directives = Documentation.interpret tags

/-- A standard guard that a directive asks for. -/
inductive AsksFor (directive : GuardDirective) : Auth.Guard → Prop where
  /-- A guard for authorised senders takes any arguments. -/
  | auth (named : directive.name = "auth") : AsksFor directive .auth
  /-- A guard for a claim takes arguments with a name to ask for. -/
  | claim (asked : Auth.Claim) (named : directive.name = asked.word)
      (names : Auth.requiredNames directive.arguments ≠ []) :
      AsksFor directive (.claim asked (Auth.requiredNames directive.arguments))

/-- A directive names a phase, in one of two ways. -/
def IsFor (directive : HooksDirective) (phase : Phase) : Prop :=
  directive.phase = phase.name ∨ directive.phase = phase.otherName

section Asking

variable {Hook : Type}

/-- Hook directives name phases, each of them once, and some registered hooks for each. -/
structure AreHooked (registry : Registry Hook) (directives : List HooksDirective) : Prop where
  known : ∀ directive ∈ directives, ∃ phase, IsFor directive phase
  distinct : directives.Pairwise fun first second =>
    ∀ phase, IsFor first phase → ¬IsFor second phase
  nonempty : ∀ directive ∈ directives, directive.functions ≠ []
  registered : ∀ directive ∈ directives, ∀ name ∈ directive.functions,
    ∃ hook, registry.get? name = some hook

/-- A procedure with some directives can be served. -/
structure IsServable (context : CompileContext Hook) (procedure : Procedure)
    (directives : List Directive) : Prop where
  named : NamesMethod context.start procedure.name
  documented : Documents procedure directives
  distinct : ((directives.filterMap Directive.param?).map ParamDirective.name).Nodup
  covered : ∀ parameter ∈ procedure.parameters,
    ∃ directive ∈ directives.filterMap Directive.param?, directive.name = parameter
  sourced : ∀ directive ∈ directives.filterMap Directive.param?,
    ∃ source : Request.Source, directive.source = source.name
  expressed : ∀ directive ∈ directives.filterMap Directive.param?,
    ∃ node, Expression.compile context.toScope directive.expression = .ok node
  guarded : ∀ directive ∈ directives.filterMap Directive.guard?, ∃ guard, AsksFor directive guard
  hooked : AreHooked context.hooks (directives.filterMap Directive.hooks?)

/-- A context in which documentation has to be readable and only the standard guards are known. -/
structure IsStandard (context : CompileContext Hook) : Prop where
  isStrict : context.isStrict = true
  guards : context.guards = Auth.GuardKind.all
  customGuards : context.customGuards = .empty

/-- The parameters of a procedure compile to schemas without an unexpected fault. -/
structure IsFaultless (context : CompileContext Hook) (procedure : Procedure) : Prop where
  expressions : ∀ directives, Documents procedure directives →
    ∀ directive ∈ directives.filterMap Directive.param?, ∀ fault,
      Expression.compile context.toScope directive.expression ≠ .error (.fault fault)
  sections : ∀ directives, Documents procedure directives → ∀ parameters,
    (directives.filterMap Directive.param?).mapM
        (Request.compileParameter procedure.name context.toScope) = .ok parameters →
      Request.sectionsFault? (Request.groupSections parameters) = none

end Asking

/-! ## Errors that name the procedure -/

/-- A part of compiling fails only with errors that name a procedure. -/
def Blames {Part : Type} (procedure : String) (part : Except CompileFailure Part) : Prop :=
  ∀ failure, part = .error failure →
    ∃ error, failure = .error error ∧ error.procedure = procedure

namespace Blames

variable {Part Next Entry : Type} {procedure : String}

theorem ok (part : Part) : Blames procedure (.ok part) :=
  fun _ failed => nomatch failed

theorem of (cause : CompileCause) (subject : Subject) :
    Blames procedure (.error (.of procedure cause subject) : Except CompileFailure Part) := by
  rintro failure failed
  obtain rfl := Except.error.inj failed
  exact ⟨_, rfl, rfl⟩

theorem bind
    {part : Except CompileFailure Part}
    {next : Part → Except CompileFailure Next}
    (first : Blames procedure part)
    (second : ∀ result, part = .ok result → Blames procedure (next result)) :
    Blames procedure (part >>= next) := by
  intro failure failed
  obtain failed | ⟨result, made, failed⟩ := bind_eq_error_iff.mp failed
  · exact first failure failed
  · exact second result made failure failed

theorem mapM
    {make : Entry → Except CompileFailure Part}
    {entries : List Entry}
    (each : ∀ entry ∈ entries, Blames procedure (make entry)) :
    Blames procedure (entries.mapM make) := by
  intro failure failed
  obtain ⟨before, entry, after, results, rfl, -, failed⟩ := mapM_eq_error_iff.mp failed
  exact each entry (by simp) failure failed

end Blames

/-! ## Names -/

theorem Method.ofName?_eq_some_iff
    {content : String}
    {method : Method} :
    Method.ofName? content = some method ↔ content = method.name :=
  find?_named_eq_some_iff Method.ofName?_name

theorem Phase.ofName?_eq_some_iff
    {content : String}
    {phase : Phase} :
    Phase.ofName? content = some phase ↔ content = phase.name ∨ content = phase.otherName := by
  constructor
  · intro found
    have named : phase.name = content ∨ phase.otherName = content := by
      simpa using List.find?_some found
    exact named.imp Eq.symm Eq.symm
  · rintro (rfl | rfl)
    · exact Phase.ofName?_name phase
    · exact Phase.ofName?_otherName phase

theorem exists_parseName_iff
    {start name : String} :
    (∃ parsed, parseName start name = .ok parsed) ↔ NamesMethod start name := by
  unfold parseName
  constructor
  · rintro ⟨parsed, found⟩
    split at found
    · next starts =>
        obtain ⟨rest, joined⟩ := List.isPrefixOf_iff_prefix.mp starts
        simp only [← joined, List.drop_left, Text.partitionAt] at found
        split at found
        · next method known =>
            exact ⟨rest, method, joined.symm, Method.ofName?_eq_some_iff.mp known⟩
        · contradiction
    · contradiction
  · rintro ⟨rest, method, joined, said⟩
    have starts : start.toList.isPrefixOf name.toList = true :=
      List.isPrefixOf_iff_prefix.mpr ⟨rest, joined.symm⟩
    rw [if_pos starts]
    simp only [joined, List.drop_left, Text.partitionAt, said, Method.ofName?_name]
    exact ⟨_, rfl⟩

namespace Route

variable {Hook : Type}

/-! ## Documentation -/

theorem directivesOf_eq_ok_iff
    {procedure : Procedure}
    {directives : List Directive} :
    directivesOf procedure true = .ok directives ↔ Documents procedure directives := by
  unfold directivesOf Documentation.tagsOf Documents
  cases Documentation.readTags (procedure.definition.getD "") with
  | ok tags => simp [eq_comm]
  | error problem => simp

theorem blames_directivesOf (procedure : Procedure) (isStrict : Bool) :
    Blames procedure.name (directivesOf procedure isStrict) := by
  unfold directivesOf
  split
  · exact .ok _
  · exact .of _ _

/-! ## Parameters -/

theorem exists_compileBindings_iff
    {procedure : Procedure}
    {directives : List ParamDirective} :
    (∃ bindings, compileBindings procedure directives = .ok bindings) ↔
      (directives.map ParamDirective.name).Nodup ∧
        ∀ parameter ∈ procedure.parameters,
          ∃ directive ∈ directives, directive.name = parameter := by
  unfold compileBindings
  cases repeated : repeatedName? [] (directives.map fun directive => directive.name) with
  | some name =>
      refine iff_of_false (by simp) ?_
      rintro ⟨distinct, -⟩
      have unrepeated := repeatedName?_eq_none_iff.mpr ⟨distinct, fun _ _ => List.not_mem_nil⟩
      exact Option.some_ne_none name (repeated.symm.trans unrepeated)
  | none =>
      obtain ⟨distinct, -⟩ := repeatedName?_eq_none_iff.mp repeated
      refine Iff.trans ?_ (and_iff_right distinct).symm
      refine exists_mapM_eq_ok_iff.trans (forall₂_congr fun parameter _ => ?_)
      cases found : directives.find? fun directive => directive.name = parameter with
      | none => simpa using List.find?_eq_none.mp found
      | some directive =>
          refine iff_of_true ⟨_, rfl⟩ ⟨directive, List.mem_of_find?_eq_some found, ?_⟩
          simpa using List.find?_some found

theorem blames_compileBindings
    (procedure : Procedure)
    (directives : List ParamDirective) :
    Blames procedure.name (compileBindings procedure directives) := by
  unfold compileBindings
  split
  · exact .of _ _
  · refine .mapM fun parameter _ => ?_
    split
    · exact .ok _
    · exact .of _ _

section Schema

variable {procedure : String} {scope : Expression.Scope}

theorem exists_compileParameter_iff
    (procedure : String)
    {directive : ParamDirective} :
    (∃ parameter, Request.compileParameter procedure scope directive = .ok parameter) ↔
      (∃ source : Request.Source, directive.source = source.name) ∧
        ∃ node, Expression.compile scope directive.expression = .ok node := by
  have denoted : ∀ node, Request.compileExpression procedure scope directive = .ok node ↔
      Expression.compile scope directive.expression = .ok node := by
    intro node
    unfold Request.compileExpression
    cases Expression.compile scope directive.expression with
    | ok other => simp
    | error error => cases error <;> simp
  simp only [Request.compileParameter_eq_ok_iff, denoted, Request.Source.ofName?_eq_some_iff]
  constructor
  · rintro ⟨parameter, source, node, sourced, compiled, -⟩
    exact ⟨⟨source, sourced⟩, node, compiled⟩
  · rintro ⟨⟨source, sourced⟩, node, compiled⟩
    exact ⟨_, source, node, sourced, compiled, rfl⟩

theorem blames_compileParameter
    {directive : ParamDirective}
    (faultless : ∀ fault,
      Expression.compile scope directive.expression ≠ .error (.fault fault)) :
    Blames procedure (Request.compileParameter procedure scope directive) := by
  unfold Request.compileParameter
  split
  · exact .of _ _
  · unfold Request.compileExpression
    cases compiled : Expression.compile scope directive.expression with
    | ok node => exact .ok _
    | error error =>
        cases error with
        | problem problem => exact .of _ _
        | fault fault => exact absurd compiled (faultless fault)

variable {directives : List ParamDirective}
variable (sections : ∀ parameters,
  directives.mapM (Request.compileParameter procedure scope) = .ok parameters →
    Request.sectionsFault? (Request.groupSections parameters) = none)

include sections

theorem exists_compileSchema_iff :
    (∃ schema, Request.compileSchema procedure scope directives = .ok schema) ↔
      (∀ directive ∈ directives, ∃ source : Request.Source, directive.source = source.name) ∧
        ∀ directive ∈ directives,
          ∃ node, Expression.compile scope directive.expression = .ok node := by
  rw [← forall₂_and]
  simp only [← exists_compileParameter_iff procedure, ← exists_mapM_eq_ok_iff]
  cases traversed : directives.mapM (Request.compileParameter procedure scope) with
  | error failure => simp [Request.compileSchema_of_error traversed]
  | ok parameters =>
      simp only [Request.compileSchema_of_ok traversed, sections parameters traversed]
      exact iff_of_true ⟨_, rfl⟩ ⟨_, rfl⟩

theorem blames_compileSchema
    (faultless : ∀ directive ∈ directives, ∀ fault,
      Expression.compile scope directive.expression ≠ .error (.fault fault)) :
    Blames procedure (Request.compileSchema procedure scope directives) := by
  have traversal : Blames procedure
      (directives.mapM (Request.compileParameter procedure scope)) :=
    .mapM fun directive member => blames_compileParameter (faultless directive member)
  cases traversed : directives.mapM (Request.compileParameter procedure scope) with
  | error failure =>
      obtain ⟨error, rfl, blamed⟩ := traversal failure traversed
      rw [Request.compileSchema_of_error traversed]
      exact fun _ failed => ⟨error, (Except.error.inj failed).symm, blamed⟩
  | ok parameters =>
      simp only [Request.compileSchema_of_ok traversed, sections parameters traversed]
      exact .ok _

end Schema

/-! ## Guards -/

section Guards

theorem find?_guardKind_eq_some_iff
    {name : String}
    {kind : Auth.GuardKind} :
    (Auth.GuardKind.all.find? fun other => other.name = name) = some kind ↔ name = kind.name := by
  refine find?_named_eq_some_iff fun kind => ?_
  cases kind with
  | auth => decide
  | claim asked => cases asked <;> decide

/-- A directive asks for the guards that some kind of its name makes of its arguments. -/
theorem asksFor_iff
    {directive : GuardDirective}
    {guard : Auth.Guard} :
    AsksFor directive guard ↔
      ∃ kind : Auth.GuardKind, directive.name = kind.name ∧
        kind.make directive.arguments = .ok guard := by
  constructor
  · intro asks
    cases asks with
    | auth named => exact ⟨.auth, named, rfl⟩
    | claim asked named names =>
        exact ⟨.claim asked, named, Auth.make_claim_eq_ok_iff.mpr ⟨names, rfl⟩⟩
  · rintro ⟨kind, named, made⟩
    cases kind with
    | auth =>
        obtain rfl := Except.ok.inj made
        exact .auth named
    | claim asked =>
        obtain ⟨names, rfl⟩ := Auth.make_claim_eq_ok_iff.mp made
        exact .claim asked named names

variable {context : CompileContext Hook} (standard : IsStandard context)

include standard

/-- The guards of a directive are the standard ones that it asks for. -/
theorem compileGuard_eq_ok_iff
    {procedure : String}
    {directive : GuardDirective}
    {guard : RouteGuard Hook} :
    compileGuard procedure context directive = .ok guard ↔
      ∃ made, AsksFor directive made ∧ guard = .standard made := by
  simp only [compileGuard, guardFactory?, standard.guards, standard.customGuards, asksFor_iff]
  cases found : Auth.GuardKind.all.find? fun kind => kind.name = directive.name with
  | none =>
      refine iff_of_false (by simp) ?_
      rintro ⟨made, ⟨kind, named, -⟩, -⟩
      exact Option.some_ne_none kind ((find?_guardKind_eq_some_iff.mpr named).symm.trans found)
  | some kind =>
      have only : ∀ other : Auth.GuardKind, directive.name = other.name → other = kind :=
        fun other named =>
          Option.some.inj ((find?_guardKind_eq_some_iff.mpr named).symm.trans found)
      simp only [mapError_eq_ok_iff, makeStandard]
      constructor
      · intro compiled
        cases made : kind.make directive.arguments with
        | error problem => simp [made] at compiled
        | ok standard' =>
            rw [made] at compiled
            exact ⟨standard', ⟨kind, find?_guardKind_eq_some_iff.mp found, made⟩,
              (Except.ok.inj compiled).symm⟩
      · rintro ⟨made, ⟨other, named, makes⟩, rfl⟩
        obtain rfl := only other named
        rw [makes]

/-- Guard directives are compiled exactly if each of them asks for a standard guard. -/
theorem exists_compileGuards_iff
    {procedure : String}
    {directives : List GuardDirective} :
    (∃ guards, directives.mapM (compileGuard procedure context) = .ok guards) ↔
      ∀ directive ∈ directives, ∃ guard, AsksFor directive guard := by
  simp only [exists_mapM_eq_ok_iff, compileGuard_eq_ok_iff standard]
  refine forall₂_congr fun directive _ => ?_
  constructor
  · rintro ⟨_, guard, asks, -⟩
    exact ⟨guard, asks⟩
  · rintro ⟨guard, asks⟩
    exact ⟨_, guard, asks, rfl⟩

/-- The guards of directives are the standard ones that they ask for, in order. -/
theorem exists_guards_of_forall₂
    {procedure : String}
    {directives : List GuardDirective}
    {guards : List (RouteGuard Hook)}
    (compiled : List.Forall₂ (fun directive guard =>
      compileGuard procedure context directive = .ok guard) directives guards) :
    ∃ made, List.Forall₂ AsksFor directives made ∧ guards = made.map .standard := by
  induction compiled with
  | nil => exact ⟨[], .nil, rfl⟩
  | cons one _ inductionHypothesis =>
      obtain ⟨guard, asks, rfl⟩ := (compileGuard_eq_ok_iff standard).mp one
      obtain ⟨made, others, rfl⟩ := inductionHypothesis
      exact ⟨guard :: made, .cons asks others, rfl⟩

theorem blames_compileGuard
    (procedure : String)
    (directive : GuardDirective) :
    Blames procedure (compileGuard procedure context directive) := by
  simp only [compileGuard, guardFactory?, standard.guards, standard.customGuards]
  cases Auth.GuardKind.all.find? fun kind => kind.name = directive.name with
  | none => exact .of _ _
  | some kind =>
      simp only [makeStandard]
      cases kind.make directive.arguments with
      | ok guard => exact .ok _
      | error problem => exact .of _ _

end Guards

/-! ## Hooks -/

section Hooks

variable {procedure : String} {registry : Registry Hook}

theorem ofName?_phase_eq_some_iff
    {directive : HooksDirective}
    {phase : Phase} :
    Phase.ofName? directive.phase = some phase ↔ IsFor directive phase :=
  Phase.ofName?_eq_some_iff

/-- A directive is for one phase at most. -/
theorem eq_of_isFor
    {directive : HooksDirective}
    {phase other : Phase}
    (first : IsFor directive phase)
    (second : IsFor directive other) :
    phase = other :=
  Option.some.inj <|
    (ofName?_phase_eq_some_iff.mpr first).symm.trans (ofName?_phase_eq_some_iff.mpr second)

/-- A directive is hooked before others if they are, and leave its phase free. -/
theorem areHooked_cons_iff
    {directive : HooksDirective}
    {directives : List HooksDirective}
    {phase : Phase}
    (named : IsFor directive phase) :
    AreHooked registry (directive :: directives) ↔
      directive.functions ≠ [] ∧
      (∀ name ∈ directive.functions, ∃ hook, registry.get? name = some hook) ∧
      (∀ other ∈ directives, ¬IsFor other phase) ∧
      AreHooked registry directives := by
  constructor
  · rintro ⟨known, distinct, nonempty, registered⟩
    rw [List.forall_mem_cons] at known nonempty registered
    obtain ⟨later, distinct⟩ := List.pairwise_cons.mp distinct
    exact ⟨nonempty.1, registered.1, fun other member => later other member phase named,
      known.2, distinct, nonempty.2, registered.2⟩
  · rintro ⟨nonempty, registered, free, rest⟩
    have apart : ∀ other ∈ directives, ∀ found, IsFor directive found → ¬IsFor other found := by
      intro other member found isFor
      obtain rfl := eq_of_isFor named isFor
      exact free other member
    exact ⟨List.forall_mem_cons.mpr ⟨⟨phase, named⟩, rest.known⟩,
      List.pairwise_cons.mpr ⟨apart, rest.distinct⟩,
      List.forall_mem_cons.mpr ⟨nonempty, rest.nonempty⟩,
      List.forall_mem_cons.mpr ⟨registered, rest.registered⟩⟩

/-- Hook directives are compiled exactly if they name registered hooks for free phases. -/
theorem exists_compileHooks_iff
    {taken : List Phase}
    {directives : List HooksDirective} :
    (∃ hooks, compileHooks procedure registry taken directives = .ok hooks) ↔
      AreHooked registry directives ∧
        ∀ directive ∈ directives, ∀ phase ∈ taken, ¬IsFor directive phase := by
  induction directives generalizing taken with
  | nil =>
      refine iff_of_true ⟨[], rfl⟩ ⟨⟨?_, .nil, ?_, ?_⟩, ?_⟩
      all_goals exact fun _ member => absurd member List.not_mem_nil
  | cons directive directives inductionHypothesis =>
      simp only [compileHooks, bind_eq_ok_iff, compilePhase_eq_ok_iff, ofName?_phase_eq_some_iff]
      constructor
      · rintro ⟨hooks, phase, ⟨named, free, nonempty⟩, functions, found, rest, continued, -⟩
        obtain ⟨hooked, apart⟩ := inductionHypothesis.mp ⟨rest, continued⟩
        have registered := exists_mapM_eq_ok_iff.mp ⟨functions, found⟩
        simp only [compileHook_eq_ok_iff] at registered
        refine ⟨(areHooked_cons_iff named).mpr ⟨nonempty, registered, ?_, hooked⟩, ?_⟩
        · exact fun other member => apart other member phase List.mem_cons_self
        · refine List.forall_mem_cons.mpr ⟨fun other occupied isFor => ?_, ?_⟩
          · exact free (eq_of_isFor named isFor ▸ occupied)
          · exact fun other member found occupied =>
              apart other member found (List.mem_cons_of_mem phase occupied)
      · rintro ⟨hooked, apart⟩
        obtain ⟨phase, named⟩ := hooked.known directive List.mem_cons_self
        obtain ⟨nonempty, registered, later, rest⟩ := (areHooked_cons_iff named).mp hooked
        have resolved : ∃ functions,
            directive.functions.mapM (compileHook procedure registry) = .ok functions := by
          simpa only [exists_mapM_eq_ok_iff, compileHook_eq_ok_iff] using registered
        obtain ⟨functions, found⟩ := resolved
        rw [List.forall_mem_cons] at apart
        have free : ∀ other ∈ directives, ∀ found ∈ phase :: taken, ¬IsFor other found := by
          intro other member found occupied
          obtain rfl | occupied := List.mem_cons.mp occupied
          · exact later other member
          · exact apart.2 other member found occupied
        obtain ⟨hooks, continued⟩ := inductionHypothesis.mpr ⟨rest, free⟩
        have fresh : phase ∉ taken := fun occupied => apart.1 phase occupied named
        exact ⟨_, phase, ⟨named, fresh, nonempty⟩, functions, found, hooks, continued, rfl⟩

theorem blames_compileHooks
    (procedure : String)
    (registry : Registry Hook)
    (taken : List Phase)
    (directives : List HooksDirective) :
    Blames procedure (compileHooks procedure registry taken directives) := by
  have phases : ∀ taken directive, Blames procedure (compilePhase procedure taken directive) := by
    intro taken directive
    unfold compilePhase
    split
    · exact .of _ _
    · split
      · exact .of _ _
      · split
        · exact .of _ _
        · exact .ok _
  have functions : ∀ name, Blames procedure (compileHook procedure registry name) := by
    intro name
    unfold compileHook
    split
    · exact .ok _
    · exact .of _ _
  induction directives generalizing taken with
  | nil => exact .ok _
  | cons directive directives inductionHypothesis =>
      refine .bind (phases taken directive) fun phase _ => ?_
      refine .bind (.mapM fun name _ => functions name) fun hooks _ => ?_
      exact .bind (inductionHypothesis (phase :: taken)) fun rest _ => .ok _

section Declared

variable {directives : List HooksDirective} {phase : Phase}

theorem declaredHooks_eq_nil
    (undeclared : ∀ directive ∈ directives, ¬IsFor directive phase) :
    declaredHooks directives phase = [] := by
  simp only [declaredHooks, List.flatMap_eq_nil_iff, List.mem_filter, decide_eq_true_eq,
    ofName?_phase_eq_some_iff]
  rintro directive ⟨member, isFor⟩
  exact absurd isFor (undeclared directive member)

/-- The hooks of a phase are those of the one directive for it. -/
theorem declaredHooks_eq_functions
    (distinct : directives.Pairwise fun first second =>
      ∀ phase, IsFor first phase → ¬IsFor second phase)
    {directive : HooksDirective}
    (member : directive ∈ directives)
    (isFor : IsFor directive phase) :
    declaredHooks directives phase = directive.functions := by
  induction directives with
  | nil => exact absurd member List.not_mem_nil
  | cons first directives inductionHypothesis =>
      obtain ⟨later, distinct⟩ := List.pairwise_cons.mp distinct
      obtain rfl | member := List.mem_cons.mp member
      · have others : declaredHooks directives phase = [] :=
          declaredHooks_eq_nil fun other member => later other member phase isFor
        have named := ofName?_phase_eq_some_iff.mpr isFor
        simpa [declaredHooks, named] using others
      · have apart : Phase.ofName? first.phase ≠ some phase := fun named =>
          later directive member phase (ofName?_phase_eq_some_iff.mp named) isFor
        rw [← inductionHypothesis distinct member]
        simp [declaredHooks, apart]

end Declared

end Hooks

/-! ## Routes -/

section Routes

variable {context : CompileContext Hook} {procedure : Procedure}
variable (standard : IsStandard context) (faultless : IsFaultless context procedure)

include standard

theorem documents_of_compilesTo
    {directives : List Directive}
    {route : Route Hook}
    (compiled : CompilesTo context procedure directives route) :
    Documents procedure directives :=
  directivesOf_eq_ok_iff.mp (standard.isStrict ▸ compiled.directives_eq)

include faultless

/-- What is compiled can be served. -/
theorem isServable_of_compilesTo
    {directives : List Directive}
    {route : Route Hook}
    (compiled : CompilesTo context procedure directives route) :
    IsServable context procedure directives := by
  obtain ⟨segments, named, -⟩ := compiled.name_eq
  have documented := documents_of_compilesTo standard compiled
  obtain ⟨distinct, covered⟩ := exists_compileBindings_iff.mp ⟨_, compiled.bindings_eq⟩
  obtain ⟨sourced, expressed⟩ :=
    (exists_compileSchema_iff (faultless.sections directives documented)).mp ⟨_, compiled.schema_eq⟩
  have guarded := (exists_compileGuards_iff standard).mp ⟨_, compiled.guards_eq⟩
  obtain ⟨hooked, -⟩ := exists_compileHooks_iff.mp ⟨_, compiled.hooks_eq⟩
  exact ⟨exists_parseName_iff.mp ⟨_, named⟩, documented, distinct, covered, sourced, expressed,
    guarded, hooked⟩

/-- Procedures are compiled exactly if they can be served. -/
theorem exists_compile_iff :
    (∃ route, compile context procedure = .ok route) ↔
      ∃ directives, IsServable context procedure directives := by
  constructor
  · rintro ⟨route, compiled⟩
    obtain ⟨directives, parts⟩ := exists_compilesTo compiled
    exact ⟨directives, isServable_of_compilesTo standard faultless parts⟩
  · rintro ⟨directives, servable⟩
    have documented := directivesOf_eq_ok_iff.mpr servable.documented
    obtain ⟨parsed, named⟩ := exists_parseName_iff.mpr servable.named
    obtain ⟨bindings, bound⟩ :=
      exists_compileBindings_iff.mpr ⟨servable.distinct, servable.covered⟩
    obtain ⟨schema, described⟩ :=
      (exists_compileSchema_iff (faultless.sections directives servable.documented)).mpr
        ⟨servable.sourced, servable.expressed⟩
    obtain ⟨guards, guarded⟩ := (exists_compileGuards_iff standard).mpr servable.guarded
    have unclaimed : ∀ directive ∈ directives.filterMap Directive.hooks?, ∀ phase ∈ [],
        ¬IsFor directive phase := fun _ _ _ taken => absurd taken List.not_mem_nil
    obtain ⟨hooks, hooked⟩ := exists_compileHooks_iff.mpr ⟨servable.hooked, unclaimed⟩
    simp only [compile, bind_eq_ok_iff, mapError_eq_ok_iff, standard.isStrict]
    exact ⟨_, parsed, named, directives, documented, bindings, bound, schema, described, guards,
      guarded, hooks, hooked, rfl⟩

theorem blames_compile : Blames procedure.name (compile context procedure) := by
  refine .bind ?_ fun parsed _ => ?_
  · cases parseName context.start procedure.name with
    | ok parsed => exact .ok _
    | error problem => exact .of _ _
  refine .bind (blames_directivesOf procedure _) fun directives documented => ?_
  rw [standard.isStrict, directivesOf_eq_ok_iff] at documented
  refine .bind (blames_compileBindings procedure _) fun bindings _ => ?_
  refine .bind (blames_compileSchema (faultless.sections directives documented)
    (faultless.expressions directives documented)) fun schema _ => ?_
  refine .bind (.mapM fun directive _ => ?_) fun guards _ => ?_
  · exact blames_compileGuard standard procedure.name directive
  · exact .bind (blames_compileHooks _ _ _ _) fun hooks _ => .ok _

end Routes

end Route

end RoutineGate
