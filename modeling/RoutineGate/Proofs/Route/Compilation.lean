import Mathlib.Data.List.Nodup
import RoutineGate.Proofs.Traversal
import RoutineGate.Route.Basic

/-!
# What a route is compiled from

A compiled route is the procedure with what its directives say: its guards are those of the
guard directives and its hooks those that the directives name for a phase, all of them in
the order of the documentation.  The routes of a table differ in their methods or paths.
-/

namespace RoutineGate
namespace Route

variable {Hook : Type}

open Documentation (Directive HooksDirective ParamDirective)

/-- A route comes of a procedure with some directives. -/
structure CompilesTo (context : CompileContext Hook) (procedure : Procedure)
    (directives : List Directive) (route : Route Hook) : Prop where
  /-- The directives are those of the documentation. -/
  directives_eq : directivesOf procedure context.isStrict = .ok directives
  /-- The method and the path are those that the name says. -/
  name_eq : ∃ segments, parseName context.start procedure.name = .ok (route.method, segments) ∧
    route.path = pathText segments
  /-- The procedure is kept. -/
  procedure_eq : route.procedure = procedure
  /-- The bindings are those of the declared parameters. -/
  bindings_eq : compileBindings procedure (directives.filterMap Directive.param?) =
    .ok route.bindings
  /-- The schema is that of the parameter directives. -/
  schema_eq : Request.compileSchema procedure.name context.toScope
    (directives.filterMap Directive.param?) = .ok route.schema
  /-- The guards are those of the guard directives. -/
  guards_eq : (directives.filterMap Directive.guard?).mapM
    (compileGuard procedure.name context) = .ok route.guards
  /-- The hooks are those of the hook directives. -/
  hooks_eq : compileHooks procedure.name context.hooks []
    (directives.filterMap Directive.hooks?) = .ok route.hooks

/-- Every compiled route comes of its procedure with the directives of the documentation. -/
theorem exists_compilesTo
    {context : CompileContext Hook}
    {procedure : Procedure}
    {route : Route Hook}
    (compiled : compile context procedure = .ok route) :
    ∃ directives, CompilesTo context procedure directives route := by
  simp only [compile, bind_eq_ok_iff, mapError_eq_ok_iff] at compiled
  obtain ⟨⟨method, segments⟩, named, directives, documented, bindings, bound, schema, described,
    guards, guarded, hooks, hooked, made⟩ := compiled
  simp only [pure, Except.pure, Except.ok.injEq] at made
  subst made
  exact ⟨directives, documented, ⟨segments, named, rfl⟩, rfl, bound, described, guarded, hooked⟩

/-! ## Bindings -/

/-- No name is found twice exactly if the names are distinct and none was seen before. -/
theorem repeatedName?_eq_none_iff
    {seen names : List String} :
    repeatedName? seen names = none ↔ names.Nodup ∧ ∀ name ∈ names, name ∉ seen := by
  induction names generalizing seen with
  | nil => simp [repeatedName?]
  | cons name names inductionHypothesis =>
      by_cases repeated : name ∈ seen
      · simp [repeatedName?, repeated]
      · simp only [repeatedName?, List.contains_eq_mem, repeated, decide_false,
          Bool.false_eq_true, if_false, inductionHypothesis, List.mem_cons, not_or,
          List.nodup_cons, forall_eq_or_imp, not_false_eq_true, true_and]
        constructor
        · rintro ⟨distinct, others⟩
          refine ⟨⟨?_, distinct⟩, fun other member => (others other member).2⟩
          exact fun member => (others name member).1 rfl
        · rintro ⟨⟨absent, distinct⟩, others⟩
          refine ⟨distinct, fun other member => ⟨?_, others other member⟩⟩
          rintro rfl
          exact absent member

/-- A directive is the only one among some for a parameter. -/
def IsOnlyFor (directives : List ParamDirective) (parameter : String)
    (directive : ParamDirective) : Prop :=
  directive ∈ directives ∧ directive.name = parameter ∧
    ∀ other ∈ directives, other.name = parameter → other = directive

/-- Every declared parameter has the binding of the only directive for it. -/
theorem forall₂_compileBindings
    {procedure : Procedure}
    {directives : List ParamDirective}
    {bindings : List Call.Binding}
    (compiled : compileBindings procedure directives = .ok bindings) :
    List.Forall₂ (fun parameter binding => ∃ directive,
        IsOnlyFor directives parameter directive ∧ binding = bindingOf directive)
      procedure.parameters bindings := by
  unfold compileBindings at compiled
  cases repeated : repeatedName? [] (directives.map fun directive => directive.name) with
  | some name => simp [repeated] at compiled
  | none =>
      obtain ⟨distinct, -⟩ := repeatedName?_eq_none_iff.mp repeated
      rw [repeated] at compiled
      refine (mapM_eq_ok_iff.mp compiled).imp fun parameter binding bound => ?_
      cases found : directives.find? fun directive => directive.name = parameter with
      | none => simp [found] at bound
      | some directive =>
          obtain rfl : bindingOf directive = binding := by simpa [found] using bound
          have member := List.mem_of_find?_eq_some found
          have named : directive.name = parameter := by simpa using List.find?_some found
          refine ⟨directive, ⟨member, named, fun other listed otherNamed => ?_⟩, rfl⟩
          exact List.inj_on_of_nodup_map distinct listed member (otherNamed.trans named.symm)

/-! ## Hooks -/

/-- The names of the hooks that directives declare for a phase, in order. -/
def declaredHooks (directives : List HooksDirective) (phase : Phase) : List String :=
  (directives.filter fun directive => Phase.ofName? directive.phase = some phase).flatMap
    HooksDirective.functions

/-- A directive gives hooks to the phase that it names if the phase is free before. -/
theorem compilePhase_eq_ok_iff
    {procedure : String}
    {taken : List Phase}
    {directive : HooksDirective}
    {phase : Phase} :
    compilePhase procedure taken directive = .ok phase ↔
      Phase.ofName? directive.phase = some phase ∧ phase ∉ taken ∧ directive.functions ≠ [] := by
  unfold compilePhase
  cases Phase.ofName? directive.phase with
  | none => simp
  | some found =>
      by_cases occupied : found ∈ taken
      · simp only [List.contains_eq_mem, occupied, decide_true, if_true, reduceCtorEq, false_iff]
        rintro ⟨same, free, -⟩
        exact free (Option.some.inj same ▸ occupied)
      · by_cases empty : directive.functions = []
        · simp [occupied, empty]
        · simp only [List.contains_eq_mem, occupied, decide_false, Bool.false_eq_true, if_false,
            List.isEmpty_iff, empty, Except.ok.injEq, Option.some.injEq]
          constructor
          · rintro rfl
            exact ⟨rfl, occupied, empty⟩
          · exact And.left

/-- A name is compiled to the hook that is registered under it. -/
theorem compileHook_eq_ok_iff
    {procedure name : String}
    {registry : Registry Hook}
    {hook : Hook} :
    compileHook procedure registry name = .ok hook ↔ registry.get? name = some hook := by
  unfold compileHook
  cases registry.get? name <;> simp

section Hooks

variable {procedure : String} {registry : Registry Hook} {taken : List Phase}
variable {directives : List HooksDirective} {hooks : List (Phase × List Hook)}

/-- No further hooks are declared for a phase that is taken. -/
theorem declaredHooks_of_taken
    (compiled : compileHooks procedure registry taken directives = .ok hooks)
    {phase : Phase}
    (occupied : phase ∈ taken) :
    declaredHooks directives phase = [] := by
  induction directives generalizing taken hooks with
  | nil => rfl
  | cons directive directives inductionHypothesis =>
      simp only [compileHooks, bind_eq_ok_iff] at compiled
      obtain ⟨found, phased, functions, -, rest, continued, -⟩ := compiled
      obtain ⟨named, free, -⟩ := compilePhase_eq_ok_iff.mp phased
      have different : found ≠ phase := by
        rintro rfl
        exact free occupied
      have others := inductionHypothesis continued (List.mem_cons_of_mem found occupied)
      simpa [declaredHooks, named, different] using others

/-- The hooks of each phase are the registered ones that are declared for it, in order. -/
theorem forall₂_declaredHooks
    (compiled : compileHooks procedure registry taken directives = .ok hooks)
    (phase : Phase) :
    List.Forall₂ (fun name hook => registry.get? name = some hook)
      (declaredHooks directives phase) ((hooks.lookup phase).getD []) := by
  induction directives generalizing taken hooks with
  | nil =>
      obtain rfl : [] = hooks := by simpa [compileHooks] using compiled
      exact .nil
  | cons directive directives inductionHypothesis =>
      simp only [compileHooks, bind_eq_ok_iff] at compiled
      obtain ⟨found, phased, functions, registered, rest, continued, done⟩ := compiled
      obtain rfl : (found, functions) :: rest = hooks := by
        simpa [pure, Except.pure] using done
      obtain ⟨named, -⟩ := compilePhase_eq_ok_iff.mp phased
      by_cases same : phase = found
      · -- the phase is taken from here on, so the directive declares all of its hooks
        subst same
        have others := declaredHooks_of_taken continued List.mem_cons_self
        have all : declaredHooks (directive :: directives) phase = directive.functions := by
          simpa [declaredHooks, named] using others
        rw [all, List.lookup_cons_self, Option.getD_some]
        simpa only [compileHook_eq_ok_iff] using mapM_eq_ok_iff.mp registered
      · have apart : (phase == found) = false := by simpa using same
        have others := inductionHypothesis continued
        have all : declaredHooks (directive :: directives) phase =
            declaredHooks directives phase := by
          simp [declaredHooks, named, Ne.symm same]
        rw [all, List.lookup_cons, apart]
        exact others

end Hooks

namespace CompilesTo

variable {context : CompileContext Hook} {procedure : Procedure} {directives : List Directive}
variable {route : Route Hook}

/-- The guards are made of the guard directives, in order. -/
theorem forall₂_guards
    (compiled : CompilesTo context procedure directives route) :
    List.Forall₂ (fun directive guard =>
        compileGuard procedure.name context directive = .ok guard)
      (directives.filterMap Directive.guard?) route.guards :=
  mapM_eq_ok_iff.mp compiled.guards_eq

/-- The hooks of a phase are the registered ones that are declared for it, in order. -/
theorem forall₂_hooksFor
    (compiled : CompilesTo context procedure directives route)
    (phase : Phase) :
    List.Forall₂ (fun name hook => context.hooks.get? name = some hook)
      (declaredHooks (directives.filterMap Directive.hooks?) phase) (route.hooksFor phase) :=
  forall₂_declaredHooks compiled.hooks_eq phase

end CompilesTo

end Route

/-! ## Tables -/

namespace RouteTable

variable {Hook : Type} {context : CompileContext Hook}

theorem compileAfter_keys
    {earlier routes : List (Route Hook)}
    {procedures : List Procedure}
    (compiled : compileAfter context earlier procedures = .ok routes) :
    (∀ other ∈ earlier, ∀ route ∈ routes, other.key ≠ route.key) ∧
      (routes.map Route.key).Nodup := by
  induction procedures generalizing earlier routes with
  | nil =>
      obtain rfl : [] = routes := by simpa [compileAfter] using compiled
      exact ⟨fun _ _ _ member => absurd member List.not_mem_nil, List.nodup_nil⟩
  | cons procedure procedures inductionHypothesis =>
      simp only [compileAfter, bind_eq_ok_iff] at compiled
      obtain ⟨route, -, compiled⟩ := compiled
      cases occupied : earlier.find? fun other => other.key = route.key with
      | some other => simp [occupied, throw, throwThe, MonadExceptOf.throw] at compiled
      | none =>
          simp only [occupied, bind_eq_ok_iff] at compiled
          obtain ⟨rest, continued, done⟩ := compiled
          obtain rfl : route :: rest = routes := by simpa [pure, Except.pure] using done
          obtain ⟨apart, distinct⟩ := inductionHypothesis continued
          have free : ∀ other ∈ earlier, other.key ≠ route.key := by
            simpa using List.find?_eq_none.mp occupied
          constructor
          · intro other listed found member
            obtain rfl | member := List.mem_cons.mp member
            · exact free other listed
            · exact apart other (List.mem_append_left _ listed) found member
          · rw [List.map_cons, List.nodup_cons]
            refine ⟨fun member => ?_, distinct⟩
            obtain ⟨found, listed, same⟩ := List.mem_map.mp member
            have itself : route ∈ earlier ++ [route] := by simp
            exact apart route itself found listed same.symm

/-- No two routes of a table have the same method and path. -/
theorem nodup_keys
    {procedures : List Procedure}
    {table : RouteTable Hook}
    (compiled : compile context procedures = .ok table) :
    (table.routes.map Route.key).Nodup := by
  unfold compile at compiled
  cases compiledAfter : compileAfter context [] procedures with
  | error failure => simp [compiledAfter, Except.map] at compiled
  | ok routes =>
      obtain rfl : (⟨routes⟩ : RouteTable Hook) = table := by
        simpa [compiledAfter, Except.map] using compiled
      exact (compileAfter_keys compiledAfter).2

/-- Every route of a table is compiled from a procedure. -/
theorem exists_compile_of_compileAfter
    {earlier routes : List (Route Hook)}
    {procedures : List Procedure}
    (compiled : compileAfter context earlier procedures = .ok routes)
    {route : Route Hook}
    (member : route ∈ routes) :
    ∃ procedure, Route.compile context procedure = .ok route := by
  induction procedures generalizing earlier routes with
  | nil =>
      obtain rfl : [] = routes := by simpa [compileAfter] using compiled
      exact absurd member List.not_mem_nil
  | cons procedure procedures inductionHypothesis =>
      simp only [compileAfter, bind_eq_ok_iff] at compiled
      obtain ⟨first, made, compiled⟩ := compiled
      split at compiled
      · exact absurd compiled throw_ne_ok
      · obtain ⟨rest, continued, done⟩ := bind_eq_ok_iff.mp compiled
        obtain rfl : first :: rest = routes := by simpa [pure, Except.pure] using done
        obtain rfl | member := List.mem_cons.mp member
        · exact ⟨procedure, made⟩
        · exact inductionHypothesis continued member

section Lookup

variable {procedures : List Procedure} {table : RouteTable Hook}

/-- Every route of a table comes of its procedure. -/
theorem exists_compilesTo_of_mem
    (compiled : compile context procedures = .ok table)
    {route : Route Hook}
    (member : route ∈ table.routes) :
    ∃ directives, Route.CompilesTo context route.procedure directives route := by
  obtain ⟨routes, compiledAfter, rfl⟩ := map_eq_ok_iff.mp compiled
  obtain ⟨procedure, made⟩ := exists_compile_of_compileAfter compiledAfter member
  obtain ⟨directives, parts⟩ := Route.exists_compilesTo made
  exact ⟨directives, parts.procedure_eq ▸ parts⟩

/-- The name of its procedure decides the method and the path of a route. -/
theorem key_eq_of_name_eq
    (compiled : compile context procedures = .ok table)
    {route other : Route Hook}
    (member : route ∈ table.routes)
    (otherMember : other ∈ table.routes)
    (same : other.procedure.name = route.procedure.name) :
    other.key = route.key := by
  obtain ⟨_, parts⟩ := exists_compilesTo_of_mem compiled member
  obtain ⟨_, otherParts⟩ := exists_compilesTo_of_mem compiled otherMember
  obtain ⟨segments, named, path⟩ := parts.name_eq
  obtain ⟨otherSegments, otherNamed, otherPath⟩ := otherParts.name_eq
  rw [same, named, Except.ok.injEq, Prod.mk.injEq] at otherNamed
  obtain ⟨method, rfl⟩ := otherNamed
  rw [Route.key, Route.key, method, path, otherPath]

/-- Each route of a table is found under the name of its procedure. -/
theorem get?_of_mem
    (compiled : compile context procedures = .ok table)
    {route : Route Hook}
    (member : route ∈ table.routes) :
    table.get? route.procedure.name = some route := by
  rw [get?]
  cases found : table.routes.find? fun other => other.procedure.name = route.procedure.name with
  | none => simpa using List.find?_eq_none.mp found route member
  | some other =>
      have listed := List.mem_of_find?_eq_some found
      have named : other.procedure.name = route.procedure.name := by
        simpa using List.find?_some found
      have same := key_eq_of_name_eq compiled member listed named
      rw [List.inj_on_of_nodup_map (nodup_keys compiled) listed member same]

end Lookup

end RouteTable
end RoutineGate
