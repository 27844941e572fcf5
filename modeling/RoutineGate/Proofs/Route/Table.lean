import Mathlib.Data.List.Forall2
import Mathlib.Data.List.Perm.Basic
import RoutineGate.Proofs.Route.Compilation

/-!
# Complete tables

A table is complete for some procedures if it has the route of each of them, in order, and no
two of its routes have the same method and path.  Procedures are compiled to their complete
table, and to none if there is none, so their order decides nothing but that of the routes.
-/

namespace RoutineGate
namespace RouteTable

variable {Hook : Type} {context : CompileContext Hook}

/-- Each procedure is compiled on its own to the route at its position. -/
def AreCompiled (context : CompileContext Hook) (procedures : List Procedure)
    (routes : List (Route Hook)) : Prop :=
  List.Forall₂ (fun procedure route => Route.compile context procedure = .ok route)
    procedures routes

/-- A table has the routes of some procedures, no two of them under the same method and path. -/
structure IsComplete (context : CompileContext Hook) (procedures : List Procedure)
    (table : RouteTable Hook) : Prop where
  /-- Every procedure has its route, in order. -/
  compiled : AreCompiled context procedures table.routes
  /-- No two routes have the same method and path. -/
  distinct : (table.routes.map Route.key).Nodup

/--
Procedures are compiled after some routes exactly to their own routes, if no method with its
path is among those of the earlier routes or occurs twice.
-/
theorem compileAfter_eq_ok_iff
    {earlier routes : List (Route Hook)}
    {procedures : List Procedure} :
    compileAfter context earlier procedures = .ok routes ↔
      AreCompiled context procedures routes ∧
      (∀ other ∈ earlier, ∀ route ∈ routes, other.key ≠ route.key) ∧
      (routes.map Route.key).Nodup := by
  constructor
  · intro compiled
    refine ⟨?_, compileAfter_keys compiled⟩
    induction procedures generalizing earlier routes with
    | nil =>
        obtain rfl : [] = routes := by simpa [compileAfter] using compiled
        exact .nil
    | cons procedure procedures inductionHypothesis =>
        simp only [compileAfter, bind_eq_ok_iff] at compiled
        obtain ⟨route, made, compiled⟩ := compiled
        split at compiled
        · exact absurd compiled throw_ne_ok
        · obtain ⟨rest, continued, done⟩ := bind_eq_ok_iff.mp compiled
          obtain rfl : route :: rest = routes := by simpa [pure, Except.pure] using done
          exact .cons made (inductionHypothesis continued)
  · rintro ⟨compiled, free, distinct⟩
    induction compiled generalizing earlier with
    | nil => rfl
    | @cons procedure route procedures routes made rest inductionHypothesis =>
        obtain ⟨alone, others⟩ := List.nodup_cons.mp distinct
        have unoccupied : (earlier.find? fun other => other.key = route.key) = none := by
          simpa using fun other listed => free other listed route List.mem_cons_self
        have continued : compileAfter context (earlier ++ [route]) procedures = .ok routes := by
          refine inductionHypothesis (fun other listed next member => ?_) others
          obtain before | same := List.mem_append.mp listed
          · exact free other before next (List.mem_cons_of_mem route member)
          · obtain rfl := List.mem_singleton.mp same
            exact fun equal => alone (equal ▸ List.mem_map_of_mem member)
        simp only [compileAfter, made, continued, unoccupied, bind, Except.bind, pure,
          Except.pure]

/-- Procedures are compiled exactly to their complete table. -/
theorem compile_eq_ok_iff
    {procedures : List Procedure}
    {table : RouteTable Hook} :
    compile context procedures = .ok table ↔ IsComplete context procedures table := by
  rw [compile, map_eq_ok_iff]
  constructor
  · rintro ⟨routes, compiled, rfl⟩
    obtain ⟨each, -, distinct⟩ := compileAfter_eq_ok_iff.mp compiled
    exact ⟨each, distinct⟩
  · rintro ⟨each, distinct⟩
    have free : ∀ other ∈ ([] : List (Route Hook)), ∀ route ∈ table.routes,
        other.key ≠ route.key :=
      fun other listed => absurd listed List.not_mem_nil
    exact ⟨table.routes, compileAfter_eq_ok_iff.mpr ⟨each, free, distinct⟩, rfl⟩

/-- The routes of compiled procedures keep these. -/
theorem AreCompiled.procedures_eq
    {procedures : List Procedure}
    {routes : List (Route Hook)}
    (compiled : AreCompiled context procedures routes) :
    routes.map Route.procedure = procedures := by
  induction compiled with
  | nil => rfl
  | cons made rest inductionHypothesis =>
      obtain ⟨directives, parts⟩ := Route.exists_compilesTo made
      rw [List.map_cons, parts.procedure_eq, inductionHypothesis]

namespace IsComplete

variable {procedures : List Procedure} {table : RouteTable Hook}

/-- The names of procedures with a complete table are distinct. -/
theorem nodup_names
    (complete : IsComplete context procedures table) :
    (procedures.map Procedure.name).Nodup := by
  have compiled := compile_eq_ok_iff.mpr complete
  have keys := complete.distinct
  rw [← complete.compiled.procedures_eq, List.map_map, List.nodup_iff_pairwise_ne,
    List.pairwise_map]
  rw [List.nodup_iff_pairwise_ne, List.pairwise_map] at keys
  refine keys.imp_of_mem fun {route other} member otherMember different same => different ?_
  exact key_eq_of_name_eq compiled otherMember member same

/-- A procedure is compiled to its route in the table. -/
theorem exists_route
    (complete : IsComplete context procedures table)
    {procedure : Procedure}
    (member : procedure ∈ procedures) :
    ∃ route ∈ table.routes, Route.compile context procedure = .ok route ∧
      route.procedure = procedure := by
  obtain ⟨route, listed, made⟩ := exists_of_forall₂ complete.compiled member
  obtain ⟨directives, parts⟩ := Route.exists_compilesTo made
  exact ⟨route, listed, made, parts.procedure_eq⟩

/-- Procedures in another order have a complete table as well, with the same routes. -/
theorem exists_of_perm
    (complete : IsComplete context procedures table)
    {others : List Procedure}
    (reordered : procedures.Perm others) :
    ∃ otherTable, IsComplete context others otherTable ∧
      table.routes.Perm otherTable.routes := by
  obtain ⟨routes, compiled, permuted⟩ :=
    List.perm_comp_forall₂ reordered.symm complete.compiled
  exact ⟨⟨routes⟩, ⟨compiled, (permuted.map Route.key).nodup_iff.mpr complete.distinct⟩,
    permuted.symm⟩

end IsComplete

end RouteTable
end RoutineGate
