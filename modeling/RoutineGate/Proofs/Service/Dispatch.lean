import RoutineGate.Proofs.Request.Merging
import RoutineGate.Proofs.Route.Table
import RoutineGate.Service.Invocation

/-!
# Dispatch by name

A table is searched from its start for the route of a procedure, while an invocation takes the
last route under the name.  The names of the procedures of a complete table are distinct, so
both give the one route that the procedure is compiled to.
-/

namespace RoutineGate
namespace Service

variable {World Hook : Type}

/-- Of the routes under a name an invocation takes the last one. -/
theorem lookup_routesByName
    (table : RouteTable Hook)
    (name : String) :
    (routesByName table).lookup name =
      table.routes.reverse.find? fun route => route.procedure.name = name := by
  rw [routesByName, Value.lookup_gather, ← List.map_reverse]
  induction table.routes.reverse with
  | nil => rfl
  | cons route routes inductionHypothesis =>
      rw [List.map_cons, List.lookup_cons, List.find?_cons, inductionHypothesis]
      by_cases same : route.procedure.name = name
      · simp [same]
      · have apart : (name == route.procedure.name) = false := by simpa using Ne.symm same
        simp [same, apart]

section Compiled

variable {context : CompileContext Hook} {procedures : List Procedure} {table : RouteTable Hook}

/-- An invocation takes the same route of a compiled table as a search from its start. -/
theorem lookup_routesByName_eq_get?
    (compiled : RouteTable.compile context procedures = .ok table)
    (name : String) :
    (routesByName table).lookup name = table.get? name := by
  rw [lookup_routesByName]
  cases found : table.routes.reverse.find? fun route => route.procedure.name = name with
  | none =>
      have absent : ∀ route ∈ table.routes, route.procedure.name ≠ name := by
        simpa using found
      exact Eq.symm (List.find?_eq_none.mpr fun route member => by simp [absent route member])
  | some route =>
      have member : route ∈ table.routes :=
        List.mem_reverse.mp (List.mem_of_find?_eq_some found)
      obtain rfl : route.procedure.name = name := by simpa using List.find?_some found
      exact (RouteTable.get?_of_mem compiled member).symm

/-- Invoking the procedure of a route in a compiled table invokes this route. -/
theorem invoke_of_mem
    (compiled : RouteTable.compile context procedures = .ok table)
    {route : Route Hook}
    (member : route ∈ table.routes)
    (database : Database.ProcedureDatabase World)
    (fields : Call.Fields) :
    invoke database table route.procedure.name fields = invokeRoute database route fields := by
  rw [invoke, lookup_routesByName_eq_get? compiled, RouteTable.get?_of_mem compiled member]

/-- No route of a compiled table is found under the name of no procedure. -/
theorem get?_eq_none_of_notMem
    (compiled : RouteTable.compile context procedures = .ok table)
    {name : String}
    (absent : name ∉ procedures.map Procedure.name) :
    table.get? name = none := by
  have complete := RouteTable.compile_eq_ok_iff.mp compiled
  refine List.find?_eq_none.mpr fun route member => ?_
  have listed : route.procedure ∈ procedures :=
    complete.compiled.procedures_eq ▸ List.mem_map_of_mem member
  have different : route.procedure.name ≠ name := by
    rintro rfl
    exact absent (List.mem_map_of_mem listed)
  simpa using different

/-- A procedure that no route of a compiled table serves is not called. -/
theorem invoke_of_notMem
    (compiled : RouteTable.compile context procedures = .ok table)
    {name : String}
    (absent : name ∉ procedures.map Procedure.name)
    (database : Database.ProcedureDatabase World)
    (fields : Call.Fields) :
    invoke database table name fields = pure (.error (.fault (.unknownProcedure name))) := by
  rw [invoke, lookup_routesByName_eq_get? compiled, get?_eq_none_of_notMem compiled absent]

end Compiled

/-- The routes of a table are found and invoked under the names of their procedures only. -/
structure DispatchesByName (context : CompileContext Hook) (procedures : List Procedure)
    (table : RouteTable Hook) (World : Type) : Prop where
  /-- Under the name of a procedure its own route is found and invoked. -/
  served : ∀ procedure ∈ procedures, ∃ route,
    Route.compile context procedure = .ok route ∧ table.get? procedure.name = some route ∧
      ∀ (database : Database.ProcedureDatabase World) fields,
        invoke database table procedure.name fields = invokeRoute database route fields
  /-- Under any other name no route is found, and invoking it calls nothing. -/
  unserved : ∀ name ∉ procedures.map Procedure.name, table.get? name = none ∧
    ∀ (database : Database.ProcedureDatabase World) fields,
      invoke database table name fields = pure (.error (.fault (.unknownProcedure name)))

/--
Procedures are compiled exactly to their complete table, if they have one.  Then their names are
distinct, each of them is dispatched to the route that it is compiled to on its own, and in any
other order they are compiled as well, to the same routes.
-/
theorem dispatchesByName_of_compile
    (World : Type)
    (context : CompileContext Hook)
    (procedures : List Procedure) :
    (∀ table, RouteTable.compile context procedures = .ok table ↔
      RouteTable.IsComplete context procedures table) ∧
    ∀ table, RouteTable.compile context procedures = .ok table →
      (procedures.map Procedure.name).Nodup ∧
      DispatchesByName context procedures table World ∧
      ∀ others, procedures.Perm others → ∃ otherTable,
        RouteTable.compile context others = .ok otherTable ∧
          table.routes.Perm otherTable.routes := by
  refine ⟨fun table => RouteTable.compile_eq_ok_iff, fun table compiled => ?_⟩
  have complete := RouteTable.compile_eq_ok_iff.mp compiled
  refine ⟨complete.nodup_names, ⟨fun procedure member => ?_, fun name absent => ?_⟩,
    fun others reordered => ?_⟩
  · obtain ⟨route, listed, made, rfl⟩ := complete.exists_route member
    exact ⟨route, made, RouteTable.get?_of_mem compiled listed, invoke_of_mem compiled listed⟩
  · exact ⟨get?_eq_none_of_notMem compiled absent, invoke_of_notMem compiled absent⟩
  · obtain ⟨otherTable, otherComplete, permuted⟩ := complete.exists_of_perm reordered
    exact ⟨otherTable, RouteTable.compile_eq_ok_iff.mpr otherComplete, permuted⟩

/-- Two procedures with one path and different methods. -/
def itemProcedures : List Procedure :=
  [{ name := "api_get_items__.id." }, { name := "api_delete_items__.id." }]

/-- The procedures are compiled in both orders, and dispatched by their names. -/
theorem dispatchesByName_itemProcedures :
    ∃ table, RouteTable.compile ({} : CompileContext Unit) itemProcedures = .ok table ∧
      table.routes.map Route.key = [(.get, "/items/:id"), (.delete, "/items/:id")] ∧
      DispatchesByName {} itemProcedures table Unit ∧
      ∃ otherTable, RouteTable.compile ({} : CompileContext Unit) itemProcedures.reverse =
        .ok otherTable ∧ table.routes.Perm otherTable.routes := by
  have observed : (RouteTable.compile ({} : CompileContext Unit) itemProcedures).toOption.map
      (fun table => table.routes.map Route.key) =
      some [(.get, "/items/:id"), (.delete, "/items/:id")] := by
    decide +kernel
  obtain ⟨table, compiled, keys⟩ := exists_ok_of_toOption_map observed
  obtain ⟨-, dispatches, reordered⟩ :=
    (dispatchesByName_of_compile Unit {} itemProcedures).2 table compiled
  exact ⟨table, compiled, keys, dispatches, reordered _ (List.reverse_perm itemProcedures).symm⟩

end Service
end RoutineGate
