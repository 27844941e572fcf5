import RoutineGate.Proofs.Http.Covering
import RoutineGate.Proofs.Route.Compilation
import RoutineGate.Proofs.Service.Order
import RoutineGate.Service.Application

/-!
# Which routes are reachable

Endpoints are tried in order, so a route is reachable exactly if some path that it matches is
matched by no endpoint with its method before it.  For plain paths this means that none of
their paths covers its own.
-/

namespace RoutineGate

namespace Http

variable {Target : Type}

/-- An endpoint has the method and a pattern for the path of a request. -/
def Endpoint.Serves (method path : String) (endpoint : Endpoint Target) : Prop :=
  endpoint.method = method ∧ (endpoint.matchPath? path).isSome

section Dispatching

variable {method path : String} {endpoint : Endpoint Target}

theorem Endpoint.serve?_eq_none_iff :
    endpoint.serve? method path = none ↔ ¬endpoint.Serves method path := by
  unfold Endpoint.serve? Endpoint.Serves
  by_cases same : endpoint.method = method
  · simp [same]
  · simp [same]

theorem Endpoint.exists_serve?_iff :
    (∃ parameters, endpoint.serve? method path = some (endpoint.target, parameters)) ↔
      endpoint.Serves method path := by
  unfold Endpoint.serve? Endpoint.Serves
  by_cases same : endpoint.method = method
  · simp [same, Option.isSome_iff_exists]
  · simp [same]

theorem Endpoint.target_of_serve?
    {target : Target}
    {parameters : List (String × Value)}
    (served : endpoint.serve? method path = some (target, parameters)) :
    target = endpoint.target := by
  unfold Endpoint.serve? at served
  split at served
  · obtain ⟨found, -, same⟩ := Option.map_eq_some_iff.mp served
    exact (congrArg Prod.fst same).symm
  · contradiction

theorem misdirected_ne_target
    (endpoints : List (Endpoint Target))
    (path : String)
    (target : Target)
    (parameters : List (String × Value)) :
    misdirected endpoints path ≠ .target target parameters := by
  unfold misdirected
  split
  · simp
  · split <;> simp

/-- A request goes to a target exactly if the first endpoint that serves it has this target. -/
theorem dispatch_eq_target_iff
    {endpoints : List (Endpoint Target)}
    {target : Target}
    {parameters : List (String × Value)} :
    dispatch endpoints method path = .target target parameters ↔
      endpoints.findSome? (Endpoint.serve? method path) = some (target, parameters) := by
  unfold dispatch
  cases endpoints.findSome? (Endpoint.serve? method path) with
  | none => simp [misdirected_ne_target]
  | some found => simp [Prod.ext_iff]

/-- What serves a request is an endpoint with the target of the request. -/
theorem exists_target_of_findSome?
    {endpoints : List (Endpoint Target)}
    {target : Target}
    {parameters : List (String × Value)}
    (found : endpoints.findSome? (Endpoint.serve? method path) = some (target, parameters)) :
    ∃ other ∈ endpoints, other.target = target := by
  obtain ⟨other, member, served⟩ := List.exists_of_findSome?_eq_some found
  exact ⟨other, member, (Endpoint.target_of_serve? served).symm⟩

/-- A request goes to an endpoint exactly if it serves the request and none before does. -/
theorem exists_dispatch_iff
    {before after : List (Endpoint Target)}
    (distinct : ∀ other ∈ before ++ after, other.target ≠ endpoint.target) :
    (∃ parameters, dispatch (before ++ endpoint :: after) method path =
        .target endpoint.target parameters) ↔
      endpoint.Serves method path ∧ ∀ other ∈ before, ¬other.Serves method path := by
  simp only [dispatch_eq_target_iff, List.findSome?_append, Option.or_eq_some_iff]
  constructor
  · rintro ⟨parameters, found | ⟨unserved, found⟩⟩
    · obtain ⟨other, member, same⟩ := exists_target_of_findSome? found
      exact absurd same (distinct other (List.mem_append_left _ member))
    · rw [List.findSome?_cons] at found
      refine ⟨?_, fun other member => ?_⟩
      · cases served : endpoint.serve? method path with
        | none =>
            rw [served] at found
            obtain ⟨other, member, same⟩ := exists_target_of_findSome? found
            exact absurd same (distinct other (List.mem_append_right _ member))
        | some pair =>
            obtain ⟨target, others⟩ := pair
            obtain rfl := Endpoint.target_of_serve? served
            exact Endpoint.exists_serve?_iff.mp ⟨others, served⟩
      · exact Endpoint.serve?_eq_none_iff.mp (List.findSome?_eq_none_iff.mp unserved other member)
  · rintro ⟨serves, unserved⟩
    obtain ⟨parameters, served⟩ := Endpoint.exists_serve?_iff.mpr serves
    refine ⟨parameters, .inr ⟨?_, ?_⟩⟩
    · rw [List.findSome?_eq_none_iff]
      exact fun other member => Endpoint.serve?_eq_none_iff.mpr (unserved other member)
    · rw [List.findSome?_cons, served]

end Dispatching
end Http

namespace Service
namespace Application

open Http.PathPattern (TakeAll Covers isPlain)

variable {World : Type}

/-- A path has the pattern of the path of a route. -/
def Matches (routePath path : String) : Prop :=
  ∃ pattern, Http.PathPattern.ofText (pathPattern routePath) = .ok pattern ∧
    (Http.PathPattern.match? pattern path.toList).isSome

/-- The methods and paths of the endpoints that every application has. -/
def ownSites : List (Method × String) :=
  (pagePaths.flatMap fun path => [(.get, path), (.head, path)]) ++ [(.get, healthPath)]

/-- The methods and paths that are tried before those of further routes. -/
def sites (earlier : List (Route (Hook World))) : List (Method × String) :=
  ownSites ++ earlier.map Route.key

/-- A route gets some request, and if it has no parameters, then that for just its path. -/
def IsReachable (application : Application World) (route : Route (Hook World)) : Prop :=
  ∃ path, (route.pathParameters = [] → path = route.path) ∧
    ∃ parameters, Http.dispatch application.endpoints route.method.name path =
      .target (.route route) parameters

/-- A path is made of plain pieces. -/
def IsPlainPath (path : String) : Prop :=
  ∀ piece ∈ pathPieces path, isPlain piece = true

instance (path : String) : Decidable (IsPlainPath path) :=
  inferInstanceAs (Decidable (∀ piece ∈ pathPieces path, isPlain piece = true))

/-! ## Endpoints of an application -/

/-- An endpoint serves a method and the path of a route. -/
def IsAt (site : Method × String) (endpoint : Http.Endpoint (Target World)) : Prop :=
  endpoint.method = site.1.name ∧
    Http.PathPattern.ofText (pathPattern site.2) = .ok endpoint.pattern

/-- An endpoint with a fixed path is at this path, if the path is read as it is written. -/
theorem isAt_fixedEndpoint
    {path : String}
    (read : Http.PathPattern.ofText (pathPattern path) = .ok [.literal path.toList])
    (method : Method)
    (target : Target World) :
    IsAt (method, path) (fixedEndpoint method path target) :=
  ⟨rfl, read⟩

/-- The endpoints that every application has are at their methods and paths. -/
theorem forall₂_isAt_ownEndpoints :
    List.Forall₂ IsAt ownSites (ownEndpoints : List (Http.Endpoint (Target World))) := by
  have read : ∀ path ∈ pagePaths ++ [healthPath],
      Http.PathPattern.ofText (pathPattern path) = .ok [.literal path.toList] := by
    decide +kernel
  unfold ownSites ownEndpoints
  refine List.rel_append ?_ ?_
  · refine List.rel_flatMap (R := fun path other => path = other ∧ path ∈ pagePaths) ?_ ?_
    · exact List.forall₂_same.mpr fun path member => ⟨rfl, member⟩
    · rintro path _ ⟨rfl, member⟩
      have fixed := read path (List.mem_append_left _ member)
      refine .cons (isAt_fixedEndpoint fixed .get (.page path)) ?_
      exact .cons (isAt_fixedEndpoint fixed .head (.page path)) .nil
  · have member : healthPath ∈ pagePaths ++ [healthPath] := by simp
    exact .cons (isAt_fixedEndpoint (read healthPath member) .get .health) .nil

/-- None of the endpoints that every application has goes to a route. -/
theorem target_ne_of_mem_ownEndpoints
    {endpoint : Http.Endpoint (Target World)}
    (member : endpoint ∈ ownEndpoints)
    (route : Route (Hook World)) :
    endpoint.target ≠ .route route := by
  obtain paged | alive := List.mem_append.mp member
  · obtain ⟨path, -, listed⟩ := List.mem_flatMap.mp paged
    rw [pageEndpoints, List.mem_pair] at listed
    obtain rfl | rfl := listed <;> simp [fixedEndpoint]
  · rw [List.mem_singleton.mp alive]
    simp [fixedEndpoint]

theorem endpointOf_eq_ok
    {route : Route (Hook World)}
    {endpoint : Http.Endpoint (Target World)}
    (made : endpointOf route = .ok endpoint) :
    IsAt route.key endpoint ∧ endpoint.target = .route route := by
  unfold endpointOf at made
  cases read : Http.PathPattern.ofText (pathPattern route.path) with
  | error problem => simp [read, Except.map] at made
  | ok pattern =>
      simp only [read, Except.map, Except.ok.injEq] at made
      subst made
      exact ⟨⟨rfl, read⟩, rfl⟩

theorem serves_iff
    {site : Method × String}
    {endpoint : Http.Endpoint (Target World)}
    (placed : IsAt site endpoint)
    (method : Method)
    (path : String) :
    endpoint.Serves method.name path ↔ site.1 = method ∧ Matches site.2 path := by
  obtain ⟨methodName, read⟩ := placed
  unfold Http.Endpoint.Serves Matches
  rw [methodName, read]
  constructor
  · rintro ⟨same, matched⟩
    have found := congrArg Method.ofName? same
    rw [Method.ofName?_name, Method.ofName?_name, Option.some.injEq] at found
    exact ⟨found, _, rfl, matched⟩
  · rintro ⟨rfl, pattern, same, matched⟩
    obtain rfl := Except.ok.inj same
    exact ⟨rfl, matched⟩

/-- The endpoints of routes go to these routes. -/
theorem exists_route_of_mem
    {routes : List (Route (Hook World))}
    {endpoints : List (Http.Endpoint (Target World))}
    (made : List.Forall₂ (fun route endpoint => endpointOf route = .ok endpoint) routes endpoints)
    {endpoint : Http.Endpoint (Target World)}
    (member : endpoint ∈ endpoints) :
    ∃ route ∈ routes, endpoint.target = .route route := by
  have flipped : List.Forall₂ (fun endpoint route => endpointOf route = .ok endpoint)
    endpoints routes := made.flip
  obtain ⟨route, listed, own⟩ := exists_of_forall₂ flipped member
  exact ⟨route, listed, (endpointOf_eq_ok own).2⟩

section Building

variable {page : String → Http.Response} {settings : Settings}
variable {context : CompileContext (Hook World)}
variable {database : Database.ProcedureDatabase World} {procedures : List Procedure}
variable {application : Application World} {earlier later : List (Route (Hook World))}
variable {route : Route (Hook World)}

/-- An application has an endpoint for each route, after its own ones. -/
theorem exists_endpoints_eq
    (built : build page settings context database procedures = .ok application) :
    ∃ endpoints, application.endpoints = ownEndpoints ++ endpoints ∧
      List.Forall₂ (fun route endpoint => endpointOf route = .ok endpoint)
        application.table.routes endpoints := by
  simp only [build, bind_eq_ok_iff, mapError_eq_ok_iff] at built
  obtain ⟨table, -, endpoints, placed, done⟩ := built
  simp only [pure, Except.pure, Except.ok.injEq] at done
  subst done
  unfold endpointsOf at placed
  cases traversed : table.routes.mapM endpointOf with
  | error problem => simp [traversed, Except.map] at placed
  | ok made =>
      rw [traversed] at placed
      exact ⟨made, (Except.ok.inj placed).symm, mapM_eq_ok_iff.mp traversed⟩

/-- A route of an application differs from all others. -/
theorem ne_of_mem_others
    (built : build page settings context database procedures = .ok application)
    (listed : application.table.routes = earlier ++ route :: later)
    {other : Route (Hook World)}
    (member : other ∈ earlier ++ later) :
    other ≠ route := by
  simp only [build, bind_eq_ok_iff, mapError_eq_ok_iff] at built
  obtain ⟨table, compiled, endpoints, -, done⟩ := built
  simp only [pure, Except.pure, Except.ok.injEq] at done
  subst done
  have distinct := RouteTable.nodup_keys compiled
  simp only at listed
  rw [listed, List.map_append, List.map_cons, List.nodup_middle, List.nodup_cons,
    ← List.map_append] at distinct
  rintro rfl
  exact distinct.1 (List.mem_map_of_mem member)

/-- The endpoints of an application before, at and after a route. -/
theorem exists_endpoints
    (built : build page settings context database procedures = .ok application)
    (listed : application.table.routes = earlier ++ route :: later) :
    ∃ before endpoint after, application.endpoints = before ++ endpoint :: after ∧
      List.Forall₂ IsAt (sites earlier) before ∧ IsAt route.key endpoint ∧
      endpoint.target = .route route ∧
      ∀ other ∈ before ++ after, other.target ≠ endpoint.target := by
  obtain ⟨endpoints, listing, made⟩ := exists_endpoints_eq built
  rw [listed] at made
  obtain ⟨before, _, rfl, beforeMade, restMade⟩ := exists_append_of_forall₂ made
  obtain ⟨endpoint, after, own, afterMade, rfl⟩ := List.forall₂_cons_left_iff.mp restMade
  obtain ⟨placed, target⟩ := endpointOf_eq_ok own
  refine ⟨ownEndpoints ++ before, endpoint, after, ?_, ?_, placed, target, ?_⟩
  · rw [listing, List.append_assoc]
  · refine List.rel_append forall₂_isAt_ownEndpoints ?_
    rw [List.forall₂_map_left_iff]
    exact beforeMade.imp fun other placed made => (endpointOf_eq_ok made).1
  · intro other member same
    rw [target] at same
    rw [List.append_assoc, List.mem_append, List.mem_append] at member
    obtain member | member | member := member
    · exact target_ne_of_mem_ownEndpoints member route same
    · obtain ⟨found, listedFound, goes⟩ := exists_route_of_mem beforeMade member
      rw [goes, Target.route.injEq] at same
      exact ne_of_mem_others built listed (List.mem_append_left _ listedFound) same
    · obtain ⟨found, listedFound, goes⟩ := exists_route_of_mem afterMade member
      rw [goes, Target.route.injEq] at same
      exact ne_of_mem_others built listed (List.mem_append_right _ listedFound) same

end Building

/-! ## The condition -/

/-- A plain path is matched by what its pieces take. -/
theorem takeAll_of_matches
    {routePath path : String}
    (plain : IsPlainPath routePath)
    (matched : Matches routePath path) :
    TakeAll (pathPieces routePath) path.toList := by
  obtain ⟨pattern, read, isSome⟩ := matched
  exact (Http.PathPattern.match?_pathPattern_isSome_iff plain read _).mp isSome

/-- A plain path matches what a plain path that it covers matches. -/
theorem matches_of_covers
    {general special path : String}
    {pattern : Http.PathPattern}
    (plainGeneral : IsPlainPath general)
    (plainSpecial : IsPlainPath special)
    (read : Http.PathPattern.ofText (pathPattern general) = .ok pattern)
    (covered : Covers general special)
    (matched : Matches special path) :
    Matches general path := by
  have taken := Http.PathPattern.takeAll_of_covers covered (takeAll_of_matches plainSpecial matched)
  refine ⟨pattern, read, ?_⟩
  rw [Http.PathPattern.match?_pathPattern_isSome_iff plainGeneral read]
  exact taken

/-- A plain path matches something that only those of other plain paths match that cover it. -/
theorem exists_matches
    {routePath : String}
    {pattern : Http.PathPattern}
    (plain : IsPlainPath routePath)
    (read : Http.PathPattern.ofText (pathPattern routePath) = .ok pattern)
    {others : List String}
    (plainOthers : ∀ other ∈ others, IsPlainPath other) :
    ∃ path, (pathParameters routePath = [] → path = routePath) ∧ Matches routePath path ∧
      ∀ other ∈ others, Matches other path → Covers other routePath := by
  -- fill in the parameters with what no other path has as a piece
  obtain ⟨filler, fills, fresh⟩ := Http.PathPattern.exists_filler (others.flatMap pathPieces)
  refine ⟨String.ofList (Http.PathPattern.fillPath filler routePath), ?_, ?_, ?_⟩
  · intro fixed
    rw [Http.PathPattern.fillPath_of_pathParameters_eq_nil fixed, String.ofList_toList]
  · refine ⟨pattern, read, ?_⟩
    rw [Http.PathPattern.match?_pathPattern_isSome_iff plain read, String.toList_ofList]
    exact Http.PathPattern.takeAll_fillPath fills routePath
  · intro other member matched
    have taken := takeAll_of_matches (plainOthers other member) matched
    rw [String.toList_ofList] at taken
    refine Http.PathPattern.covers_of_takeAll_fillPath fills ?_ plain taken
    exact fun piece => fresh (List.mem_flatMap.mpr ⟨other, member, piece⟩)

section Condition

variable {page : String → Http.Response} {settings : Settings}
variable {context : CompileContext (Hook World)}
variable {database : Database.ProcedureDatabase World} {procedures : List Procedure}
variable {application : Application World} {earlier later : List (Route (Hook World))}
variable {route : Route (Hook World)}

/-- A route is reachable exactly if no endpoint before it takes all paths that it matches. -/
theorem isReachable_iff_matches
    (built : build page settings context database procedures = .ok application)
    (listed : application.table.routes = earlier ++ route :: later) :
    IsReachable application route ↔
      ∃ path, (route.pathParameters = [] → path = route.path) ∧ Matches route.path path ∧
        ∀ site ∈ sites earlier, site.1 = route.method → ¬Matches site.2 path := by
  obtain ⟨before, endpoint, after, endpoints, placed, own, target, distinct⟩ :=
    exists_endpoints built listed
  have flipped : List.Forall₂ (flip IsAt) before (sites earlier) := placed.flip
  unfold IsReachable
  rw [endpoints, ← target]
  simp only [Http.exists_dispatch_iff distinct, serves_iff own, Route.key, true_and]
  refine exists_congr fun path => and_congr_right fun _ => and_congr_right fun _ => ?_
  constructor
  · intro unserved site member same matched
    obtain ⟨other, listedOther, placedOther⟩ := exists_of_forall₂ placed member
    exact unserved other listedOther ((serves_iff placedOther _ _).mpr ⟨same, matched⟩)
  · intro unmatched other member serves
    obtain ⟨site, listedSite, placedOther⟩ := exists_of_forall₂ flipped member
    obtain ⟨same, matched⟩ := (serves_iff placedOther _ _).mp serves
    exact unmatched site listedSite same matched

/--
A route of an application is reachable exactly if no endpoint before it takes all paths that
it matches.  If the paths are plain, then this is so exactly if none of those with its method
covers its path.
-/
theorem isReachable_iff
    (built : build page settings context database procedures = .ok application)
    (listed : application.table.routes = earlier ++ route :: later) :
    (IsReachable application route ↔
      ∃ path, (route.pathParameters = [] → path = route.path) ∧ Matches route.path path ∧
        ∀ site ∈ sites earlier, site.1 = route.method → ¬Matches site.2 path) ∧
    ((∀ other ∈ earlier ++ [route], IsPlainPath other.path) →
      (IsReachable application route ↔
        ∀ site ∈ sites earlier, site.1 = route.method → ¬Covers site.2 route.path)) := by
  have condition := isReachable_iff_matches built listed
  refine ⟨condition, fun plain => ?_⟩
  obtain ⟨before, endpoint, after, endpoints, placed, own, -, -⟩ := exists_endpoints built listed
  have plainRoute : IsPlainPath route.path := plain route (by simp)
  have plainSites : ∀ site ∈ sites earlier, IsPlainPath site.2 := by
    have plainOwn : ∀ site ∈ ownSites, IsPlainPath site.2 := by decide +kernel
    intro site member
    obtain member | member := List.mem_append.mp member
    · exact plainOwn site member
    · obtain ⟨other, listedOther, rfl⟩ := List.mem_map.mp member
      exact plain other (List.mem_append_left _ listedOther)
  rw [condition]
  constructor
  · rintro ⟨path, -, matched, unmatched⟩ site member same covered
    obtain ⟨other, -, -, read⟩ := exists_of_forall₂ placed member
    refine unmatched site member same ?_
    exact matches_of_covers (plainSites site member) plainRoute read covered matched
  · intro uncovered
    have plainPaths : ∀ other ∈ (sites earlier).map Prod.snd, IsPlainPath other := by
      intro other member
      obtain ⟨site, listedSite, rfl⟩ := List.mem_map.mp member
      exact plainSites site listedSite
    obtain ⟨path, own, matched, covers⟩ := exists_matches plainRoute own.2 plainPaths
    refine ⟨path, own, matched, fun site member same matchedOther => ?_⟩
    exact uncovered site member same (covers _ (List.mem_map_of_mem member) matchedOther)

end Condition

/-! ## Two catalogs -/

/-- Procedures for all users and for one of them. -/
def userProcedures : List Procedure := [{ name := "api_get_user" }, { name := "api_get_user.id." }]

/-- Both procedures get requests. -/
theorem isReachable_userProcedures :
    ∃ application, build missingPage {} {} Lifecycle.idleDatabase userProcedures = .ok application ∧
      application.table.routes.map Route.key = [(.get, "/user"), (.get, "/user/:id")] ∧
      ∀ route ∈ application.table.routes, IsReachable application route := by
  have keys : (build missingPage {} {} Lifecycle.idleDatabase userProcedures).toOption.map
      (fun application => application.table.routes.map Route.key) =
        some [(.get, "/user"), (.get, "/user/:id")] := by
    decide +kernel
  obtain ⟨application, built, keys⟩ := exists_ok_of_toOption_map keys
  refine ⟨application, built, keys, ?_⟩
  obtain ⟨all, _, routes, allKey, keys⟩ := List.map_eq_cons_iff.mp keys
  obtain ⟨one, _, rfl, oneKey, keys⟩ := List.map_eq_cons_iff.mp keys
  obtain rfl := List.map_eq_nil_iff.mp keys
  have allPath : all.path = "/user" := congrArg Prod.snd allKey
  have onePath : one.path = "/user/:id" := congrArg Prod.snd oneKey
  have plainAll : IsPlainPath all.path := by
    rw [allPath]
    decide +kernel
  have plainOne : IsPlainPath one.path := by
    rw [onePath]
    decide +kernel
  have uncoveredAll : ∀ site ∈ ownSites, ¬Covers site.2 "/user" := by decide +kernel
  have uncoveredOne : ∀ site ∈ ownSites ++ [(.get, "/user")], ¬Covers site.2 "/user/:id" := by
    decide +kernel
  have listedAll : application.table.routes = [] ++ all :: [one] := routes
  have listedOne : application.table.routes = [all] ++ one :: [] := routes
  intro route member
  rw [routes, List.mem_pair] at member
  obtain rfl | rfl := member
  · refine ((isReachable_iff built listedAll).2 ?_).mpr ?_
    · simpa using plainAll
    · rw [allPath, sites, List.map_nil, List.append_nil]
      exact fun site listed _ => uncoveredAll site listed
  · refine ((isReachable_iff built listedOne).2 ?_).mpr ?_
    · simpa using ⟨plainAll, plainOne⟩
    · rw [onePath, sites, List.map_singleton, allKey]
      exact fun site listed _ => uncoveredOne site listed

/-- A procedure with the path of the endpoint that tells that the application is alive. -/
def healthProcedure : Procedure where
  name := "api_get_health"

/-- The procedure is compiled and served, but gets no request. -/
theorem not_isReachable_healthProcedure :
    ∃ application,
      build missingPage {} {} Lifecycle.idleDatabase [healthProcedure] = .ok application ∧
      application.table.routes.map Route.key = [(.get, "/health")] ∧
      ¬∀ route ∈ application.table.routes, IsReachable application route := by
  have keys : (build missingPage {} {} Lifecycle.idleDatabase [healthProcedure]).toOption.map
      (fun application => application.table.routes.map Route.key) =
        some [(.get, "/health")] := by
    decide +kernel
  obtain ⟨application, built, keys⟩ := exists_ok_of_toOption_map keys
  refine ⟨application, built, keys, fun reachable => ?_⟩
  obtain ⟨route, _, routes, key, keys⟩ := List.map_eq_cons_iff.mp keys
  obtain rfl := List.map_eq_nil_iff.mp keys
  have listed : application.table.routes = [] ++ route :: [] := routes
  obtain ⟨path, -, matched, unmatched⟩ :=
    (isReachable_iff_matches built listed).mp (reachable route (by simp [routes]))
  obtain ⟨method, routePath⟩ := Prod.mk.inj key
  -- the endpoint before it has the same method and path
  refine unmatched (.get, healthPath) (by simp [sites, ownSites]) method.symm ?_
  rw [routePath] at matched
  exact matched

end Application
end Service
end RoutineGate
