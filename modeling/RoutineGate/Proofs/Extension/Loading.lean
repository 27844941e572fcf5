import Mathlib.Data.List.Lex
import RoutineGate.Proofs.Expression.Typing
import RoutineGate.Proofs.Extension.Registration
import RoutineGate.Proofs.Request.Merging

/-!
# Loading directories

Loading a directory calls for its functions one after the other, file by file in the order of the
paths and name by name within a file.  It ends with all of them registered, or with the problem of
the first file or the first call that fails.
-/

namespace RoutineGate

namespace Registry

variable {Entry Argument Problem : Type}

/-- Each of some calls succeeds in its turn. -/
def AllSucceed (call : String → Argument → Change Entry Problem Unit)
    (calls : List (String × Argument)) : Prop :=
  ∀ before name argument later, calls = before ++ (name, argument) :: later →
    Succeeds call before name argument

/-- What calls come to that end with the first one that fails. -/
inductive Runs (call : String → Argument → Change Entry Problem Unit)
    (calls : List (String × Argument)) : Except Problem (Registry Entry) → Prop
  | registered (succeed : AllSucceed call calls) : Runs call calls (.ok (afterCalls call calls))
  | refused {before later : List (String × Argument)} {name : String} {argument : Argument}
      {problem : Problem}
      (whole : calls = before ++ (name, argument) :: later)
      (succeed : AllSucceed call before)
      (fails : (perform (call name argument) (afterCalls call before)).1 = .error problem) :
      Runs call calls (.error problem)

variable {register : Registry Entry → String → Argument → Except Problem (Registry Entry)}
variable {call : String → Argument → Change Entry Problem Unit}

theorem allSucceed_concat
    {calls : List (String × Argument)}
    {name : String}
    {argument : Argument}
    (succeed : AllSucceed call calls)
    (succeeds : Succeeds call calls name argument) :
    AllSucceed call (calls ++ [(name, argument)]) := by
  intro before other next later whole
  obtain ⟨rfl, same⟩ | ⟨more, rfl⟩ := cases_of_concat_eq whole
  · obtain ⟨rfl, rfl⟩ := Prod.mk.inj same
    exact succeeds
  · exact succeed before other next more rfl

/-- Registering one after the other, up to the first failure, is a run of calls. -/
theorem runs_foldlM
    (inPlace : IsInPlace call register)
    (calls : List (String × Argument)) :
    Runs call calls
      (calls.foldlM (fun registry next => register registry next.1 next.2) .empty) := by
  -- The last call is taken off: what is before it is a run, and only one without failure goes on.
  induction calls using List.reverseRecOn with
  | nil =>
      refine .registered fun before name argument later whole => ?_
      exact absurd whole (by simp)
  | append_singleton calls last inductionHypothesis =>
      obtain ⟨name, argument⟩ := last
      simp only [List.foldlM_append, List.foldlM_cons, List.foldlM_nil, bind_pure]
      generalize calls.foldlM (fun registry next => register registry next.1 next.2) .empty =
        outcome at inductionHypothesis
      cases inductionHypothesis with
      | registered succeed =>
          have performed := inPlace name argument (afterCalls call calls)
          change Runs call _ (register (afterCalls call calls) name argument)
          cases made : register (afterCalls call calls) name argument with
          | ok next =>
              rw [made] at performed
              have run := Runs.registered
                (allSucceed_concat succeed (congrArg Prod.fst performed))
              rwa [afterCalls_concat, performed] at run
          | error problem =>
              rw [made] at performed
              exact .refused rfl succeed (congrArg Prod.fst performed)
      | refused whole succeed fails =>
          exact .refused (by rw [whole, List.append_assoc, List.cons_append]) succeed fails

end Registry

namespace Value

theorem nodup_keys_gather
    {Datum : Type}
    (pairs : List (String × Datum)) :
    ((gather pairs).map Prod.fst).Nodup :=
  (@gather_holds Datum (fun _ => True) pairs fun _ _ => trivial).1

/-- Where keys are distinct, an entry is what is found under its key. -/
theorem mem_iff_lookup
    {Datum : Type}
    {entries : List (String × Datum)}
    (distinct : (entries.map Prod.fst).Nodup)
    {key : String}
    {datum : Datum} :
    (key, datum) ∈ entries ↔ entries.lookup key = some datum := by
  induction entries with
  | nil => simp
  | cons entry entries inductionHypothesis =>
      obtain ⟨other, old⟩ := entry
      obtain ⟨absent, others⟩ := List.nodup_cons.mp distinct
      rw [List.mem_cons, inductionHypothesis others, List.lookup_cons]
      by_cases same : key = other
      · subst same
        have free : entries.lookup key = none :=
          List.lookup_eq_none_iff.mpr fun entry isIn => by
            have isKey : entry.1 ∈ entries.map Prod.fst := List.mem_map_of_mem isIn
            have differs : key ≠ entry.1 := fun same => absent (same ▸ isKey)
            simpa using differs
        simp [free, eq_comm]
      · have apart : (key == other) = false := by simpa using same
        simp [apart, same]

end Value

namespace Extension

variable {Function : Type}

/-! ## Files and their functions -/

namespace SourceFile

/-- A file defines a public function: the last that it lets the name stand for is that function. -/
def Defines (file : SourceFile Function) (name : String) (body : Function) : Prop :=
  isPrivate name = false ∧ file.definitions.reverse.lookup name = some (.function body)

/-- The public functions of a file, name by name. -/
structure Lists (file : SourceFile Function) (functions : List (String × Function)) : Prop where
  sorted : (functions.map Prod.fst).Pairwise (· < ·)
  mem_iff : ∀ name body, (name, body) ∈ functions ↔ file.Defines name body

theorem publicFunction?_eq_some_iff
    {definition : String × Definition Function}
    {name : String}
    {body : Function} :
    publicFunction? definition = some (name, body) ↔
      isPrivate name = false ∧ definition = (name, .function body) := by
  obtain ⟨other, meaning⟩ := definition
  cases meaning with
  | other => simp [publicFunction?]
  | function old =>
      simp only [publicFunction?, Option.ite_none_left_eq_some, Option.some.injEq, Prod.mk.injEq,
        Definition.function.injEq, Bool.not_eq_true]
      refine and_congr_left fun same => ?_
      rw [same.1]

theorem mem_publicFunctions_iff
    {file : SourceFile Function}
    {name : String}
    {body : Function} :
    (name, body) ∈ file.publicFunctions ↔ file.Defines name body := by
  have distinct := Value.nodup_keys_gather file.definitions
  rw [publicFunctions, List.mem_mergeSort, List.mem_filterMap, Defines, ← Value.lookup_gather,
    ← Value.mem_iff_lookup distinct]
  simp only [publicFunction?_eq_some_iff]
  constructor
  · rintro ⟨definition, isIn, isPublic, rfl⟩
    exact ⟨isPublic, isIn⟩
  · rintro ⟨isPublic, isIn⟩
    exact ⟨_, isIn, isPublic, rfl⟩

theorem keys_filterMap_publicFunction?_sublist (definitions : List (String × Definition Function)) :
    ((definitions.filterMap publicFunction?).map Prod.fst).Sublist
      (definitions.map Prod.fst) := by
  induction definitions with
  | nil => exact .slnil
  | cons definition definitions inductionHypothesis =>
      rw [List.filterMap_cons]
      cases kept : publicFunction? definition with
      | none => exact .cons _ inductionHypothesis
      | some function =>
          obtain ⟨-, rfl⟩ := publicFunction?_eq_some_iff.mp kept
          exact .cons_cons _ inductionHypothesis

/-- The public functions of a file are sorted, each of them once. -/
theorem lists_publicFunctions (file : SourceFile Function) : file.Lists file.publicFunctions := by
  have distinct := Value.nodup_keys_gather file.definitions
  refine ⟨?_, fun name body => mem_publicFunctions_iff⟩
  refine Registry.strictlySorted_keys_mergeSort Prod.fst (fun _ _ => decide_eq_true_iff) ?_
  exact distinct.sublist (keys_filterMap_publicFunction?_sublist _)

end SourceFile

/-- Paths are ordered name by name. -/
theorem isOrdered_iff
    {left right : List String} :
    isOrdered left right = true ↔ left ≤ right := by
  rw [← not_lt]
  fun_induction isOrdered left right with
  | case1 => simp
  | case2 left nonempty =>
      obtain ⟨first, rest, rfl⟩ := List.exists_cons_of_ne_nil nonempty
      simp
  | case3 rest other others inductionHypothesis =>
      rw [inductionHypothesis, List.cons_lt_cons_iff]
      simp only [lt_irrefl, true_and, false_or]
  | case4 first rest other others differs =>
      rw [List.cons_lt_cons_iff, decide_eq_true_iff]
      simp only [Ne.symm differs, false_and, or_false, not_lt]

/-- The files that are loaded, path by path. -/
structure InOrder (files ordered : List (SourceFile Function)) : Prop where
  perm : ordered.Perm (files.filter SourceFile.isLoaded)
  sorted : (ordered.map SourceFile.components).Pairwise (· ≤ ·)

theorem inOrder_loadedFiles (files : List (SourceFile Function)) :
    InOrder files (loadedFiles files) := by
  refine ⟨List.mergeSort_perm _ _, ?_⟩
  exact Registry.sorted_keys_mergeSort SourceFile.components (fun _ _ => isOrdered_iff) _

/-- All files that are loaded can be loaded, and the functions are theirs, file by file. -/
structure ListsAll (files : List (SourceFile Function)) (functions : List (String × Function)) :
    Prop where
  intact : ∀ file ∈ files, file.isLoaded = true → file.failure = none
  listed : ∃ ordered parts, InOrder files ordered ∧ functions = parts.flatten ∧
    List.Forall₂ SourceFile.Lists ordered parts

/-- What loading a directory comes to: nothing is called for unless all files can be loaded. -/
inductive Loads {Entry Argument Problem : Type}
    (call : String → Argument → Registry.Change Entry Problem Unit)
    (argument : Function → Argument) (directory : String) (files : List (SourceFile Function)) :
    Except (DirectoryError Problem) (Registry Entry) → Prop
  | unloaded {before after : List (SourceFile Function)} {file : SourceFile Function}
      {reason : String}
      (inOrder : InOrder files (before ++ file :: after))
      (intact : ∀ earlier ∈ before, earlier.failure = none)
      (fails : file.failure = some reason) :
      Loads call argument directory files
        (.error (.load { path := directory ++ "/" ++ file.path, reason }))
  | run {functions : List (String × Function)} {outcome : Except Problem (Registry Entry)}
      (lists : ListsAll files functions)
      (runs : Registry.Runs call (functions.map (Prod.map id argument)) outcome) :
      Loads call argument directory files (outcome.mapError .register)

theorem loadFile_eq_ok_iff
    {directory : String}
    {file : SourceFile Function}
    {functions : List (String × Function)} :
    loadFile directory file = .ok functions ↔
      file.failure = none ∧ file.publicFunctions = functions := by
  unfold loadFile
  cases file.failure <;> simp

theorem loadFile_eq_error_iff
    {directory : String}
    {file : SourceFile Function}
    {error : LoadError} :
    loadFile directory file = .error error ↔
      ∃ reason, file.failure = some reason ∧
        error = { path := directory ++ "/" ++ file.path, reason } := by
  unfold loadFile
  cases file.failure <;> simp [eq_comm]

theorem failure_eq_none_of_mapM
    {directory : String}
    {files : List (SourceFile Function)}
    {parts : List (List (String × Function))}
    (loaded : files.mapM (loadFile directory) = .ok parts) :
    ∀ file ∈ files, file.failure = none := by
  intro file isIn
  obtain ⟨functions, -, made⟩ := exists_of_forall₂ (mapM_eq_ok_iff.mp loaded) isIn
  exact (loadFile_eq_ok_iff.mp made).1

theorem publicFunctions_eq_ok
    {directory : String}
    {files : List (SourceFile Function)}
    {functions : List (String × Function)}
    (loaded : publicFunctions directory files = .ok functions) :
    ListsAll files functions := by
  have inOrder := inOrder_loadedFiles files
  obtain ⟨parts, made, rfl⟩ := map_eq_ok_iff.mp loaded
  refine ⟨fun file isIn isLoaded => ?_, _, parts, inOrder, rfl, (mapM_eq_ok_iff.mp made).imp ?_⟩
  · exact failure_eq_none_of_mapM made file
      (inOrder.perm.mem_iff.mpr (List.mem_filter.mpr ⟨isIn, isLoaded⟩))
  · intro file functions made
    obtain ⟨-, rfl⟩ := loadFile_eq_ok_iff.mp made
    exact file.lists_publicFunctions

theorem publicFunctions_eq_error
    {directory : String}
    {files : List (SourceFile Function)}
    {error : LoadError}
    (failed : publicFunctions directory files = .error error) :
    ∃ before file after reason, InOrder files (before ++ file :: after) ∧
      (∀ earlier ∈ before, earlier.failure = none) ∧ file.failure = some reason ∧
      error = { path := directory ++ "/" ++ file.path, reason } := by
  have inOrder := inOrder_loadedFiles files
  obtain ⟨before, file, after, parts, whole, loaded, fails⟩ :=
    mapM_eq_error_iff.mp (map_eq_error_iff.mp failed)
  obtain ⟨reason, failure, rfl⟩ := loadFile_eq_error_iff.mp fails
  rw [whole] at inOrder
  exact ⟨before, file, after, reason, inOrder, failure_eq_none_of_mapM loaded, failure, rfl⟩

/-! ## Loading -/

/-- Loading a directory registers its functions as calls for them would, in order. -/
theorem loads_loadDirectory
    {Entry Argument Problem : Type}
    {register : Registry Entry → String → Argument → Except Problem (Registry Entry)}
    {call : String → Argument → Registry.Change Entry Problem Unit}
    (inPlace : Registry.IsInPlace call register)
    {argument : Function → Argument}
    {registerAll : List (String × Function) → Except Problem (Registry Entry)}
    (oneByOne : ∀ functions, registerAll functions = functions.foldlM
      (fun registry next => register registry next.1 (argument next.2)) .empty)
    (directory : String)
    (files : List (SourceFile Function)) :
    Loads call argument directory files (loadDirectory registerAll directory files) := by
  unfold loadDirectory
  cases loaded : publicFunctions directory files with
  | error error =>
      obtain ⟨before, file, after, reason, inOrder, intact, fails, rfl⟩ :=
        publicFunctions_eq_error loaded
      exact .unloaded inOrder intact fails
  | ok functions =>
      have runs := Registry.runs_foldlM inPlace (functions.map (Prod.map id argument))
      rw [List.foldlM_map] at runs
      exact .run (publicFunctions_eq_ok loaded) (oneByOne functions ▸ runs)

theorem registerHooks_eq_foldlM
    {Hook : Type}
    (registry : Registry Hook)
    (functions : List (String × Hook)) :
    Registry.registerHooks registry functions = functions.foldlM
      (fun registry next => registry.registerHook next.1 (some next.2)) registry := by
  induction functions generalizing registry with
  | nil => rfl
  | cons function functions inductionHypothesis =>
      rw [Registry.registerHooks, List.foldlM_cons]
      exact bind_congr inductionHypothesis

theorem registerAll_eq_foldlM
    (registry : Expression.Validators)
    (functions : List (String × ValidatorOutcome)) :
    Expression.Validators.registerAll registry functions = functions.foldlM
      (fun registry next => Expression.Validators.register registry next.1 next.2) registry := by
  induction functions generalizing registry with
  | nil => rfl
  | cons function functions inductionHypothesis =>
      rw [Expression.Validators.registerAll, List.foldlM_cons]
      exact bind_congr inductionHypothesis

open Registry in
/-- A registry keeps what is registered first, and loading a directory is a run of calls for its
functions in order, which registers all of them or ends with an error. -/
theorem keepsFirst_and_loads :
    (∀ Hook : Type, IsInPlace (@hookCall Hook) registerHook ∧
      KeepsFirst (@hookCall Hook) id ∧
      ∀ directory files, Loads (@hookCall Hook) some directory files
        (loadHooks directory files)) ∧
    IsInPlace validatorCall Expression.Validators.register ∧
    KeepsFirst validatorCall validator? ∧
    ∀ directory files, Loads validatorCall id directory files (loadValidators directory files) :=
  ⟨fun _ => ⟨isInPlace_hookCall, keepsFirst_hookCall,
      loads_loadDirectory isInPlace_hookCall (registerHooks_eq_foldlM .empty)⟩,
    isInPlace_validatorCall, keepsFirst_validatorCall,
    loads_loadDirectory isInPlace_validatorCall (registerAll_eq_foldlM .empty)⟩

end Extension
end RoutineGate
