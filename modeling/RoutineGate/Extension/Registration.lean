import RoutineGate.Expression.Evaluation
import RoutineGate.Extension.Source
import RoutineGate.Registry

/-!
# Registration of extensions

The functions of a directory are registered one after the other under their names.  The
first one that cannot be registered ends it.
-/

namespace RoutineGate

/-- Why a hook is not registered. -/
inductive HookError where
  | duplicate (name : String)
  /-- What is registered cannot be called. -/
  | notCallable (name : String)
  deriving DecidableEq, Repr

namespace HookError

def message : HookError → String
  | .duplicate name => "Duplicate hook function '" ++ name ++ "'"
  | .notCallable name => "Hook '" ++ name ++ "' is not callable"

end HookError

namespace Registry

variable {Hook : Type}

/-- Registers a hook under a free name; nothing stands for what cannot be called. -/
def registerHook (registry : Registry Hook) (name : String) (hook? : Option Hook) :
    Except HookError (Registry Hook) :=
  if registry.contains name then .error (.duplicate name)
  else
    match hook? with
    | some hook => .ok (registry.add name hook)
    | none => .error (.notCallable name)

/-- Registers hooks one after the other. -/
def registerHooks (registry : Registry Hook) :
    List (String × Hook) → Except HookError (Registry Hook)
  | [] => .ok registry
  | (name, hook) :: rest => do
      registerHooks (← registry.registerHook name (some hook)) rest

/-- Under a name that is taken nothing is registered. -/
theorem registerHook_of_contains
    {registry : Registry Hook}
    {name : String}
    (taken : registry.contains name = true)
    (hook? : Option Hook) :
    registry.registerHook name hook? = .error (.duplicate name) := by
  simp [registerHook, taken]

end Registry

namespace Extension

/-- Why a directory of extensions is not loaded. -/
inductive DirectoryError (Problem : Type) where
  /-- A file cannot be loaded. -/
  | load (error : LoadError)
  /-- A function cannot be registered. -/
  | register (problem : Problem)

/-- Loads the functions of a directory and registers them. -/
def loadDirectory {Function Result Problem : Type}
    (register : List (String × Function) → Except Problem Result) (directory : String)
    (files : List (SourceFile Function)) : Except (DirectoryError Problem) Result :=
  match publicFunctions directory files with
  | .ok functions => (register functions).mapError .register
  | .error error => .error (.load error)

def loadHooks {Hook : Type} (directory : String) (files : List (SourceFile Hook)) :
    Except (DirectoryError HookError) (Registry Hook) :=
  loadDirectory (Registry.registerHooks .empty) directory files

def loadValidators (directory : String) (files : List (SourceFile ValidatorOutcome)) :
    Except (DirectoryError ValidatorError) Expression.Validators :=
  loadDirectory (Expression.Validators.registerAll .empty) directory files

end Extension
end RoutineGate
