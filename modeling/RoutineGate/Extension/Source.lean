import RoutineGate.Text.Split
import RoutineGate.Value.Basic

/-!
# Extension files

Hooks and validators are functions in files of a directory.  The files are visited in the
order of their paths, name by name, and the public functions of a file in the order of
their names.  A name is private if it starts with a low line.
-/

namespace RoutineGate
namespace Extension

/-- What a name in a file stands for. -/
inductive Definition (Function : Type) where
  | function (body : Function)
  /-- Something other than a function of the file itself. -/
  | other

/-- A file in a directory of extensions. -/
structure SourceFile (Function : Type) where
  /-- The path within the directory. -/
  path : String
  /-- What the file defines, in order. -/
  definitions : List (String × Definition Function) := []
  /-- The text of the failure that ends loading the file. -/
  failure : Option String := none

def isPrivate (name : String) : Bool :=
  ['_'].isPrefixOf name.toList

/-- What the names of extension files end with. -/
def fileEnd : String := ".py"

namespace SourceFile

variable {Function : Type}

/-- The names that make up the path of a file. -/
def components (file : SourceFile Function) : List String :=
  (Text.splitAt '/' file.path.toList).map String.ofList

def name (file : SourceFile Function) : String :=
  (file.components.getLast?).getD ""

def isLoaded (file : SourceFile Function) : Bool :=
  fileEnd.toList.isSuffixOf file.name.toList && !isPrivate file.name

/-- The function that a definition is under a public name. -/
def publicFunction? (definition : String × Definition Function) : Option (String × Function) :=
  match definition with
  | (name, .function body) => if isPrivate name then none else some (name, body)
  | (_, .other) => none

/-- The public functions of a file, sorted by name; of equal names the last one counts. -/
def publicFunctions (file : SourceFile Function) : List (String × Function) :=
  ((Value.gather file.definitions).filterMap publicFunction?).mergeSort
    fun left right => left.1 ≤ right.1

end SourceFile

/-- Why extensions are not loaded. -/
structure LoadError where
  path : String
  /-- The text of its failure. -/
  reason : String
  deriving DecidableEq, Repr

namespace LoadError

def message (error : LoadError) : String :=
  "Failed to import " ++ error.path ++ ": " ++ error.reason

end LoadError

variable {Function : Type}

/-- Whether a path comes no later than another one, by its components. -/
def isOrdered : List String → List String → Bool
  | [], _ => true
  | _, [] => false
  | first :: rest, other :: others =>
      if first = other then isOrdered rest others else first ≤ other

/-- The files that are loaded, sorted by path. -/
def loadedFiles (files : List (SourceFile Function)) : List (SourceFile Function) :=
  (files.filter SourceFile.isLoaded).mergeSort fun left right =>
    isOrdered left.components right.components

def loadFile (directory : String) (file : SourceFile Function) :
    Except LoadError (List (String × Function)) :=
  match file.failure with
  | some reason => .error { path := directory ++ "/" ++ file.path, reason }
  | none => .ok file.publicFunctions

def publicFunctions (directory : String) (files : List (SourceFile Function)) :
    Except LoadError (List (String × Function)) :=
  ((loadedFiles files).mapM (loadFile directory)).map List.flatten

/-- A directory without files has no functions. -/
theorem publicFunctions_nil (directory : String) :
    publicFunctions directory ([] : List (SourceFile Function)) = .ok [] := by
  simp [publicFunctions, loadedFiles, Except.map, pure, Except.pure]

end Extension
end RoutineGate
