import RoutineGate.Expression.Method
import RoutineGate.Expression.Parser
import RoutineGate.Registry
import RoutineGate.Text.Blank

/-!
# Evaluating schema expressions

The only names are those of the builder, of the registered validators and of a few
constants; the only attributes are registered validators and the methods that a value
offers.  Whatever else an expression names is an error, wherever it stands.
-/

namespace RoutineGate

/--
A factory of validators, told by what a call of it results in: it takes nothing, so every
call results in the same.
-/
inductive ValidatorOutcome where
  /-- A value, which should be a schema. -/
  | value (value : Value)
  | failure (text : String)

/-- The schema that a call of a factory makes. -/
def ValidatorOutcome.schema? : ValidatorOutcome → Option (Schema Value)
  | .value (.schema node) => some node
  | _ => none

/-- A factory that has passed its self-test: a call of it makes a schema. -/
structure Validator where
  factory : ValidatorOutcome
  makesSchema : factory.schema?.isSome

namespace Validator

/-- Calls the factory. -/
def make (validator : Validator) : Schema Value :=
  validator.factory.schema?.get validator.makesSchema

/-- The factory that makes a given schema. -/
def ofSchema (node : Schema Value) : Validator := ⟨.value (.schema node), rfl⟩

@[simp] theorem make_ofSchema (node : Schema Value) : (ofSchema node).make = node := rfl

/-- A validator stands for the schema that it makes. -/
instance : Coe Validator (Schema Value) where
  coe := make

/-- What is told of schemas is told of validators by the schemas that they make. -/
instance {Result : Type} : Coe (Schema Value → Result) (Validator → Result) where
  coe tell validator := tell validator.make

end Validator

namespace Expression

/-- Registered validators. -/
abbrev Validators := Registry Validator

/-- What the names in expressions and in their patterns stand for. -/
structure Scope where
  /-- The validators that may be used. -/
  validators : Validators := .empty
  /-- The characters that may be named. -/
  characters : Text.CharacterNames := .ascii

/-- The scope of validators, with the names of the ASCII characters. -/
instance : Coe Validators Scope where
  coe validators := { validators }

/-- The scope without validators. -/
def Scope.empty : Scope := {}

/-- The value that a name stands for. -/
def nameValue? : String → Option Value
  | "true" => some (.bool true)
  | "false" => some (.bool false)
  | "null" => some .null
  | "undefined" => some .null
  | "z" => some .builder
  | "v" => some .validators
  | _ => none

/-- A value in a message about its use. -/
def describe : Value → String
  | .schema node => node.kind ++ " schema"
  | .method _ name => "'" ++ name ++ "'"
  | .validator name => "'" ++ name ++ "'"
  | .null => "null"
  | value => value.typeName

def attributeOf (validators : Validators) (target : Value) (name : String) (position : Nat) :
    Except Error Value :=
  match target with
  | .validators =>
      if validators.contains name then .ok (.validator name)
      else .error (.located (.unknownValidator name) position)
  | _ =>
      if hasMethod target name then .ok (.method target name)
      else
        match target, name with
        | .builder, "coerce" => .ok .coercions
        | _, _ => .error (.located (.unavailable name (describe target)) position)

/-- The error of a refused call. -/
def refusalError (name : String) (position : Nat) : Refusal → Error
  | .misuse misuse => .located (.refused name misuse.message) position
  | .fault fault => .fault fault

/-- Calls what may be called; for each call of a validator its factory makes a schema. -/
def callValue (scope : Scope) (function : Value) (arguments : List Value) (position : Nat) :
    Except Error Value :=
  match function with
  | .method target name =>
      match callMethod target name arguments scope.characters with
      | .ok node => .ok (.schema node)
      | .error refusal => .error (refusalError name position refusal)
  | .validator name =>
      if arguments.isEmpty then
        match scope.validators.get? name with
        | some validator => .ok (.schema (.custom {} name validator.make))
        | none => .error (.located (.unknownValidator name) position)
      else .error (refusalError name position (.misuse (.validatorArguments name)))
  | _ => .error (.located (.notCallable (describe function)) position)

/-- Whether a value may be called. -/
def isCallable : Value → Bool
  | .method .. => true
  | .validator .. => true
  | _ => false

mutual

/-- The value of an expression. -/
def evaluate (scope : Scope) : Expression → Except Error Value
  | .number value _ => .ok (Value.ofNumeral value)
  | .text content _ => .ok (.text content)
  | .identifier name position =>
      match nameValue? name with
      | some value => .ok value
      | none => .error (.located (.unknownName name) position)
  | .attribute target name position => do
      attributeOf scope.validators (← evaluate scope target) name position
  | .call function arguments position => do
      let function ← evaluate scope function
      if isCallable function then
        callValue scope function (← evaluateItems scope arguments) position
      else throw (.located (.notCallable (describe function)) position)
  | .list items _ => do
      return .list (← evaluateItems scope items)
  | .record entries _ => do
      return .record (Value.gather (← evaluateEntries scope entries))

/-- The values of several expressions, in order. -/
def evaluateItems (scope : Scope) : List Expression → Except Error (List Value)
  | [] => .ok []
  | item :: items => do
      let value ← evaluate scope item
      return value :: (← evaluateItems scope items)

/-- The values of keyed expressions, in order. -/
def evaluateEntries (scope : Scope) :
    List (String × Expression) → Except Error (List (String × Value))
  | [] => .ok []
  | (key, entry) :: entries => do
      let value ← evaluate scope entry
      return (key, value) :: (← evaluateEntries scope entries)

end

/-- Reads an expression. -/
def read (source : String) (characters : Text.CharacterNames := .ascii) :
    Except Error Expression := do
  ofTokens (← Token.scan source characters)

/--
The schema that an expression denotes.  Blanks around it do not count, and an empty
expression denotes any text.
-/
def compile (scope : Scope) (source : String) : Except Error (Schema Value) := do
  let source := Text.trimmed source
  if source.isEmpty then return .string {} false
  if maxLength < source.length then throw (.problem ⟨.tooLong, none⟩)
  match ← evaluate scope (← read source scope.characters) with
  | .schema node => return node
  | value => throw (.problem ⟨.notSchema (describe value), none⟩)

end Expression

namespace ValidatorOutcome

/-- The factory that compiles an expression. -/
def ofExpression (scope : Expression.Scope) (source : String) : ValidatorOutcome :=
  match Expression.compile scope source with
  | .ok node => .value (.schema node)
  | .error error => .failure error.message

end ValidatorOutcome

/-- Why a validator is not registered. -/
inductive ValidatorError where
  | duplicate (name : String)
  /-- Making the validator fails. -/
  | selfTest (name reason : String)
  | notSchema (name typeName : String)
  deriving DecidableEq, Repr

namespace ValidatorError

def message : ValidatorError → String
  | .duplicate name => "Duplicate custom validator '" ++ name ++ "'"
  | .selfTest name reason => "Custom validator '" ++ name ++ "' failed its self-test: " ++ reason
  | .notSchema name typeName =>
      "Custom validator '" ++ name ++ "' must return a schema, got " ++ typeName

end ValidatorError

namespace Expression

/-- Why a factory fails its self-test, given that it does. -/
def selfTestError (name : String) : ValidatorOutcome → ValidatorError
  | .failure reason => .selfTest name reason
  | .value value => .notSchema name value.typeName

/--
Registers a factory under a free name, if a first call of it makes a schema.  What is kept
is the factory, not the schema.
-/
def Validators.register (validators : Validators) (name : String) (factory : ValidatorOutcome) :
    Except ValidatorError Validators :=
  if validators.contains name then .error (.duplicate name)
  else if makesSchema : factory.schema?.isSome then .ok (validators.add name ⟨factory, makesSchema⟩)
  else .error (selfTestError name factory)

/-- Registers validators one after the other. -/
def Validators.registerAll (validators : Validators) :
    List (String × ValidatorOutcome) → Except ValidatorError Validators
  | [] => .ok validators
  | (name, factory) :: rest => do
      Validators.registerAll (← validators.register name factory) rest

/-- Registers schema expressions, each compiled against those registered before it. -/
def Validators.compileAll (validators : Validators) :
    List (String × String) → Except ValidatorError Validators
  | [] => .ok validators
  | (name, source) :: rest => do
      Validators.compileAll
        (← validators.register name (ValidatorOutcome.ofExpression validators source)) rest

end Expression
end RoutineGate
