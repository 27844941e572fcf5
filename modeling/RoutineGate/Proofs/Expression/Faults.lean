import RoutineGate.Proofs.Expression.Scanning
import RoutineGate.Request.Schema

/-!
# Faults of schema expressions

An expression is compiled, or refused with a problem of the expression, unless compiling it gets
to a literal that cannot be read or to a call that asks for a number that cannot be computed
with.  Then it ends with a fault.
-/

namespace RoutineGate
namespace Expression

/-! ## Calls -/

section Arguments

variable {value : Value} {characters : Text.CharacterNames} {fault : Fault}

end Arguments

/-- A call of a method whose argument asks for a number that cannot be computed with. -/
inductive IsFaultyCall (characters : Text.CharacterNames) :
    Value → String → List Value → Fault → Prop
  | infinite {node : Schema Value} {name : String} {modifier : Modifier} {negative : Bool}
      {messages : List Value}
      (isLength : Modifier.named? node name = some modifier)
      (listed : modifier ∈ [.minLength, .maxLength, .exactLength])
      (few : messages.length ≤ 1) :
      IsFaultyCall characters (.schema node) name (.float (.infinite negative) :: messages)
        .infiniteInteger
  | repetition {node : Schema Value} {name source : String} {messages : List Value}
      (isPattern : Modifier.named? node name = some .pattern)
      (refused : Pattern.read source characters = .error .largeRepetition)
      (few : messages.length ≤ 1) :
      IsFaultyCall characters (.schema node) name (.text source :: messages) .largeRepetition

section Evaluation

variable {scope : Scope}

theorem evaluateItems_eq_mapM (items : List Expression) :
    evaluateItems scope items = items.mapM (evaluate scope) := by
  induction items with
  | nil => rfl
  | cons item items inductionHypothesis =>
      rw [evaluateItems, List.mapM_cons, inductionHypothesis]

theorem evaluateEntries_eq_mapM (entries : List (String × Expression)) :
    evaluateEntries scope entries = entries.mapM fun entry =>
      (evaluate scope entry.2).map fun value => (entry.1, value) := by
  induction entries with
  | nil => rfl
  | cons entry entries inductionHypothesis =>
      rw [evaluateEntries, List.mapM_cons, inductionHypothesis]
      cases evaluate scope entry.2 <;> rfl

/--
Evaluating an expression gets to a call of a method of a value with arguments: what is evaluated
before the call has a value.
-/
inductive Reaches (scope : Scope) : Expression → Value → String → List Value → Prop
  | call {function : Expression} {arguments : List Expression} {position : Nat}
      {target : Value} {name : String} {values : List Value}
      (isMethod : evaluate scope function = .ok (.method target name))
      (areValues : evaluateItems scope arguments = .ok values) :
      Reaches scope (.call function arguments position) target name values
  | function {function : Expression} {arguments : List Expression} {position : Nat}
      {target : Value} {name : String} {values : List Value}
      (reaches : Reaches scope function target name values) :
      Reaches scope (.call function arguments position) target name values
  | argument {function argument : Expression} {before after : List Expression} {position : Nat}
      {callee : Value} {done : List Value} {target : Value} {name : String} {values : List Value}
      (isCallee : evaluate scope function = .ok callee)
      (callable : isCallable callee = true)
      (areDone : evaluateItems scope before = .ok done)
      (reaches : Reaches scope argument target name values) :
      Reaches scope (.call function (before ++ argument :: after) position) target name values
  | inner {inner : Expression} {label : String} {position : Nat}
      {target : Value} {name : String} {values : List Value}
      (reaches : Reaches scope inner target name values) :
      Reaches scope (.attribute inner label position) target name values
  | item {item : Expression} {before after : List Expression} {position : Nat}
      {done : List Value} {target : Value} {name : String} {values : List Value}
      (areDone : evaluateItems scope before = .ok done)
      (reaches : Reaches scope item target name values) :
      Reaches scope (.list (before ++ item :: after) position) target name values
  | entry {key : String} {entry : Expression} {before after : List (String × Expression)}
      {position : Nat} {done : List (String × Value)} {target : Value} {name : String}
      {values : List Value}
      (areDone : evaluateEntries scope before = .ok done)
      (reaches : Reaches scope entry target name values) :
      Reaches scope (.record (before ++ (key, entry) :: after) position) target name values

/--
A fault that is not reported as a problem of an expression: that of a literal that scanning gets
to, or of a call that evaluation gets to.
-/
inductive Escapes (scope : Scope) (source : String) : Fault → Prop
  | literal {place : Nat} {kind : Token.Kind} {literal : List Char} {fault : Fault}
      (short : (Text.trimmed source).length ≤ maxLength)
      (reads : Token.Reads scope.characters 0 (Text.trimmed source).toList place kind literal)
      (faulty : Token.IsFaulty scope.characters kind literal fault) :
      Escapes scope source fault
  | call {expression : Expression} {target : Value} {name : String} {arguments : List Value}
      {fault : Fault}
      (short : (Text.trimmed source).length ≤ maxLength)
      (isExpression : read (Text.trimmed source) scope.characters = .ok expression)
      (reaches : Reaches scope expression target name arguments)
      (faulty : IsFaultyCall scope.characters target name arguments fault) :
      Escapes scope source fault

end Evaluation

end Expression

namespace Request

end Request
end RoutineGate
