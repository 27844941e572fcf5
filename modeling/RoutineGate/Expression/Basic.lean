import RoutineGate.Schema.Basic

/-!
# Schema expressions

An expression names values, takes attributes of them, calls methods, and writes
numbers, texts, lists and records.
-/

namespace RoutineGate

/-- An expression; every part keeps the position that its errors name. -/
inductive Expression where
  | number (value : Numeral) (position : Nat)
  /-- A text, or the source of a pattern. -/
  | text (content : String) (position : Nat)
  | identifier (name : String) (position : Nat)
  /-- A named attribute of a value. -/
  | attribute (target : Expression) (name : String) (position : Nat)
  | call (function : Expression) (arguments : List Expression) (position : Nat)
  | list (items : List Expression) (position : Nat)
  | record (entries : List (String × Expression)) (position : Nat)

namespace Expression

/-- How many expressions may be nested in one another. -/
def maxNesting : Nat := 32

/-- How many characters an expression may have. -/
def maxLength : Nat := 10000

end Expression
end RoutineGate
