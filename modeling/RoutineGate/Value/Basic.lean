import RoutineGate.Schema.Basic

/-!
# Values

Values are what requests carry, what procedures take and return, and what schema
expressions denote.  Besides data they comprise schemas and the entities that the
expression language offers: the builders, their methods and registered validators.
-/

namespace RoutineGate

/-- Data of a request or a result, or what a schema expression denotes. -/
inductive Value where
  | null
  | bool (flag : Bool)
  /-- An integer of any size. -/
  | int (number : Int)
  | float (number : Binary64)
  | text (content : String)
  | list (items : List Value)
  /-- Values under keys, in order of their first appearance. -/
  | record (entries : List (String × Value))
  /-- What a procedure call reports after its result sets. -/
  | status (affectedRows : Int) (lastInsertId : Option Int)
  | schema (node : Schema Value)
  /-- The entity that schemas are built with. -/
  | builder
  /-- The entity that coercing schemas are built with. -/
  | coercions
  /-- The entity that gives access to registered validators. -/
  | validators
  | method (target : Value) (name : String)
  | validator (name : String)

namespace Value

instance : Inhabited Value := ⟨.null⟩

def ofNumeral : Numeral → Value
  | .int number => .int number
  | .float number => .float number

/-- The word for the type of a value. -/
def typeName : Value → String
  | .null => "NoneType"
  | .bool _ => "bool"
  | .int _ => "int"
  | .float _ => "float"
  | .text _ => "str"
  | .list _ => "list"
  | .record _ => "dict"
  | .status .. => "CallStatus"
  | .schema node =>
      match node with
      | .any .. => "AnyNode"
      | .string .. => "StringNode"
      | .number .. => "NumberNode"
      | .boolean .. => "BooleanNode"
      | .literal .. => "LiteralNode"
      | .enumeration .. => "EnumNode"
      | .array .. => "ArrayNode"
      | .object .. => "ObjectNode"
      | .union .. => "UnionNode"
      | .custom .. => "CustomNode"
  | .builder => "SchemaBuilder"
  | .coercions => "CoerceBuilder"
  | .validators => "_ValidatorNamespace"
  | .method .. => "_BoundMethod"
  | .validator .. => "_ValidatorCall"

/-- Whether a value counts as true: zero, and what is null or empty, does not. -/
def isTruthy : Value → Bool
  | .null => false
  | .bool flag => flag
  | .int number => number ≠ 0
  | .float number => !number.isZero
  | .text content => content ≠ ""
  | .list items => !items.isEmpty
  | .record entries => !entries.isEmpty
  | _ => true

/-- The value itself, or nothing if it is null. -/
def nonNull? : Value → Option Value
  | .null => none
  | value => some value

/-- The value under a key of a record. -/
def get? (entries : List (String × Value)) (key : String) : Option Value :=
  entries.lookup key

/-- Sets the value under a key, in place if the key is there and at the end otherwise. -/
def put {Datum : Type}
    (key : String)
    (value : Datum) : List (String × Datum) → List (String × Datum)
  | [] => [(key, value)]
  | (other, old) :: rest =>
      if other = key then (key, value) :: rest
      else (other, old) :: put key value rest

/-- Gathers pairs into a record; of equal keys the last value stays at the first place. -/
def gather {Datum : Type}
    (pairs : List (String × Datum)) : List (String × Datum) :=
  pairs.foldl (fun entries pair => put pair.1 pair.2 entries) []

/-- A number with its type forgotten; truth values are the numbers zero and one. -/
def numeral? : Value → Option Numeral
  | .bool flag => some (.int (if flag then 1 else 0))
  | .int number => some (.int number)
  | .float number => some (.float number)
  | _ => none

end Value

namespace Numeral

instance : Coe Int Numeral := ⟨.int⟩

/-- Compares two numbers, exactly; an undefined number has no place. -/
def compare? : Numeral → Numeral → Option Ordering
  | .int left, .int right => some (Ord.compare left right)
  | .int left, .float right => (right.compareInt? left).map Ordering.swap
  | .float left, .int right => left.compareInt? right
  | .float left, .float right => left.compare? right

/-- Whether two numbers are equal, whatever their types. -/
def same (left right : Numeral) : Bool :=
  left.compare? right == some .eq

end Numeral

namespace Value

@[simp] theorem lookup_put_self {Datum : Type}
    (key : String)
    (value : Datum)
    (entries : List (String × Datum)) :
    (put key value entries).lookup key = some value := by
  induction entries with
  | nil => simp [put]
  | cons entry rest inductionHypothesis =>
      obtain ⟨other, old⟩ := entry
      by_cases same : other = key
      · simp [put, same]
      · have different : (key == other) = false := by simpa using Ne.symm same
        simp [put, same, List.lookup_cons, different, inductionHypothesis]

/-- Setting a key leaves all other keys alone. -/
theorem lookup_put_of_ne {Datum : Type}
    {key other : String}
    (different : other ≠ key)
    (value : Datum)
    (entries : List (String × Datum)) :
    (put key value entries).lookup other = entries.lookup other := by
  induction entries with
  | nil =>
      have apart : (other == key) = false := by simpa using different
      simp [put, List.lookup_cons, apart]
  | cons entry rest inductionHypothesis =>
      obtain ⟨head, old⟩ := entry
      by_cases same : head = key
      · subst same
        have apart : (other == head) = false := by simpa using different
        simp [put, List.lookup_cons, apart]
      · simp [put, same, List.lookup_cons, inductionHypothesis]

/-- The keys after setting one: it is added at the end unless it was there. -/
theorem keys_put {Datum : Type}
    (key : String)
    (value : Datum)
    (entries : List (String × Datum)) :
    (put key value entries).map Prod.fst =
      if key ∈ entries.map Prod.fst then entries.map Prod.fst
      else entries.map Prod.fst ++ [key] := by
  induction entries with
  | nil => simp [put]
  | cons entry rest inductionHypothesis =>
      obtain ⟨head, old⟩ := entry
      by_cases same : head = key
      · simp [put, same]
      · have different : ¬key = head := fun equal => same equal.symm
        simp only [put, same, if_false, List.map_cons, inductionHypothesis, List.mem_cons,
          different, false_or]
        split <;> simp

end Value
end RoutineGate
