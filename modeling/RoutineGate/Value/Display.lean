import RoutineGate.Number.Shortest
import RoutineGate.Text.Quoted
import RoutineGate.Value.Basic

/-!
# Values in messages

Messages show values with their types: texts are quoted, lists stand in brackets,
records in braces, and a schema shows all its parts.
-/

namespace RoutineGate

/-- A truth value in a message. -/
def displayBool (flag : Bool) : String :=
  if flag then "True" else "False"

/-- A number in a message. -/
def Numeral.display : Numeral → String
  | .int number => toString number
  | .float number => number.text

/-- Items in round brackets, with a comma after a single one. -/
def displayTuple : List String → String
  | [] => "()"
  | [item] => "(" ++ item ++ ",)"
  | items => "(" ++ ", ".intercalate items ++ ")"

namespace Schema

/-- The word for a rule. -/
def Rule.kind : Rule → String
  | .minLength _ => "min_length"
  | .maxLength _ => "max_length"
  | .exactLength _ => "length"
  | .pattern _ => "pattern"
  | .format .email => "email"
  | .format .url => "url"
  | .format .uuid => "uuid"
  | .format .datetime => "datetime"
  | .trim => "trim"
  | .lower => "lower"
  | .upper => "upper"
  | .compare .above _ => "gt"
  | .compare .atLeast _ => "gte"
  | .compare .below _ => "lt"
  | .compare .atMost _ => "lte"

def Rule.argument : Rule → Value
  | .minLength bound => .int bound
  | .maxLength bound => .int bound
  | .exactLength bound => .int bound
  | .pattern expected => .text expected.source
  | .compare _ bound => Value.ofNumeral bound
  | _ => .null

end Schema

namespace Value

/-- The argument of a rule in a message. -/
def displayArgument (rule : Schema.Rule) : String :=
  match rule with
  | .minLength bound => toString bound
  | .maxLength bound => toString bound
  | .exactLength bound => toString bound
  | .pattern expected => Text.quoted expected.source
  | .compare _ bound => bound.display
  | _ => "None"

mutual

/-- A value in a message. -/
def display : Value → String
  | .null => "None"
  | .bool flag => displayBool flag
  | .int number => toString number
  | .float number => number.text
  | .text content => Text.quoted content
  | .list items => "[" ++ ", ".intercalate (displayItems items) ++ "]"
  | .record entries => "\x7b" ++ ", ".intercalate (displayEntries entries) ++ "\x7d"
  | .status affectedRows lastInsertId =>
      "CallStatus(affected_rows=" ++ toString affectedRows ++ ", last_insert_id=" ++
        (match lastInsertId with
          | none => "None"
          | some number => toString number) ++ ")"
  | .schema node => displaySchema node
  | .builder => "SchemaBuilder()"
  | .coercions => "CoerceBuilder()"
  | .validators => "_ValidatorNamespace()"
  | .method target name =>
      "_BoundMethod(target=" ++ display target ++ ", name=" ++ Text.quoted name ++ ")"
  | .validator name => "_ValidatorCall(name=" ++ Text.quoted name ++ ")"

/-- The items of a list in a message. -/
def displayItems : List Value → List String
  | [] => []
  | item :: items => display item :: displayItems items

/-- The entries of a record in a message. -/
def displayEntries : List (String × Value) → List String
  | [] => []
  | (key, value) :: entries =>
      (Text.quoted key ++ ": " ++ display value) :: displayEntries entries

/-- An optional value in a message, with the word for its absence. -/
def displayOption (absent : String) : Option Value → String
  | none => absent
  | some value => display value

/-- The steps of a schema in a message. -/
def displaySteps : List (Schema.Step Value) → List String
  | [] => []
  | ⟨rule, message⟩ :: steps =>
      ("Step(kind=" ++ Text.quoted rule.kind ++ ", value=" ++ displayArgument rule ++
        ", message=" ++ displayOption "None" message ++ ")") :: displaySteps steps

/-- The common part of a schema in a message. -/
def displayTraits : Schema.Traits Value → String
  | ⟨isOptional, isNullable, default, description, steps⟩ =>
      "is_optional=" ++ displayBool isOptional ++ ", is_nullable=" ++ displayBool isNullable ++
        ", default_value=" ++ displayOption "MISSING" default ++
        ", description=" ++ displayOption "None" description ++
        ", steps=" ++ displayTuple (displaySteps steps)

/-- A schema in a message. -/
def displaySchema : Schema Value → String
  | .any traits => "AnyNode(" ++ displayTraits traits ++ ")"
  | .string traits coerce =>
      "StringNode(" ++ displayTraits traits ++ ", coerce=" ++ displayBool coerce ++ ")"
  | .number traits integer coerce =>
      "NumberNode(" ++ displayTraits traits ++ ", integer=" ++ displayBool integer ++
        ", coerce=" ++ displayBool coerce ++ ")"
  | .boolean traits coerce =>
      "BooleanNode(" ++ displayTraits traits ++ ", coerce=" ++ displayBool coerce ++ ")"
  | .literal traits value =>
      "LiteralNode(" ++ displayTraits traits ++ ", value=" ++ display value ++ ")"
  | .enumeration traits values =>
      "EnumNode(" ++ displayTraits traits ++ ", values=" ++
        displayTuple (displayItems values) ++ ")"
  | .array traits item =>
      "ArrayNode(" ++ displayTraits traits ++ ", item=" ++ displaySchema item ++ ")"
  | .object traits fields =>
      "ObjectNode(" ++ displayTraits traits ++ ", fields=" ++
        displayTuple (displayFields fields) ++ ")"
  | .union traits options =>
      "UnionNode(" ++ displayTraits traits ++ ", options=" ++
        displayTuple (displaySchemas options) ++ ")"
  | .custom traits name inner =>
      "CustomNode(" ++ displayTraits traits ++ ", name=" ++ Text.quoted name ++
        ", inner=" ++ displaySchema inner ++ ")"

/-- Several schemas in a message. -/
def displaySchemas : List (Schema Value) → List String
  | [] => []
  | node :: nodes => displaySchema node :: displaySchemas nodes

/-- The fields of an object schema in a message. -/
def displayFields : List (String × Schema Value) → List String
  | [] => []
  | (key, node) :: fields =>
      ("(" ++ Text.quoted key ++ ", " ++ displaySchema node ++ ")") :: displayFields fields

end

/-- A value as plain text: a text stands for itself. -/
def plain : Value → String
  | .text content => content
  | value => value.display

mutual

/-- Whether two values are equal; numbers and truth values are compared by magnitude. -/
def same : Value → Value → Bool
  | .null, .null => true
  | .text left, .text right => left = right
  | .list left, .list right => sameItems left right
  | .record left, .record right => left.length = right.length && sameEntries left right
  | left, right =>
      match left.numeral?, right.numeral? with
      | some left, some right => left.same right
      | _, _ => false

/-- Whether two lists have equal items. -/
def sameItems : List Value → List Value → Bool
  | [], [] => true
  | left :: lefts, right :: rights => same left right && sameItems lefts rights
  | _, _ => false

/-- Whether every entry of one record is an entry of another. -/
def sameEntries : List (String × Value) → List (String × Value) → Bool
  | [], _ => true
  | (key, value) :: entries, others =>
      (match others.lookup key with
        | some other => same value other
        | none => false) && sameEntries entries others

end

end Value
end RoutineGate
