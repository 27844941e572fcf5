import RoutineGate.Value.Basic

/-!
# Published schemas

The published form of a schema is a record of keywords: those of its kind, then those
of its steps in order, and at last its description and its default.  Of two steps that
write the same keyword the later one counts.
-/

namespace RoutineGate
namespace Schema

/-- The keywords of the bounds of a length, for texts and for lists. -/
def lengthKeywords (ofList : Bool) : String × String :=
  if ofList then ("minItems", "maxItems") else ("minLength", "maxLength")

/-- The keywords that a rule writes. -/
def Rule.keywords (ofList : Bool) : Rule → List (String × Value)
  | .minLength bound => [((lengthKeywords ofList).1, .int bound)]
  | .maxLength bound => [((lengthKeywords ofList).2, .int bound)]
  | .exactLength bound =>
      [((lengthKeywords ofList).1, .int bound), ((lengthKeywords ofList).2, .int bound)]
  | .pattern expected => [("pattern", .text expected.source)]
  | .format .email => [("format", .text "email")]
  | .format .uuid => [("format", .text "uuid")]
  | .format .url => [("format", .text "uri")]
  | .format .datetime => [("format", .text "date-time")]
  | .compare .above bound => [("exclusiveMinimum", Value.ofNumeral bound)]
  | .compare .atLeast bound => [("minimum", Value.ofNumeral bound)]
  | .compare .below bound => [("exclusiveMaximum", Value.ofNumeral bound)]
  | .compare .atMost bound => [("maximum", Value.ofNumeral bound)]
  | .trim | .lower | .upper => []

/-- Adds keywords; those that are there already change in place. -/
def addKeywords (keywords added : List (String × Value)) : List (String × Value) :=
  added.foldl (fun keywords entry => Value.put entry.1 entry.2 keywords) keywords

/-- Adds the keywords of steps in order. -/
def addStepKeywords (ofList : Bool) (keywords : List (String × Value))
    (steps : List (Step Value)) : List (String × Value) :=
  steps.foldl (fun keywords step => addKeywords keywords (step.rule.keywords ofList)) keywords

/-- Adds what the traits of a schema publish to the keywords of its kind. -/
def publishTraits (ofList : Bool) (traits : Traits Value) (base : List (String × Value)) :
    List (String × Value) :=
  let checked := addStepKeywords ofList base traits.steps
  let wrapped :=
    if traits.isNullable then
      [("anyOf", Value.list [.record checked, .record [("type", .text "null")]])]
    else checked
  let described :=
    match traits.description with
    | some description =>
        if description.isTruthy then Value.put "description" description wrapped else wrapped
    | none => wrapped
  match traits.default with
  | some value => Value.put "default" value described
  | none => described

/-- The keys of the fields that must be present. -/
def requiredKeys (fields : List (String × Schema Value)) : List String :=
  (fields.filter fun field => field.2.isRequired).map Prod.fst

mutual

/-- The keywords that publish a schema. -/
def publish : Schema Value → List (String × Value)
  | .any traits => publishTraits false traits []
  | .string traits _ => publishTraits false traits [("type", .text "string")]
  | .number traits integer _ =>
      publishTraits false traits [("type", .text (if integer then "integer" else "number"))]
  | .boolean traits _ => publishTraits false traits [("type", .text "boolean")]
  | .literal traits value => publishTraits false traits [("const", value)]
  | .enumeration traits values => publishTraits false traits [("enum", .list values)]
  | .array traits item =>
      publishTraits true traits [("type", .text "array"), ("items", .record (publish item))]
  | .object traits fields =>
      let required := requiredKeys fields
      publishTraits false traits
        ([("type", .text "object"), ("properties", .record (publishFields fields))] ++
          if required.isEmpty then [] else [("required", .list (required.map .text))])
  | .union traits options =>
      publishTraits false traits [("anyOf", .list (publishOptions options))]
  | .custom traits name inner =>
      let keywords := publish inner
      publishTraits false traits
        (if (keywords.lookup "title").isSome then keywords else keywords ++ [("title", .text name)])

/-- The published forms of fields under their keys. -/
def publishFields : List (String × Schema Value) → List (String × Value)
  | [] => []
  | (key, field) :: fields => (key, .record (publish field)) :: publishFields fields

/-- The published forms of options. -/
def publishOptions : List (Schema Value) → List Value
  | [] => []
  | option :: options => .record (publish option) :: publishOptions options

end

/-- The published form of a schema. -/
def published (schema : Schema Value) : Value :=
  .record schema.publish

end Schema
end RoutineGate
