import RoutineGate.Fault
import RoutineGate.Pattern.Reader
import RoutineGate.Value.Display

/-!
# Methods of the expression language

The builder makes schemas, and each kind of schema has modifiers.  A method checks the
number of its arguments first and then their types.
-/

namespace RoutineGate
namespace Expression

/-- The parameters of a method. -/
structure Signature where
  /-- What declares the method. -/
  owner : String
  /-- The name of the method. -/
  method : String
  /-- The parameter that has to be given, if there is one. -/
  required : Option String := none
  /-- Whether a message may be given after it. -/
  takesMessage : Bool := false
  deriving DecidableEq, Repr

/-- Why a method refuses its arguments. -/
inductive Misuse where
  /-- More arguments than parameters. -/
  | tooMany (signature : Signature) (given : Nat)
  /-- No argument for a parameter that needs one. -/
  | missing (signature : Signature) (parameter : String)
  /-- A value that is no integer. -/
  | notInteger (display : String)
  /-- An undefined number in place of an integer. -/
  | undefinedInteger
  /-- A value that is no number. -/
  | notNumber (display : String)
  /-- A value that is no schema. -/
  | notSchema (place typeName : String)
  /-- A literal that is no scalar. -/
  | literalKind
  /-- An enumeration without values. -/
  | emptyEnumeration
  /-- A value without items. -/
  | notIterable (typeName : String)
  /-- A value without a length. -/
  | noLength (typeName : String)
  /-- A union of fewer than two schemas. -/
  | shortUnion
  /-- Fields that are no record. -/
  | notRecord
  /-- Arguments of a registered validator. -/
  | validatorArguments (name : String)
  /-- A text that is no pattern. -/
  | badPattern (reason : String)
  /-- A value that is no text. -/
  | notPattern
  /-- A value that cannot be looked up. -/
  | unhashable (typeName : String)
  deriving DecidableEq, Repr

namespace Misuse

def message : Misuse → String
  | .tooMany signature given =>
      let most := 1 + signature.required.toList.length
      let name := signature.owner ++ "." ++ signature.method ++ "()"
      let limit :=
        if signature.takesMessage then
          "from " ++ toString most ++ " to " ++ toString (most + 1) ++ " positional arguments"
        else
          toString most ++ " positional argument" ++ (if most = 1 then "" else "s")
      name ++ " takes " ++ limit ++ " but " ++ toString (given + 1) ++ " were given"
  | .missing signature parameter =>
      signature.owner ++ "." ++ signature.method ++
        "() missing 1 required positional argument: " ++ Text.quoted parameter
  | .notInteger display => "expected an integer, got " ++ display
  | .undefinedInteger => "cannot convert float NaN to integer"
  | .notNumber display => "expected a number, got " ++ display
  | .notSchema place typeName => place ++ " expects a schema, got " ++ typeName
  | .literalKind => "literal() accepts a string, number, boolean or null"
  | .emptyEnumeration => "enum() needs a non-empty list of values"
  | .notIterable typeName => "'" ++ typeName ++ "' object is not iterable"
  | .noLength typeName => "object of type '" ++ typeName ++ "' has no len()"
  | .shortUnion => "union() needs a list of at least two schemas"
  | .notRecord => "object() expects a mapping of field schemas"
  | .validatorArguments name => "custom validator '" ++ name ++ "' takes no arguments"
  | .badPattern reason => reason
  | .notPattern => "first argument must be string or compiled pattern"
  | .unhashable typeName => "unhashable type: '" ++ typeName ++ "'"

end Misuse

/-- Why a call has no value. -/
inductive Refusal where
  /-- The arguments are wrong. -/
  | misuse (misuse : Misuse)
  /-- The arguments ask for a number that cannot be computed with. -/
  | fault (fault : Fault)
  deriving DecidableEq, Repr

/-- The arguments of a call that fit a signature: the required one and the message. -/
def Signature.bind (signature : Signature) (arguments : List Value) :
    Except Refusal (Value × Option Value) :=
  let refuse (misuse : Misuse) : Except Refusal (Value × Option Value) :=
    .error (.misuse misuse)
  let withMessage (required : Value) (rest : List Value) :=
    match rest with
    | [] => .ok (required, none)
    | [message] =>
        if signature.takesMessage then .ok (required, message.nonNull?)
        else refuse (.tooMany signature arguments.length)
    | _ => refuse (.tooMany signature arguments.length)
  match signature.required, arguments with
  | none, rest => withMessage .null rest
  | some parameter, [] => refuse (.missing signature parameter)
  | some _, first :: rest => withMessage first rest

/-- What a method changes in a schema. -/
inductive Modifier where
  /-- Allows the field to be left out. -/
  | optional
  /-- Allows the field to be null. -/
  | nullable
  /-- Allows both. -/
  | nullish
  /-- Sets the default. -/
  | default
  /-- Sets the description. -/
  | describe
  /-- Requires so many characters or items. -/
  | minLength
  /-- Allows so many characters or items. -/
  | maxLength
  /-- Requires exactly so many characters or items. -/
  | exactLength
  /-- Requires a character or item. -/
  | nonempty
  /-- Requires that a pattern is found. -/
  | pattern
  /-- Requires a format. -/
  | format (format : Schema.Format)
  /-- Removes blanks around. -/
  | trim
  /-- Changes to lower case. -/
  | lower
  /-- Changes to upper case. -/
  | upper
  /-- Requires an integer. -/
  | integer
  /-- Compares with a bound. -/
  | bound (comparison : Schema.Comparison)
  /-- Compares with zero. -/
  | sign (comparison : Schema.Comparison)
  /-- Adds fields. -/
  | extend
  deriving DecidableEq, Repr

namespace Modifier

/-- The modifiers of every schema. -/
def common? : String → Option Modifier
  | "optional" => some .optional
  | "nullable" => some .nullable
  | "nullish" => some .nullish
  | "default" => some .default
  | "describe" => some .describe
  | _ => none

/-- The modifiers of a text. -/
def ofString? : String → Option Modifier
  | "min" => some .minLength
  | "max" => some .maxLength
  | "length" => some .exactLength
  | "nonempty" => some .nonempty
  | "regex" => some .pattern
  | "email" => some (.format .email)
  | "url" => some (.format .url)
  | "uuid" => some (.format .uuid)
  | "datetime" => some (.format .datetime)
  | "trim" => some .trim
  | "toLowerCase" => some .lower
  | "toUpperCase" => some .upper
  | _ => none

def ofNumber? : String → Option Modifier
  | "int" => some .integer
  | "min" => some (.bound .atLeast)
  | "max" => some (.bound .atMost)
  | "gt" => some (.bound .above)
  | "gte" => some (.bound .atLeast)
  | "lt" => some (.bound .below)
  | "lte" => some (.bound .atMost)
  | "positive" => some (.sign .above)
  | "nonnegative" => some (.sign .atLeast)
  | "negative" => some (.sign .below)
  | "nonpositive" => some (.sign .atMost)
  | _ => none

/-- The modifiers of a list. -/
def ofArray? : String → Option Modifier
  | "min" => some .minLength
  | "max" => some .maxLength
  | "length" => some .exactLength
  | "nonempty" => some .nonempty
  | _ => none

/-- The modifiers of a record. -/
def ofObject? : String → Option Modifier
  | "extend" => some .extend
  | _ => none

/-- The modifiers that only one kind of schema has. -/
def own? (schema : Schema Value) (name : String) : Option Modifier :=
  match schema with
  | .string .. => ofString? name
  | .number .. => ofNumber? name
  | .array .. => ofArray? name
  | .object .. => ofObject? name
  | _ => none

def named? (schema : Schema Value) (name : String) : Option Modifier :=
  (common? name).or (own? schema name)

/-- The parameters of a modifier of a schema under a name. -/
def signature (schema : Schema Value) (name : String) (modifier : Modifier) : Signature :=
  let owner := (Value.schema schema).typeName
  match modifier with
  | .default => ⟨"SchemaNode", name, some "value", false⟩
  | .describe => ⟨"SchemaNode", name, some "text", false⟩
  | .optional | .nullable | .nullish => ⟨"SchemaNode", name, none, false⟩
  | .minLength | .maxLength | .exactLength | .bound _ => ⟨owner, name, some "value", true⟩
  | .pattern => ⟨owner, name, some "pattern", true⟩
  | .nonempty | .format _ | .sign _ => ⟨owner, name, none, true⟩
  | .trim | .integer => ⟨owner, name, none, false⟩
  | .lower => ⟨owner, "to_lower_case", none, false⟩
  | .upper => ⟨owner, "to_upper_case", none, false⟩
  | .extend => ⟨owner, name, some "shape", false⟩

end Modifier

/-- The integer that a length is given by; a floating point number has to be integral. -/
def integerArgument (value : Value) : Except Refusal Int :=
  match value with
  | .int whole => .ok whole
  | .float given =>
      match given.truncate? with
      | some whole =>
          if given.isIntegral then .ok whole
          else .error (.misuse (.notInteger value.display))
      | none =>
          match given with
          | .infinite _ => .error (.fault .infiniteInteger)
          | _ => .error (.misuse .undefinedInteger)
  | _ => .error (.misuse (.notInteger value.display))

/-- The number that a bound is given by. -/
def numberArgument (value : Value) : Except Refusal Numeral :=
  match value with
  | .int whole => .ok (.int whole)
  | .float given => .ok (.float given)
  | _ => .error (.misuse (.notNumber value.display))

def schemaArgument (place : String) : Value → Except Refusal (Schema Value)
  | .schema node => .ok node
  | value => .error (.misuse (.notSchema place value.typeName))

/-- The schemas that the entries of a record have to be. -/
def fieldArguments : List (String × Value) → Except Refusal (List (String × Schema Value))
  | [] => .ok []
  | (key, value) :: entries => do
      let node ← schemaArgument ("object() field '" ++ key ++ "'") value
      return (key, node) :: (← fieldArguments entries)

/-- The fields that a record of schemas gives. -/
def shapeArgument : Value → Except Refusal (List (String × Schema Value))
  | .record entries => fieldArguments entries
  | _ => .error (.misuse .notRecord)

mutual

/-- The type of a part of a value that cannot be looked up, if there is one. -/
def unhashable? : Value → Option String
  | .list _ => some "list"
  | .record _ => some "dict"
  | .schema node => unhashableSchema? node
  | .method target _ => unhashable? target
  | _ => none

/-- The type of an optional value that cannot be looked up. -/
def unhashableOption? : Option Value → Option String
  | some value => unhashable? value
  | none => none

/-- The type of a message that cannot be looked up. -/
def unhashableSteps? : List (Schema.Step Value) → Option String
  | [] => none
  | ⟨_, message⟩ :: steps => (unhashableOption? message).or (unhashableSteps? steps)

/-- The type of a part of the traits of a schema that cannot be looked up. -/
def unhashableTraits? : Schema.Traits Value → Option String
  | ⟨_, _, default, description, steps⟩ =>
      (unhashableOption? default).or
        ((unhashableOption? description).or (unhashableSteps? steps))

/-- The type of a part of a schema that cannot be looked up. -/
def unhashableSchema? : Schema Value → Option String
  | .any traits => unhashableTraits? traits
  | .string traits _ => unhashableTraits? traits
  | .number traits _ _ => unhashableTraits? traits
  | .boolean traits _ => unhashableTraits? traits
  | .literal traits value => (unhashableTraits? traits).or (unhashable? value)
  | .enumeration traits values => (unhashableTraits? traits).or (unhashableItems? values)
  | .array traits item => (unhashableTraits? traits).or (unhashableSchema? item)
  | .object traits fields => (unhashableTraits? traits).or (unhashableFields? fields)
  | .union traits options => (unhashableTraits? traits).or (unhashableOptions? options)
  | .custom traits _ inner => (unhashableTraits? traits).or (unhashableSchema? inner)

/-- The type of one of several values that cannot be looked up. -/
def unhashableItems? : List Value → Option String
  | [] => none
  | value :: values => (unhashable? value).or (unhashableItems? values)

/-- The type of a part of a field that cannot be looked up. -/
def unhashableFields? : List (String × Schema Value) → Option String
  | [] => none
  | (_, node) :: fields => (unhashableSchema? node).or (unhashableFields? fields)

/-- The type of a part of an option that cannot be looked up. -/
def unhashableOptions? : List (Schema Value) → Option String
  | [] => none
  | node :: nodes => (unhashableSchema? node).or (unhashableOptions? nodes)

end

/-- The pattern that an argument has to be. -/
def patternArgument (value : Value) (characters : Text.CharacterNames := .ascii) :
    Except Refusal Pattern :=
  match value with
  | .text source =>
      match Pattern.read source characters with
      | .ok pattern => .ok pattern
      | .error .largeRepetition => .error (.fault .largeRepetition)
      | .error error => .error (.misuse (.badPattern (error.message source)))
  | _ =>
      match unhashable? value with
      | some typeName => .error (.misuse (.unhashable typeName))
      | none => .error (.misuse .notPattern)

/-- Changes a schema by a modifier with its arguments. -/
def Modifier.apply (modifier : Modifier) (schema : Schema Value) (value : Value)
    (message : Option Value) (characters : Text.CharacterNames := .ascii) :
    Except Refusal (Schema Value) :=
  let step (rule : Schema.Rule) : Schema Value := schema.addStep ⟨rule, message⟩
  match modifier with
  | .optional => .ok schema.optional
  | .nullable => .ok schema.nullable
  | .nullish => .ok schema.nullish
  | .default => .ok (schema.withDefault value)
  | .describe => .ok (schema.describe value.nonNull?)
  | .minLength => (integerArgument value).map fun bound => step (.minLength bound)
  | .maxLength => (integerArgument value).map fun bound => step (.maxLength bound)
  | .exactLength => (integerArgument value).map fun bound => step (.exactLength bound)
  | .nonempty => .ok (step (.minLength 1))
  | .pattern =>
      (patternArgument value characters).map fun pattern => step (.pattern pattern)
  | .format kind => .ok (step (.format kind))
  | .trim => .ok (step .trim)
  | .lower => .ok (step .lower)
  | .upper => .ok (step .upper)
  | .integer =>
      match schema with
      | .number traits _ coerce => .ok (.number traits true coerce)
      | _ => .ok schema
  | .bound comparison =>
      (numberArgument value).map fun bound => step (.compare comparison bound)
  | .sign comparison => .ok (step (.compare comparison (.int 0)))
  | .extend =>
      match schema with
      | .object traits fields =>
          (shapeArgument value).map fun added =>
            .object traits <|
              added.foldl (fun merged field => Value.put field.1 field.2 merged) fields
      | _ => .ok schema

/-- What the builder makes. -/
inductive Construction where
  /-- A text. -/
  | string
  /-- A number. -/
  | number
  /-- A truth value. -/
  | boolean
  /-- Any value. -/
  | any
  /-- One given value. -/
  | literal
  /-- One of several given values. -/
  | enumeration
  /-- A list. -/
  | array
  /-- A record. -/
  | object
  /-- One of several schemas. -/
  | union
  /-- A schema that may be left out. -/
  | optional
  /-- A schema that may be null. -/
  | nullable
  deriving DecidableEq, Repr

namespace Construction

/-- What the builder makes under a name. -/
def named? : String → Option Construction
  | "string" => some .string
  | "number" => some .number
  | "boolean" => some .boolean
  | "any" => some .any
  | "literal" => some .literal
  | "enum" => some .enumeration
  | "array" => some .array
  | "object" => some .object
  | "union" => some .union
  | "optional" => some .optional
  | "nullable" => some .nullable
  | _ => none

/-- What the builder of coercing schemas makes under a name. -/
def coercing? : String → Option Construction
  | "string" => some .string
  | "number" => some .number
  | "boolean" => some .boolean
  | _ => none

/-- The parameters of a construction under a name. -/
def signature (owner name : String) : Construction → Signature
  | .literal => ⟨owner, name, some "value", false⟩
  | .enumeration => ⟨owner, name, some "values", false⟩
  | .array => ⟨owner, name, some "item", false⟩
  | .object => ⟨owner, name, some "shape", false⟩
  | .union => ⟨owner, name, some "options", false⟩
  | .optional | .nullable => ⟨owner, name, some "node", false⟩
  | _ => ⟨owner, name, none, false⟩

def enumerationArgument (value : Value) : Except Refusal (List Value) :=
  match value with
  | .text _ => .error (.misuse .emptyEnumeration)
  | _ =>
      if !value.isTruthy then .error (.misuse .emptyEnumeration)
      else
        match value with
        | .list items => .ok items
        | .record entries => .ok (entries.map fun entry => .text entry.1)
        | _ => .error (.misuse (.notIterable value.typeName))

/-- The schemas of a union. -/
def optionArguments : List Value → Except Refusal (List (Schema Value))
  | [] => .ok []
  | value :: values => do
      let node ← schemaArgument "union()" value
      return node :: (← optionArguments values)

/-- The schemas of a union, at least two. -/
def unionArgument (value : Value) : Except Refusal (List (Schema Value)) :=
  let several (values : List Value) :=
    if values.length < 2 then .error (.misuse .shortUnion) else optionArguments values
  match value with
  | .text _ => .error (.misuse .shortUnion)
  | .list items => several items
  | .record entries => several (entries.map fun entry => .text entry.1)
  | _ => .error (.misuse (.noLength value.typeName))

/-- Whether a value may be a literal. -/
def isScalar : Value → Bool
  | .null | .bool _ | .int _ | .float _ | .text _ => true
  | _ => false

/-- Makes a schema of a value. -/
def build (construction : Construction) (coerce : Bool) (value : Value) :
    Except Refusal (Schema Value) :=
  match construction with
  | .string => .ok (.string {} coerce)
  | .number => .ok (.number {} false coerce)
  | .boolean => .ok (.boolean {} coerce)
  | .any => .ok (.any {})
  | .literal =>
      if isScalar value then .ok (.literal {} value) else .error (.misuse .literalKind)
  | .enumeration => (enumerationArgument value).map fun values => .enumeration {} values
  | .array => (schemaArgument "array()" value).map fun item => .array {} item
  | .object => (shapeArgument value).map fun fields => .object {} fields
  | .union => (unionArgument value).map fun options => .union {} options
  | .optional => (schemaArgument "optional()" value).map Schema.optional
  | .nullable => (schemaArgument "nullable()" value).map Schema.nullable

end Construction

def hasMethod (target : Value) (name : String) : Bool :=
  match target with
  | .builder => (Construction.named? name).isSome
  | .coercions => (Construction.coercing? name).isSome
  | .schema node => (Modifier.named? node name).isSome
  | _ => false

def callMethod (target : Value) (name : String) (arguments : List Value)
    (characters : Text.CharacterNames := .ascii) : Except Refusal (Schema Value) :=
  let construct (found : Option Construction) (coerce : Bool) : Except Refusal (Schema Value) :=
    match found with
    | some construction => do
        let (value, _) ← (construction.signature target.typeName name).bind arguments
        construction.build coerce value
    | none => .error (.misuse .notRecord)
  match target with
  | .builder => construct (Construction.named? name) false
  | .coercions => construct (Construction.coercing? name) true
  | .schema node =>
      match Modifier.named? node name with
      | some modifier => do
          let (value, message) ← (modifier.signature node name).bind arguments
          modifier.apply node value message characters
      | none => .error (.misuse .notRecord)
  | _ => .error (.misuse .notRecord)

end Expression
end RoutineGate
