import RoutineGate.Number.Binary64
import RoutineGate.Pattern.Basic

/-!
# Schemas

A schema describes one field of a request: the kind of value it holds, whether it
may be left out or be null, its default, and the steps that a value of the right
kind passes through.  Defaults, descriptions, messages and the values of literals and
enumerations come from outside, so a schema is generic in their type.
-/

namespace RoutineGate

/-- A number as it is written: an integer of any size or a floating point number. -/
inductive Numeral where
  | int (number : Int)
  | float (number : Binary64)
  deriving DecidableEq, Repr

namespace Schema

/-- Formats that a text can be required to have. -/
inductive Format where
  /-- A mail address. -/
  | email
  /-- An absolute link. -/
  | url
  /-- A universally unique identifier. -/
  | uuid
  /-- A date with an optional time, or a count of seconds. -/
  | datetime
  deriving DecidableEq, Repr

/-- The four strict and non-strict orders. -/
inductive Comparison where
  /-- Strictly above the bound. -/
  | above
  /-- At or above the bound. -/
  | atLeast
  /-- Strictly below the bound. -/
  | below
  /-- At or below the bound. -/
  | atMost
  deriving DecidableEq, Repr

/-- What one step checks or changes. -/
inductive Rule where
  /-- At least so many characters or items. -/
  | minLength (bound : Int)
  /-- At most so many characters or items. -/
  | maxLength (bound : Int)
  /-- Exactly so many characters or items. -/
  | exactLength (bound : Int)
  /-- A text in which the pattern is found. -/
  | pattern (pattern : Pattern)
  /-- A text of a known format. -/
  | format (format : Format)
  /-- Removes the blanks around a text. -/
  | trim
  /-- Changes a text to lower case. -/
  | lower
  /-- Changes a text to upper case. -/
  | upper
  /-- A number on one side of a bound. -/
  | compare (comparison : Comparison) (bound : Numeral)

/-- A rule with the message that replaces its own one. -/
structure Step (Datum : Type) where
  rule : Rule
  /-- The message of a failure, if the schema gives one. -/
  message : Option Datum := none

/-- What schemas of every kind have in common. -/
structure Traits (Datum : Type) where
  /-- Whether the field may be left out. -/
  isOptional : Bool := false
  /-- Whether the field may be null. -/
  isNullable : Bool := false
  /-- The value of a field that is left out. -/
  default : Option Datum := none
  /-- The description that is published with the field. -/
  description : Option Datum := none
  /-- The steps that a value of the right kind passes through, in order. -/
  steps : List (Step Datum) := []

end Schema

/-- A schema over a type of values. -/
inductive Schema (Datum : Type) where
  | any (traits : Schema.Traits Datum)
  /-- A text, or what is turned into one if `coerce` is set. -/
  | string (traits : Schema.Traits Datum) (coerce : Bool)
  | number (traits : Schema.Traits Datum) (integer coerce : Bool)
  /-- A truth value. -/
  | boolean (traits : Schema.Traits Datum) (coerce : Bool)
  | literal (traits : Schema.Traits Datum) (value : Datum)
  /-- One of several given values. -/
  | enumeration (traits : Schema.Traits Datum) (values : List Datum)
  | array (traits : Schema.Traits Datum) (item : Schema Datum)
  /-- A record with a schema for each declared key. -/
  | object (traits : Schema.Traits Datum) (fields : List (String × Schema Datum))
  /-- A value of one of several schemas. -/
  | union (traits : Schema.Traits Datum) (options : List (Schema Datum))
  | custom (traits : Schema.Traits Datum) (name : String) (inner : Schema Datum)

namespace Schema

variable {Datum : Type}

/-- The common part of a schema. -/
def traits : Schema Datum → Traits Datum
  | .any traits => traits
  | .string traits _ => traits
  | .number traits _ _ => traits
  | .boolean traits _ => traits
  | .literal traits _ => traits
  | .enumeration traits _ => traits
  | .array traits _ => traits
  | .object traits _ => traits
  | .union traits _ => traits
  | .custom traits _ _ => traits

/-- Replaces the common part of a schema. -/
def withTraits (schema : Schema Datum) (traits : Traits Datum) : Schema Datum :=
  match schema with
  | .any _ => .any traits
  | .string _ coerce => .string traits coerce
  | .number _ integer coerce => .number traits integer coerce
  | .boolean _ coerce => .boolean traits coerce
  | .literal _ value => .literal traits value
  | .enumeration _ values => .enumeration traits values
  | .array _ item => .array traits item
  | .object _ fields => .object traits fields
  | .union _ options => .union traits options
  | .custom _ name inner => .custom traits name inner

/-- The word for the kind of a schema. -/
def kind : Schema Datum → String
  | .any .. => "any"
  | .string .. => "string"
  | .number .. => "number"
  | .boolean .. => "boolean"
  | .literal .. => "literal"
  | .enumeration .. => "enum"
  | .array .. => "array"
  | .object .. => "object"
  | .union .. => "union"
  | .custom .. => "custom"

/-- The schema of a field that may be left out. -/
def optional (schema : Schema Datum) : Schema Datum :=
  schema.withTraits { schema.traits with isOptional := true }

/-- The schema of a field that may be null. -/
def nullable (schema : Schema Datum) : Schema Datum :=
  schema.withTraits { schema.traits with isNullable := true }

/-- The schema of a field that may be left out and may be null. -/
def nullish (schema : Schema Datum) : Schema Datum :=
  schema.withTraits { schema.traits with isOptional := true, isNullable := true }

/-- Gives a field the value that stands for it when it is left out. -/
def withDefault (schema : Schema Datum) (value : Datum) : Schema Datum :=
  schema.withTraits { schema.traits with default := some value }

/-- Describes a field. -/
def describe (schema : Schema Datum) (description : Option Datum) : Schema Datum :=
  schema.withTraits { schema.traits with description }

/-- Adds a step after those that a schema has. -/
def addStep (schema : Schema Datum) (step : Step Datum) : Schema Datum :=
  schema.withTraits { schema.traits with steps := schema.traits.steps ++ [step] }

/-- The default of a schema, or else that of the registered schema it stands for. -/
def effectiveDefault : Schema Datum → Option Datum
  | .custom traits _ inner => traits.default.or inner.effectiveDefault
  | schema => schema.traits.default

/-- Whether a field must be present. -/
def isRequired : Schema Datum → Bool
  | .custom traits name inner =>
      !traits.isOptional && (Schema.custom traits name inner).effectiveDefault.isNone &&
        inner.isRequired
  | schema => !schema.traits.isOptional && schema.effectiveDefault.isNone

@[simp] theorem traits_withTraits
    (schema : Schema Datum)
    (traits : Traits Datum) :
    (schema.withTraits traits).traits = traits := by
  cases schema <;> rfl

@[simp] theorem withTraits_traits (schema : Schema Datum) :
    schema.withTraits schema.traits = schema := by
  cases schema <;> rfl

@[simp] theorem kind_withTraits
    (schema : Schema Datum)
    (traits : Traits Datum) :
    (schema.withTraits traits).kind = schema.kind := by
  cases schema <;> rfl

/-- A step goes to the end. -/
@[simp] theorem steps_addStep
    (schema : Schema Datum)
    (step : Step Datum) :
    (schema.addStep step).traits.steps = schema.traits.steps ++ [step] := by
  simp [addStep]

end Schema
end RoutineGate
