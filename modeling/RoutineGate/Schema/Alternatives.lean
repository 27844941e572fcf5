import RoutineGate.Fault
import RoutineGate.Schema.Member

/-!
# Alternatives of a union

Two options of a union that describe the same values count once.  Options with steps and
those with records are never the same, and custom names do not matter.  To compare two
options, the values that they allow must be comparable, which lists and records are not.
-/

namespace RoutineGate
namespace Schema

/-- The first list or record among values, by the word for its type. -/
def compositeType? (values : List Value) : Option String :=
  (values.find? isComposite).map Value.typeName

/--
What schemas that describe the same values have in common.  Whether null is among the values
stands apart.
-/
inductive Shape where
  | any
  | text
  /-- What a text is made of. -/
  | coercedText
  | number
  | integer
  | boolean
  /-- One of several scalars, in any order. -/
  | members (values : List Value)
  | list (nullable : Bool) (item : Shape)
  /-- A value of one of several shapes, in any order. -/
  | union (nullable : Bool) (options : List Shape)

/-- Whether all values are, with their types, among others. -/
def areAmong (values others : List Value) : Bool :=
  values.all fun value => others.any (sameWithType value)

namespace Shape

mutual

/-- Whether two shapes are the same. -/
def same : Shape → Shape → Bool
  | .any, .any => true
  | .text, .text => true
  | .coercedText, .coercedText => true
  | .number, .number => true
  | .integer, .integer => true
  | .boolean, .boolean => true
  | .members values, .members others => areAmong values others && areAmong others values
  | .list nullable item, .list otherNullable otherItem =>
      nullable == otherNullable && item.same otherItem
  | .union nullable options, .union otherNullable others =>
      nullable == otherNullable && allAmong options others && others.all (hasAmong options)
  | _, _ => false

/-- Whether each of several shapes is the same as one of some others. -/
def allAmong : List Shape → List Shape → Bool
  | [], _ => true
  | shape :: shapes, others =>
      others.any (fun other => shape.same other) && allAmong shapes others

/-- Whether one of several shapes is the same as another shape. -/
def hasAmong : List Shape → Shape → Bool
  | [], _ => false
  | shape :: shapes, other => shape.same other || hasAmong shapes other

end

end Shape

/-- The shape of a schema with traits, if there are no steps, and whether it accepts null. -/
def traitsShape? (traits : Traits Value) (shape? : Option Shape) : Option (Bool × Shape) :=
  if traits.steps.isEmpty then shape?.map fun shape => (traits.isNullable, shape) else none

/-- The shape of a choice from values, if each is a scalar that equals itself. -/
def membersShape? (values : List Value) : Option Shape :=
  if values.all fun value => !isComposite value && value.same value then some (.members values)
  else none

mutual

/-- The shape of a schema, if schemas of its kind can be the same, and whether it accepts null. -/
def shape? : Schema Value → Option (Bool × Shape)
  | .any traits => traitsShape? traits (some .any)
  | .string traits coerce => traitsShape? traits (some (if coerce then .coercedText else .text))
  | .number traits integer _ => traitsShape? traits (some (if integer then .integer else .number))
  | .boolean traits _ => traitsShape? traits (some .boolean)
  | .literal traits value => traitsShape? traits (membersShape? [value])
  | .enumeration traits values => traitsShape? traits (membersShape? values)
  | .array traits item =>
      traitsShape? traits (item.shape?.map fun shape => .list shape.1 shape.2)
  | .object .. => none
  | .union traits options =>
      traitsShape? traits <| (shapes? options).map fun shapes =>
        .union (shapes.any Prod.fst) (shapes.map Prod.snd)
  | .custom traits _ inner =>
      inner.shape?.map fun shape => (traits.isNullable || shape.1, shape.2)

/-- The shapes of several schemas, if each has one. -/
def shapes? : List (Schema Value) → Option (List (Bool × Shape))
  | [] => some []
  | option :: options =>
      match option.shape?, shapes? options with
      | some shape, some shapes => some (shape :: shapes)
      | _, _ => none

end

/-- Whether a schema accepts null, under its own name or a custom one. -/
def acceptsNull : Schema Value → Bool
  | .custom traits _ inner => traits.isNullable || inner.acceptsNull
  | schema => schema.traits.isNullable

/-- Whether a schema accepts null itself, or as a union one of whose options does. -/
def acceptsNullHere : Schema Value → Bool
  | .union traits options => traits.isNullable || options.any acceptsNull
  | schema => schema.traits.isNullable

/-- The positions of the options that remain when repeated ones are left out. -/
def distinctPositions (seen : List Shape) (position : Nat) : List (Schema Value) → List Nat
  | [] => []
  | option :: options =>
      match option.shape? with
      | some shape =>
          if Shape.hasAmong seen shape.2 then distinctPositions seen (position + 1) options
          else position :: distinctPositions (shape.2 :: seen) (position + 1) options
      | none => position :: distinctPositions seen (position + 1) options

/-- The positions of the distinct options of a union. -/
def alternatives (options : List (Schema Value)) : List Nat :=
  distinctPositions [] 0 options

mutual

/-- The type of a value that keeps a schema from being compared. -/
def incomparable? : Schema Value → Option String
  | .literal _ value => compositeType? [value]
  | .enumeration _ values => compositeType? values
  | .array _ item => item.incomparable?
  | .union _ options => anyIncomparable? options
  | .custom _ _ inner => inner.incomparable?
  | _ => none

/-- The type of a value that keeps one of several schemas from being compared. -/
def anyIncomparable? : List (Schema Value) → Option String
  | [] => none
  | option :: options => option.incomparable?.or (anyIncomparable? options)

end

/-- The fault of a nullable schema that cannot be compared. -/
def nullableFault? (traits : Traits Value) (schema : Schema Value) : Option Fault :=
  if traits.isNullable then schema.incomparable?.map Fault.notComparable else none

mutual

/-- Why a schema cannot be used: an option of a union within it cannot be compared. -/
def fault? (schema : Schema Value) : Option Fault :=
  match schema with
  | .array traits item => item.fault?.or (nullableFault? traits schema)
  | .object _ fields => fieldFault? fields
  | .union _ options => (optionFault? options).or (schema.incomparable?.map Fault.notComparable)
  | .custom traits _ inner => inner.fault?.or (nullableFault? traits schema)
  | _ => nullableFault? schema.traits schema

/-- Why the first unusable one of several fields cannot be used. -/
def fieldFault? : List (String × Schema Value) → Option Fault
  | [] => none
  | (_, field) :: fields => field.fault?.or (fieldFault? fields)

/-- Why the first unusable one of several options cannot be used. -/
def optionFault? : List (Schema Value) → Option Fault
  | [] => none
  | option :: options => option.fault?.or (optionFault? options)

end

end Schema
end RoutineGate
