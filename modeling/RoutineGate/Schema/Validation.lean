import RoutineGate.Schema.Check
import RoutineGate.Schema.Dump

/-!
# Validation

A value is accepted by a schema, or refused with all issues of its parts.  Of the
alternatives of a union the one that fits best is taken: an exact match at once, else the
one that finds most fields, else the most exact one, and of equal ones the first.
-/

namespace RoutineGate
namespace Schema

/-- How well a value fits a schema. -/
structure Fit where
  /-- The least exactness of its parts, if it is asked for. -/
  exactness : Option Exactness := none
  /-- The number of fields that are found, if there are records. -/
  fields : Option Nat := none
  deriving DecidableEq, Repr

namespace Fit

/-- The fit before anything is checked. -/
def best : Fit := { exactness := some .exact }

def lower (fit : Fit) (exactness : Exactness) : Fit :=
  { fit with exactness := fit.exactness.map exactness.lower }

/-- Counts found fields. -/
def count (fit : Fit) (found : Nat) : Fit :=
  { fit with fields := some (fit.fields.getD 0 + found) }

/-- Whether no other alternative needs to be tried. -/
def isPerfect (fit : Fit) : Bool :=
  fit = best

/-- The rank of the exactness. -/
def rank (fit : Fit) : Nat :=
  (fit.exactness.map Exactness.rank).getD 0

def isBetter (fit earlier : Fit) : Bool :=
  match earlier.fields, fit.fields with
  | some least, some found => if least = found then earlier.rank < fit.rank else least < found
  | _, _ => earlier.rank < fit.rank

/-- The fit of a union from that of the taken alternative. -/
def take (fit taken : Fit) : Fit :=
  let lowered :=
    match taken.exactness with
    | some exactness => fit.lower exactness
    | none => fit
  match taken.fields with
  | some found => lowered.count found
  | none => lowered

/-- No fit is better than itself. -/
theorem isBetter_self (fit : Fit) : fit.isBetter fit = false := by
  simp only [isBetter]
  split
  · simp_all
  · simp

end Fit

/-- What validation results in. -/
abbrev Outcome := Except Refusal (Instance × Fit)

/-- Accepts what reading a scalar gives, after the steps. -/
def acceptScalar {Result : Type} (traits : Traits Value) (fit : Fit) (toValue : Result → Value) :
    Reading Result → Outcome
  | .ok (result, exactness) =>
      match runSteps traits.steps (toValue result) with
      | .ok value => .ok (.value value, fit.lower exactness)
      | .error refusal => .error refusal
  | .error violation => .error (.ofViolation violation)

/-- Accepts an allowed value that is found. -/
def acceptMember (fit : Fit) : Except Violation Value → Outcome
  | .ok found => .ok (.value found, fit)
  | .error violation => .error (.ofViolation violation)

/-- What the parts of a value come to: their issues, the accepted parts and the fit. -/
structure Collected (Part : Type) where
  issues : List Issue
  parts : List Part
  fit : Fit

namespace Collected

variable {Part : Type}

/-- Adds issues in front. -/
def addIssues (collected : Collected Part) (issues : List Issue) : Collected Part :=
  { collected with issues := issues ++ collected.issues }

/-- Adds an accepted part in front. -/
def addPart (collected : Collected Part) (part : Part) : Collected Part :=
  { collected with parts := part :: collected.parts }

end Collected

/-- Adds the outcome of one part at a place to those of the parts after it. -/
def collectPart {Part : Type} (place : Place) (toPart : Instance → Part) (fit : Fit)
    (rest : Fit → Except Fault (Collected Part)) : Outcome → Except Fault (Collected Part)
  | .ok (accepted, after) => (rest after).map fun collected => collected.addPart (toPart accepted)
  | .error (.issues issues) =>
      (rest fit).map fun collected => collected.addIssues (issues.map (Issue.under place))
  | .error (.fault fault) => .error fault

/-- Checks items one after the other. -/
def collectItems (check : Fit → Value → Outcome) (position : Nat) (fit : Fit) :
    List Value → Except Fault (Collected Instance)
  | [] => .ok ⟨[], [], fit⟩
  | item :: items =>
      collectPart (.index position) id fit
        (fun after => collectItems check (position + 1) after items) (check fit item)

/-- Makes an instance of parts without issues. -/
def assemble {Part : Type} (build : List Part → Fit → Outcome) :
    Except Fault (Collected Part) → Outcome
  | .ok ⟨[], parts, fit⟩ => build parts fit
  | .ok ⟨issues, _, _⟩ => .error (.issues issues)
  | .error fault => .error (.fault fault)

/-- Makes a list of accepted items, after the steps. -/
def buildList (traits : Traits Value) (items : List Instance) (fit : Fit) : Outcome :=
  match runLengthSteps traits.steps items.length with
  | .ok () => .ok (.list items, fit)
  | .error refusal => .error refusal

/-- Makes a record of accepted entries. -/
def buildRecord (way : List Nat) (fields : List (String × Schema Value))
    (entries : List (String × Instance)) (fit : Fit) : Outcome :=
  let dumped := (dumpFields .assured way 0 fields entries).getD []
  .ok (.record way entries dumped, fit.count entries.length)

/-- What trying alternatives comes to. -/
inductive Trial where
  | settled (accepted : Instance)
  | found (best : Option (Instance × Fit))
  | failed (fault : Fault)

/-- The better one of two candidates, the earlier one if they are equal. -/
def betterOf (earlier : Option (Instance × Fit)) (candidate : Instance × Fit) :
    Option (Instance × Fit) :=
  match earlier with
  | none => some candidate
  | some best => if candidate.2.isBetter best.2 then some candidate else some best

/-- The outcome of a union from trying its alternatives. -/
def Trial.outcome (fit : Fit) : Trial → Outcome
  | .settled accepted => .ok (accepted, .best)
  | .found (some (accepted, taken)) => .ok (accepted, fit.take taken)
  | .found none => .error (.ofViolation .noAlternative)
  | .failed fault => .error (.fault fault)

/-- Replaces all issues by the one that no alternative fits. -/
def collapse : Outcome → Outcome
  | .error (.issues _) => .error (.ofViolation .noAlternative)
  | outcome => outcome

/-- The name of a record schema within another schema. -/
def nestedModel : String := "Object"

/-- What a record holds for a field that it was sent without. -/
inductive FieldDefault where
  /-- Nothing: the field has to be sent. -/
  | required
  | value (value : Value)

/-- What a record holds for a field without a value: its default, or null if it may be left out. -/
def fieldDefault (field : Schema Value) : FieldDefault :=
  match field.effectiveDefault with
  | some value => .value value
  | none => if field.isRequired then .required else .value .null

/-- A field has to be sent exactly if it is required, as one with a default is not. -/
theorem fieldDefault_eq_required_iff {field : Schema Value} :
    fieldDefault field = .required ↔ field.isRequired = true := by
  cases given : field.effectiveDefault with
  | none => cases needed : field.isRequired <;> simp [fieldDefault, given, needed]
  | some value =>
      have optional : field.isRequired = false := by
        cases field <;> simp [isRequired, given]
      simp [fieldDefault, given, optional]

mutual

/-- Validates a value. -/
def validate (way : List Nat) (schema : Schema Value) (fit : Fit) (value : Value) : Outcome :=
  if schema.acceptsNullHere && value.nonNull?.isNone then .ok (.value value, fit)
  else
    match schema with
    | .any _ => .ok (.value value, fit.lower .strict)
    | .string traits coerce =>
        acceptScalar traits fit .text (readText (if coerce then coerceText value else value))
    | .number traits integer _ =>
        if integer then acceptScalar traits fit .int (readInteger value)
        else
          acceptScalar traits fit (fun read => .ofNumeral (integralNumeral read)) (readNumber value)
    | .boolean traits _ => acceptScalar traits fit .bool (readBoolean value)
    | .literal _ allowed => acceptMember fit (findMember [allowed] value)
    | .enumeration _ values => acceptMember fit (findMember values value)
    | .array traits item =>
        match value with
        | .list items =>
            assemble (buildList traits) (collectItems (validate (0 :: way) item) 0 fit items)
        | _ => .error (.ofViolation .notList)
    | .object _ fields =>
        match value with
        | .record entries =>
            assemble (buildRecord way fields) (validateFields way 0 fields entries (fit.lower .lax))
        | _ => .error (.ofViolation (.notRecord nestedModel))
    | .union _ options =>
        let kept := alternatives options
        if kept.length = 1 then collapse (validateOnly way kept 0 options fit value)
        else (tryOptions way kept value none 0 options).outcome fit
    | .custom _ _ inner => validate way inner fit value

/-- Validates the entries of a record, in the order of the fields. -/
def validateFields (way : List Nat) (position : Nat) :
    List (String × Schema Value) → List (String × Value) → Fit →
      Except Fault (Collected (String × Instance))
  | [], _, fit => .ok ⟨[], [], fit⟩
  | (key, field) :: fields, entries, fit =>
      match entries.lookup key with
      | some value =>
          collectPart (.key key) (fun accepted => (key, accepted)) fit
            (fun after => validateFields way (position + 1) fields entries after)
            (validate (position :: way) field fit value)
      | none =>
          let rest := validateFields way (position + 1) fields entries fit
          match fieldDefault field with
          | .required =>
              rest.map fun collected =>
                collected.addIssues [{ location := [.key key], violation := .missing }]
          | .value _ => rest

/-- Validates a value by the first of the options at some positions. -/
def validateOnly (way kept : List Nat) (position : Nat) :
    List (Schema Value) → Fit → Value → Outcome
  | [], _, _ => .error (.ofViolation .noAlternative)
  | option :: options, fit, value =>
      if kept.contains position then validate (position :: way) option fit value
      else validateOnly way kept (position + 1) options fit value

/-- Tries the options at some positions one after the other. -/
def tryOptions (way kept : List Nat) (value : Value) (best : Option (Instance × Fit))
    (position : Nat) : List (Schema Value) → Trial
  | [] => .found best
  | option :: options =>
      if kept.contains position then
        match validate (position :: way) option .best value with
        | .ok candidate =>
            if candidate.2.isPerfect then .settled candidate.1
            else
              tryOptions way kept value (betterOf best candidate) (position + 1) options
        | .error (.issues _) => tryOptions way kept value best (position + 1) options
        | .error (.fault fault) => .failed fault
      else tryOptions way kept value best (position + 1) options

end

/-- A field is validated if it is sent; otherwise it is an issue exactly if it is required. -/
theorem validateFields_cons
    (way : List Nat)
    (position : Nat)
    (key : String)
    (field : Schema Value)
    (fields : List (String × Schema Value))
    (entries : List (String × Value))
    (fit : Fit) :
    validateFields way position ((key, field) :: fields) entries fit =
      match entries.lookup key with
      | some value =>
          collectPart (.key key) (fun accepted => (key, accepted)) fit
            (fun after => validateFields way (position + 1) fields entries after)
            (validate (position :: way) field fit value)
      | none =>
          if field.isRequired then
            (validateFields way (position + 1) fields entries fit).map fun collected =>
              collected.addIssues [{ location := [.key key], violation := .missing }]
          else validateFields way (position + 1) fields entries fit := by
  rw [validateFields]
  cases entries.lookup key with
  | some value => rfl
  | none =>
      by_cases needed : field.isRequired = true
      · simp only [fieldDefault_eq_required_iff.mpr needed, needed, if_true]
      · simp only [needed]
        cases kept : fieldDefault field with
        | required => exact absurd (fieldDefault_eq_required_iff.mp kept) needed
        | value value => rfl

end Schema
end RoutineGate
