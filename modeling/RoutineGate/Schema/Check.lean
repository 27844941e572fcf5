import RoutineGate.Format.Identifier
import RoutineGate.Format.Link
import RoutineGate.Format.Mail
import RoutineGate.Format.Moment
import RoutineGate.Pattern.Reader
import RoutineGate.Pattern.Search
import RoutineGate.Schema.Violation
import RoutineGate.Text.Blank
import RoutineGate.Text.LetterCase

/-!
# Steps on values

A step either changes a text or checks a value and leaves it as it is.  The first check
that fails ends the run of the steps, and its message is that of the step if it has one.
A step on a value of a type that it is not made for is a fault.
-/

namespace RoutineGate
namespace Schema

/-- Whether a text has a format. -/
def Format.admits (expected : Format) (content : String) : Bool :=
  match expected with
  | .email => RoutineGate.Format.isMail content.toList
  | .url => RoutineGate.Format.isLink content.toList
  | .uuid => RoutineGate.Format.isIdentifier content.toList
  | .datetime => RoutineGate.Format.isMoment content.toList

def Comparison.admits (comparison : Comparison) (order : Ordering) : Bool :=
  match comparison with
  | .above => order == .gt
  | .atLeast => order != .lt
  | .below => order == .lt
  | .atMost => order != .gt

namespace Rule

/-- Whether a rule is about the number of characters or items. -/
def isLength : Rule → Bool
  | .minLength _ | .maxLength _ | .exactLength _ => true
  | _ => false

/-- Whether a rule is made for values of the type of a value. -/
def supports (rule : Rule) : Value → Bool
  | .text _ =>
      match rule with
      | .compare .. => false
      | _ => true
  | .int _ | .float _ =>
      match rule with
      | .compare .. => true
      | _ => false
  | .list _ => rule.isLength
  | _ => false

/-- The operation that a rule asks of a value. -/
def operation : Rule → String
  | .minLength _ | .maxLength _ | .exactLength _ => "__len__"
  | .pattern _ => "search"
  | .format _ => "validate"
  | .trim => "strip"
  | .lower => "lower"
  | .upper => "upper"
  | .compare .. => "compare"

/-- Whether a rule admits a number of characters or items. -/
def admitsLength (rule : Rule) (length : Nat) : Bool :=
  match rule with
  | .minLength bound => bound ≤ length
  | .maxLength bound => length ≤ bound
  | .exactLength bound => bound = length
  | _ => true

def admitsText (rule : Rule) (content : String) : Bool :=
  match rule with
  | .pattern expected => expected.isFoundIn content
  | .format expected => expected.admits content
  | _ => rule.admitsLength content.length

/-- Whether a rule admits a number. -/
def admitsNumeral (rule : Rule) (numeral : Numeral) : Bool :=
  match rule with
  | .compare comparison bound => (numeral.compare? bound).any comparison.admits
  | _ => true

def admits (rule : Rule) : Value → Bool
  | .text content => rule.admitsText content
  | .int whole => rule.admitsNumeral (.int whole)
  | .float decimal => rule.admitsNumeral (.float decimal)
  | .list items => rule.admitsLength items.length
  | _ => true

/-- The text that a rule makes of a text. -/
def changeText (rule : Rule) (content : String) : String :=
  match rule with
  | .trim => Text.trimmed content
  | .lower => Text.lower content
  | .upper => Text.upper content
  | _ => content

/-- The value that a rule makes of a value. -/
def change (rule : Rule) : Value → Value
  | .text content => .text (rule.changeText content)
  | value => value

end Rule

namespace Step

def refusal (step : Step Value) : Refusal :=
  let default : Issue := { location := [], violation := .failedStep step.rule }
  match step.message with
  | none => .issues [default]
  | some (.text content) =>
      .issues [if content.isEmpty then default else { default with message? := some content }]
  | some message =>
      if message.isTruthy then .fault (.messageNotText message.typeName) else .issues [default]

/-- Runs a step on a value. -/
def run (step : Step Value) (value : Value) : Except Refusal Value :=
  if step.rule.supports value then
    if step.rule.admits value then .ok (step.rule.change value) else .error step.refusal
  else .error (.fault (.lacksOperation value.typeName step.rule.operation))

/-- Runs a step on a list of some length. -/
def runLength (step : Step Value) (length : Nat) : Except Refusal Unit :=
  if step.rule.isLength then
    if step.rule.admitsLength length then .ok () else .error step.refusal
  else .error (.fault (.lacksOperation (Value.list []).typeName step.rule.operation))

end Step

/-- Runs steps on a value, in order. -/
def runSteps : List (Step Value) → Value → Except Refusal Value
  | [], value => .ok value
  | step :: steps, value =>
      match step.run value with
      | .ok changed => runSteps steps changed
      | .error refusal => .error refusal

/-- Runs steps on a list of some length, in order. -/
def runLengthSteps : List (Step Value) → Nat → Except Refusal Unit
  | [], _ => .ok ()
  | step :: steps, length =>
      match step.runLength length with
      | .ok () => runLengthSteps steps length
      | .error refusal => .error refusal

@[simp] theorem runSteps_nil (value : Value) : runSteps [] value = .ok value := rfl

/-- Steps run one after the other. -/
theorem runSteps_append
    (first second : List (Step Value))
    (value : Value) :
    runSteps (first ++ second) value = (runSteps first value).bind (runSteps second) := by
  induction first generalizing value with
  | nil => rfl
  | cons step steps inductionHypothesis =>
      simp only [List.cons_append, runSteps]
      split
      · exact inductionHypothesis _
      · rfl

end Schema
end RoutineGate
