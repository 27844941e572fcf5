import RoutineGate.Number.Reading
import RoutineGate.Pattern.Basic
import RoutineGate.Text.Quoted

/-!
# Why a text is not a pattern
-/

namespace RoutineGate
namespace Pattern

/-- A fault in the writing of a pattern. -/
inductive Fault where
  /-- The text ends after a backslash. -/
  | escapeAtEnd
  /-- An escape that means nothing. -/
  | badEscape (escape : String)
  /-- An escape with too few digits. -/
  | incompleteEscape (escape : String)
  /-- An octal escape beyond one byte. -/
  | largeOctal (escape : String)
  /-- An unknown name of a character. -/
  | unknownCharacter (name : String)
  /-- Something is not there. -/
  | missing (what : String)
  /-- A name that has no end. -/
  | unterminatedName (terminator : String)
  /-- A group name with a character that names do not have. -/
  | badName (name : String)
  /-- A group name that no group has. -/
  | unknownName (name : String)
  /-- A group name that is given twice. -/
  | repeatedName (name : String) (group earlier : Nat)
  /-- The group number zero. -/
  | badNumber
  /-- A number that no group has. -/
  | unknownGroup (group : Nat)
  /-- A reference to a group from inside of it. -/
  | openGroup
  /-- A reference to a group of the same condition on what stands before. -/
  | groupOfLookbehind
  /-- A range whose ends are not in order. -/
  | badRange (first last : String)
  /-- A character set that has no end. -/
  | unterminatedSet
  /-- A comment that has no end. -/
  | unterminatedComment
  /-- A group that has no end. -/
  | unterminatedGroup
  /-- The end of a group that has no start. -/
  | unbalanced
  /-- The text ends inside the start of a group. -/
  | unexpectedEnd
  /-- An unknown kind of group. -/
  | unknownExtension (extension : String)
  /-- A condition with more than two branches. -/
  | manyBranches
  /-- A repetition of nothing. -/
  | nothingToRepeat
  /-- A repetition of a repetition. -/
  | multipleRepeat
  /-- Bounds of a repetition that are not in order. -/
  | reversedBounds
  /-- Flags for the whole pattern that do not stand at its start. -/
  | lateFlags
  /-- An unknown flag. -/
  | unknownFlag
  /-- The flag for the classes of a locale. -/
  | localeFlag
  /-- Flags that exclude each other. -/
  | incompatibleFlags
  /-- A group that sets or clears a flag that only a whole pattern has. -/
  | globalFlag (sets : Bool)
  /-- A flag that cannot be cleared. -/
  | permanentFlag
  /-- A flag that is set and cleared by the same group. -/
  | contradictoryFlag
  deriving DecidableEq, Repr

namespace Fault

def message : Fault → String
  | .escapeAtEnd => "bad escape (end of pattern)"
  | .badEscape escape => "bad escape " ++ escape
  | .incompleteEscape escape => "incomplete escape " ++ escape
  | .largeOctal escape => "octal escape value " ++ escape ++ " outside of range 0-0o377"
  | .unknownCharacter name => "undefined character name " ++ Text.quoted name
  | .missing what => "missing " ++ what
  | .unterminatedName terminator => "missing " ++ terminator ++ ", unterminated name"
  | .badName name => "bad character in group name " ++ Text.quoted name
  | .unknownName name => "unknown group name " ++ Text.quoted name
  | .repeatedName name group earlier =>
      "redefinition of group name " ++ Text.quoted name ++ " as group " ++ toString group ++
        "; was group " ++ toString earlier
  | .badNumber => "bad group number"
  | .unknownGroup group => "invalid group reference " ++ toString group
  | .openGroup => "cannot refer to an open group"
  | .groupOfLookbehind => "cannot refer to group defined in the same lookbehind subpattern"
  | .badRange first last => "bad character range " ++ first ++ "-" ++ last
  | .unterminatedSet => "unterminated character set"
  | .unterminatedComment => "missing ), unterminated comment"
  | .unterminatedGroup => "missing ), unterminated subpattern"
  | .unbalanced => "unbalanced parenthesis"
  | .unexpectedEnd => "unexpected end of pattern"
  | .unknownExtension extension => "unknown extension ?" ++ extension
  | .manyBranches => "conditional backref with more than two branches"
  | .nothingToRepeat => "nothing to repeat"
  | .multipleRepeat => "multiple repeat"
  | .reversedBounds => "min repeat greater than max repeat"
  | .lateFlags => "global flags not at the start of the expression"
  | .unknownFlag => "unknown flag"
  | .localeFlag => "bad inline flags: cannot use 'L' flag with a str pattern"
  | .incompatibleFlags => "bad inline flags: flags 'a', 'u' and 'L' are incompatible"
  | .globalFlag sets =>
      "bad inline flags: cannot turn " ++ (if sets then "on" else "off") ++ " global flag"
  | .permanentFlag => "bad inline flags: cannot turn off flags 'a', 'u' and 'L'"
  | .contradictoryFlag => "bad inline flags: flag turned on and off"

end Fault

/-- Why a text is not a pattern. -/
inductive Error where
  /-- A fault at a place of the text. -/
  | malformed (fault : Fault) (position : Nat)
  /-- A condition on what stands before whose width is not fixed. -/
  | variableLookbehind
  /-- A condition on what stands before whose width is too large to count. -/
  | longLookbehind
  /-- A repetition where none may be. -/
  | refusedRepetition (greed : Greed)
  /-- A bound of a repetition that is too large to count. -/
  | largeRepetition
  /-- A bound of a repetition that is not read as an integer. -/
  | integer (error : Number.IntegerError)
  /-- Flags for the whole pattern that exclude each other. -/
  | exclusiveFlags
  deriving DecidableEq, Repr

namespace Error

/-- Where a position is when the text has several lines: line and column, from one. -/
def lineAndColumn (source : List Char) (position : Nat) : Nat × Nat :=
  let before := source.take position
  (before.count '\n' + 1, (before.reverse.takeWhile (· != '\n')).length + 1)

def message (source : String) : Error → String
  | .malformed fault position =>
      let chars := source.toList
      let place := fault.message ++ " at position " ++ toString position
      if chars.contains '\n' then
        let (line, column) := lineAndColumn chars position
        place ++ " (line " ++ toString line ++ ", column " ++ toString column ++ ")"
      else place
  | .variableLookbehind => "look-behind requires fixed-width pattern"
  | .longLookbehind => "looks too much behind"
  | .refusedRepetition greed => "internal: unsupported template operator " ++ greed.name
  | .largeRepetition => "the repetition number is too large"
  | .integer error => error.message
  | .exclusiveFlags => "ASCII and UNICODE flags are incompatible"

end Error
end Pattern
end RoutineGate
