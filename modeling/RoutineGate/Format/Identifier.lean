import RoutineGate.Text.Percent

/-!
# Universally unique identifiers

An identifier is written as thirty-two hexadecimal digits, alone or in groups of eight,
four, four, four and twelve; a grouped one may stand in braces or after `urn:uuid:`.
-/

namespace RoutineGate
namespace Format

/-- Removes a first part from a text, if the text starts with it. -/
def stripFront? (front : List Char) : List Char → Option (List Char)
  | chars => if front.isPrefixOf chars then some (chars.drop front.length) else none

/-- Whether a text consists of groups of digits of these sizes with hyphens between them. -/
def isGrouped : List Nat → List Char → Bool
  | [], chars => chars.isEmpty
  | [size], chars => chars.length = size && chars.all Text.isHexDigit
  | size :: sizes, chars =>
      (chars.take size).length = size && (chars.take size).all Text.isHexDigit &&
        match chars.drop size with
        | '-' :: rest => isGrouped sizes rest
        | _ => false

/-- The sizes of the groups of an identifier. -/
def groupSizes : List Nat := [8, 4, 4, 4, 12]

/-- Removes the braces around a text. -/
def stripBraces? (chars : List Char) : Option (List Char) :=
  match stripFront? ['\x7b'] chars with
  | some rest => if rest.getLast? = some '\x7d' then some rest.dropLast else none
  | none => none

/-- Whether a text is an identifier. -/
def isIdentifier (chars : List Char) : Bool :=
  isGrouped [32] chars || isGrouped groupSizes chars ||
    (stripBraces? chars).any (isGrouped groupSizes) ||
    (stripFront? "urn:uuid:".toList chars).any (isGrouped groupSizes)

end Format
end RoutineGate
