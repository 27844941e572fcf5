import RoutineGate.Text.Blank
import RoutineGate.Text.Percent
import RoutineGate.Text.Printable
import RoutineGate.Text.Split

/-!
# Links

A link starts with a scheme.  For the schemes of the web a host must follow, after any
number of slashes; for other schemes a host follows two slashes and may be empty, and
without slashes everything is accepted.  Paths, queries and fragments are never at fault.
-/

namespace RoutineGate
namespace Format

/-- How a scheme determines what follows it. -/
inductive SchemeClass where
  /-- A scheme of the web, which needs a host. -/
  | web
  | file
  | plain
  deriving DecidableEq, Repr

namespace SchemeClass

def ofName (name : List Char) : SchemeClass :=
  let lowered := String.ofList (name.map Char.toLower)
  if ["http", "https", "ws", "wss", "ftp"].contains lowered then .web
  else if lowered = "file" then .file
  else .plain

/-- Whether a character starts the path, the query or the fragment. -/
def endsHost (scheme : SchemeClass) (char : Char) : Bool :=
  char = '/' || char = '?' || char = '#' || (scheme != .plain && char = '\\')

end SchemeClass

/-- Whether a text is a group of an address of 128 bits. -/
def isHexGroup (piece : List Char) : Bool :=
  !piece.isEmpty && piece.length ≤ 4 && piece.all Text.isHexDigit

/-- Whether a text is a number up to 255 without leading zeros. -/
def isOctet (piece : List Char) : Bool :=
  !piece.isEmpty && piece.all Char.isDigit && piece.length ≤ 3 &&
    (piece.head? != some '0' || piece.length = 1) && Text.ofDigitChars 10 piece ≤ 255

/-- Whether a text consists of four octets. -/
def isDottedQuad (piece : List Char) : Bool :=
  let octets := Text.splitAt '.' piece
  octets.length = 4 && octets.all isOctet

/--
How many groups some pieces make up; only the last one may be a dotted quad, which counts
twice.
-/
def countGroups? : List (List Char) → Option Nat
  | [] => some 0
  | [piece] =>
      if isHexGroup piece then some 1 else if isDottedQuad piece then some 2 else none
  | piece :: pieces =>
      if isHexGroup piece then (countGroups? pieces).map (· + 1) else none

/-- Whether pieces before and after an omission leave something to omit. -/
def isShortened (before after : List (List Char)) : Bool :=
  if after.isEmpty then (countGroups? before).any (· ≤ 7) && before.all isHexGroup
  else
    before.all isHexGroup && (countGroups? after).any fun count => before.length + count ≤ 7

/-- Whether a text is an address of 128 bits, with at most one omission. -/
def isLongAddress (chars : List Char) : Bool :=
  match Text.splitAt ':' chars with
  | [] :: [] :: rest => isShortened [] (if rest = [[]] then [] else rest)
  | pieces =>
      match pieces.span fun piece => !piece.isEmpty with
      | (before, []) => countGroups? before = some 8
      | (before, _ :: after) =>
          !before.isEmpty && !after.isEmpty &&
            isShortened before (if after = [[]] then [] else after)

/-- The value of a part of a numeric host: hexadecimal, octal or decimal, if it is one. -/
def hostNumber? (piece : List Char) : Option Nat :=
  let (base, digits) :=
    match piece with
    | '0' :: 'x' :: rest => (16, rest)
    | '0' :: 'X' :: rest => (16, rest)
    | '0' :: next :: rest => (8, next :: rest)
    | _ => (10, piece)
  if piece.isEmpty then none
  else if digits.all fun digit => (Text.hexValue? digit).any (· < base) then
    some (Text.ofDigitChars base digits)
  else none

/-- The pieces of a host between its dots, without an empty one at the end. -/
def hostPieces (chars : List Char) : List (List Char) :=
  let pieces := Text.splitAt '.' chars
  if pieces.getLast? = some [] then pieces.dropLast else pieces

/-- Whether the last piece of a host is a number, so that the host is an address. -/
def endsInNumber (chars : List Char) : Bool :=
  match (hostPieces chars).getLast? with
  | some piece => (!piece.isEmpty && piece.all Char.isDigit) || (hostNumber? piece).isSome
  | none => false

/-- Whether numbers make up an address of 32 bits, the last one filling what the others leave. -/
def isShortAddress (chars : List Char) : Bool :=
  let numbers := (hostPieces chars).map hostNumber?
  numbers.length ≤ 4 && numbers.all Option.isSome &&
    numbers.dropLast.all (fun number => number.any (· ≤ 255)) &&
    numbers.getLast?.join.any (· < Nat.pow 256 (5 - numbers.length))

/-- Whether a character is refused in the host of a web link. -/
def isForbiddenInDomain (char : Char) : Bool :=
  char.toNat ≤ 0x20 || char.toNat = 0x7F || "%#/:<>?@[\\]^|".toList.contains char ||
    (0x80 ≤ char.toNat && !Text.isPrintable char)

/-- Whether a character is refused in the host of other links. -/
def isForbiddenInHost (char : Char) : Bool :=
  char.toNat = 0 || " #/:<>?@[\\]^|".toList.contains char

/-- Whether a text in square brackets is an address. -/
def isBracketedAddress (chars : List Char) : Bool :=
  chars.getLast? = some ']' && isLongAddress (chars.drop 1).dropLast

/-- Whether a text is the host of a web link. -/
def isDomainHost (chars : List Char) : Bool :=
  if chars.head? = some '[' then isBracketedAddress chars
  else
    match Text.decodeUtf8? (Text.percentDecode chars) with
    | some domain =>
        !domain.isEmpty && !domain.any isForbiddenInDomain &&
          (!endsInNumber domain || isShortAddress domain)
    | none => false

/-- Whether a text is the host of another link. -/
def isOpaqueHost (chars : List Char) : Bool :=
  if chars.head? = some '[' then isBracketedAddress chars
  else !chars.any isForbiddenInHost

/-- Splits a host from what follows it; colons count as part of it within square brackets. -/
def takeHost (scheme : SchemeClass) (inBrackets : Bool) : List Char → List Char × List Char
  | [] => ([], [])
  | char :: rest =>
      if scheme.endsHost char || (char = ':' && !inBrackets) then ([], char :: rest)
      else
        let (host, after) :=
          takeHost scheme (char = '[' || (inBrackets && char != ']')) rest
        (char :: host, after)

/-- Whether what follows a host is an optional port and then a path, a query or a fragment. -/
def isPortValid : List Char → Bool
  | ':' :: rest =>
      let digits := rest.takeWhile Char.isDigit
      let after := rest.dropWhile Char.isDigit
      Text.ofDigitChars 10 digits ≤ 65535 &&
        after.head?.all fun char => "/\\?#".toList.contains char
  | _ => true

/-- The user information of an authority and what follows its last at sign. -/
def splitUser (authority : List Char) : Option (List Char × List Char) :=
  if authority.contains '@' then
    some ((authority.reverse.dropWhile (· != '@')).drop 1 |>.reverse,
      (authority.reverse.takeWhile (· != '@')).reverse)
  else none

/-- Whether what follows the slashes of a link is valid. -/
def isAuthorityValid (scheme : SchemeClass) (chars : List Char) : Bool :=
  let authority := chars.takeWhile fun char => !scheme.endsHost char
  let tail := chars.dropWhile fun char => !scheme.endsHost char
  let (user, rest) := (splitUser authority).getD ([], authority)
  let (host, after) := takeHost scheme false (rest ++ tail)
  if authority.contains '@' && user.isEmpty && rest.isEmpty && !tail.isEmpty then false
  else if host.isEmpty then
    scheme != .web && (user.isEmpty || user = [':']) && after.head? != some ':'
  else (if scheme = .web then isDomainHost host else isOpaqueHost host) && isPortValid after

/-- Whether a text is a letter with a colon or a bar, which names a drive. -/
def isDriveName : List Char → Bool
  | [letter, mark] => letter.isAlpha && (mark = ':' || mark = '|')
  | _ => false

/-- Whether what follows the scheme of a local file is valid. -/
def isFileTailValid (chars : List Char) : Bool :=
  let isSlash (char : Char) : Bool := char = '/' || char = '\\'
  match chars with
  | first :: second :: rest =>
      if isSlash first && isSlash second then
        let host := rest.takeWhile fun char => !SchemeClass.file.endsHost char
        host.isEmpty || isDriveName host || isDomainHost host
      else true
  | _ => true

/-- Whether a character may stand in a scheme. -/
def isSchemeChar (char : Char) : Bool :=
  char.isAlphanum || char = '+' || char = '-' || char = '.'

/-- Removes the controls and spaces around a text, and the tabs and line breaks within. -/
def cleanLink (chars : List Char) : List Char :=
  let isMargin (char : Char) : Bool := char.toNat ≤ 0x20
  (Text.dropWhileEnd isMargin (chars.dropWhile isMargin)).filter fun char =>
    char != '\t' && char != '\n' && char != '\r'

/-- Whether a text is an absolute link. -/
def isLink (chars : List Char) : Bool :=
  let cleaned := cleanLink chars
  let name := cleaned.takeWhile isSchemeChar
  match cleaned.dropWhile isSchemeChar with
  | ':' :: rest =>
      name.head?.any Char.isAlpha &&
        match SchemeClass.ofName name with
        | .web => isAuthorityValid .web (rest.dropWhile fun char => char = '/' || char = '\\')
        | .file => isFileTailValid rest
        | .plain =>
            match rest with
            | '/' :: '/' :: rest => isAuthorityValid .plain rest
            | _ => true
  | _ => false

end Format
end RoutineGate
