import RoutineGate.Text.Blank
import RoutineGate.Text.Printable
import RoutineGate.Text.Split
import RoutineGate.Text.Utf8
import RoutineGate.Text.WordChar

/-!
# Mail addresses

An address consists of a local part and a domain, both without quotes, comments or
numeric addresses.  It may follow a name, and then stands in angle brackets.  Domains
that are never reached, such as `localhost`, are refused.
-/

namespace RoutineGate
namespace Format

/-- Whether a character is a letter or a digit of the basic Latin script. -/
def isLatinAlphanumeric (char : Char) : Bool :=
  char.isAlphanum

/-- The signs that names and local parts may hold. -/
def addressSigns : List Char := "!#$%&'*+-/=?^_`\x7b|\x7d~".toList

/-- Whether a character lies beyond the basic Latin script and can be seen. -/
def isForeign (char : Char) : Bool :=
  0x80 ≤ char.toNat && Text.isPrintable char

/-- Whether a character may stand in a local part. -/
def isLocalChar (char : Char) : Bool :=
  isLatinAlphanumeric char || addressSigns.contains char || isForeign char

/-- Whether a text is a local part: pieces between dots, none of them empty. -/
def isLocalPart (chars : List Char) : Bool :=
  (Text.splitAt '.' chars).all fun piece => !piece.isEmpty && piece.all isLocalChar

/-- Whether a character may stand in a domain beside the hyphen and the dot. -/
def isDomainChar (char : Char) : Bool :=
  isLatinAlphanumeric char || (0x80 ≤ char.toNat && Text.isWordChar char)

/-- Whether a label starts with two letters and two hyphens that are reserved. -/
def isReservedLabel (label : List Char) : Bool :=
  match label with
  | first :: second :: '-' :: '-' :: _ =>
      !(first.toLower = 'x' && second.toLower = 'n')
  | _ => false

/-- Whether a text is a label of a domain. -/
def isDomainLabel (label : List Char) : Bool :=
  label.all (fun char => isDomainChar char || char = '-') &&
    label.head?.any isDomainChar && label.getLast?.any isDomainChar &&
    label.length ≤ 63 && !isReservedLabel label

/-- Domains under which no mail is delivered. -/
def unreachableDomains : List (List Char) :=
  ["arpa", "invalid", "local", "localhost", "onion", "test"].map String.toList

/-- Whether the last label of a domain can be a top level domain. -/
def isTopLabel (label : List Char) : Bool :=
  !unreachableDomains.contains (label.map Char.toLower) &&
    label.getLast?.any fun char => char.isAlpha || 0x80 ≤ char.toNat

/-- Whether a text is a domain that mail can be sent to. -/
def isMailDomain (chars : List Char) : Bool :=
  let labels := Text.splitAt '.' chars
  labels.all isDomainLabel && 2 ≤ labels.length && labels.getLast?.any isTopLabel &&
    chars.length ≤ 253

/-- The greatest number of bytes of an address. -/
def maxAddressBytes : Nat := 254

/-- Whether a text is an address without a name. -/
def isPlainAddress (chars : List Char) : Bool :=
  match Text.splitAt '@' chars with
  | [localPart, domain] =>
      isLocalPart localPart && isMailDomain domain &&
        (Text.encodeUtf8 chars).length ≤ maxAddressBytes
  | _ => false

/-- Whether a character may stand in a name that is not quoted. -/
def isNameChar (char : Char) : Bool :=
  Text.isWordChar char || addressSigns.contains char

/-- Whether a text may stand before an address in angle brackets. -/
def isMailName (chars : List Char) : Bool :=
  chars.all (fun char => isNameChar char || Text.isBlank char) ||
    (chars.head? = some '"' && chars.getLast? = some '"' && 3 ≤ chars.length)

/-- The greatest length of an address with its name. -/
def maxNamedLength : Nat := 2048

/-- The text in the last angle brackets and the text before them. -/
def takeBracketed? (chars : List Char) : Option (List Char × List Char) :=
  match (Text.trimEnd chars).reverse with
  | '>' :: reversed =>
      match reversed.span (· != '<') with
      | (inner, '<' :: before) => some (inner.reverse, before.reverse)
      | _ => none
  | _ => none

/-- Whether a text holds no line break. -/
def isOneLine (chars : List Char) : Bool :=
  !chars.contains '\n' && !chars.contains '\r'

/-- Whether a text is a mail address. -/
def isMail (chars : List Char) : Bool :=
  chars.length ≤ maxNamedLength && isOneLine chars &&
    match takeBracketed? chars with
    | some (inner, name) => isMailName (Text.trim name) && isPlainAddress (Text.trim inner)
    | none => isPlainAddress (Text.trim chars)

end Format
end RoutineGate
