import RoutineGate.Auth.Algorithm
import RoutineGate.Auth.Context
import RoutineGate.Digest.Base64
import RoutineGate.Json.Encoding
import RoutineGate.Text.Blank
import RoutineGate.Text.LetterCase
import RoutineGate.Value.Integer

/-!
# Tokens

A token has a header, a payload and a signature between dots.  It is genuine if who made
it has the secret, and if its claims allow it to be used here and now.  An expired token
is still genuine, but its user is not authorised.
-/

namespace RoutineGate
namespace Auth

/-- The entries of a record. -/
abbrev Claims := List (String × Value)

/-- The parts of a token. -/
structure Token where
  /-- The header with the payload, which is what is signed. -/
  signed : List Char
  header : List Char
  payload : List Char
  signature : List Char
  deriving DecidableEq, Repr

/-- Splits a text at the last dot. -/
def splitLast? (chars : List Char) : Option (List Char × List Char) :=
  match chars.reverse.span (· != '.') with
  | (last, _ :: before) => some (before.reverse, last.reverse)
  | _ => none

/-- The parts of a token: the signature follows the last dot, the payload the first one. -/
def Token.ofText? (chars : List Char) : Option Token :=
  match splitLast? chars with
  | none => none
  | some (signed, signature) =>
      match signed.span (· != '.') with
      | (header, _ :: payload) => some { signed, header, payload, signature }
      | _ => none

/-- The bytes that a part of a token stands for. -/
def decodePart? (part : List Char) : Option (List UInt8) :=
  Digest.decodeBase64? part (Text.encodeUtf8 part).length

/-- The record that a part of a token writes. -/
def readPart? (part : List Char) : Option Claims :=
  match decodePart? part with
  | none => none
  | some bytes =>
      match Json.parseBytes bytes with
      | .ok (.record entries) => some entries
      | _ => none

/-- Whether the extension that a header names as critical is known and present. -/
def isKnownExtension (header : Claims) : Value → Bool
  | .text name => name = "b64" && (header.lookup name).isSome
  | _ => false

/-- Whether the extensions that a header names as critical are known. -/
def hasKnownExtensions (header : Claims) : Bool :=
  match header.lookup "crit" with
  | none => true
  | some (.list items) => !items.isEmpty && items.all (isKnownExtension header)
  | some _ => false

def isTextOrAbsent (claims : Claims) (key : String) : Bool :=
  match claims.lookup key with
  | none => true
  | some (.text _) => true
  | some _ => false

/-- Whether a header asks for the payload to stand outside of the token. -/
def isDetached (header : Claims) : Bool :=
  match header.lookup "b64" with
  | some (.bool false) => true
  | _ => false

/-- The algorithm that a header names, if it is both known and accepted. -/
def algorithm? (known : List Algorithm) (accepted : List String) (header : Claims) :
    Option Algorithm :=
  match header.lookup "alg" with
  | some (.text name) =>
      if accepted.contains name then known.find? fun algorithm => algorithm.name = name else none
  | _ => none

/-- Whether what a header says apart from the algorithm is acceptable. -/
def isHeaderValid (header : Claims) : Bool :=
  isTextOrAbsent header "kid" && hasKnownExtensions header && !isDetached header

/--
Whether a point in time that a claim tells has come.  A text or an undefined number that is
no integer never comes; what can be no integer at all is a fault.
-/
def hasCome (claims : Claims) (key : String) (now : Numeral) : Except Fault Bool :=
  match claims.lookup key with
  | none => .ok true
  | some value =>
      match value.toInteger with
      | .ok second => .ok ((Numeral.int second).compare? now != some .gt)
      | .error (.integer _) => .ok false
      | .error .undefinedInteger => .ok false
      | .error fault => .error fault

/-- Whether no audience is claimed. -/
def isForAnyone (claims : Claims) : Bool :=
  match claims.lookup "aud" with
  | none => true
  | some value => !value.isTruthy

/-- Whether claims allow a token to be used; the times are looked at first. -/
def areClaimsValid (claims : Claims) (now : Numeral) : Except Fault Bool := do
  if !(← hasCome claims "iat" now) then return false
  if !(← hasCome claims "nbf" now) then return false
  return isForAnyone claims && isTextOrAbsent claims "sub" && isTextOrAbsent claims "jti"

/-- Whether a token is signed with a secret. -/
def Token.isSigned (token : Token) (algorithm : Algorithm) (secret : String) :
    Except Fault Bool :=
  match decodePart? token.signature with
  | some signature =>
      algorithm.check (Text.encodeUtf8 secret.toList) (Text.encodeUtf8 token.signed) signature
  | none => .ok false

/-- Whether the claimed end of validity has come; one that is no number never does. -/
def isExpired (claims : Claims) (now : Numeral) : Bool :=
  match (claims.lookup "exp").bind Value.numeral? with
  | some second => (second.compare? now).any (· != .gt)
  | none => false

/-- What a header that carries a token starts with, in lower case. -/
def bearerStart : String := "bearer "

/-- The token that a header carries; an empty one is none. -/
def bearerToken (header : String) : String :=
  if bearerStart.toList.isPrefixOf (Text.lower header).toList then
    String.ofList (Text.trim (header.toList.drop bearerStart.length))
  else ""

/-- What tokens are checked with. -/
structure Verifier where
  /-- The secret; without one no token is genuine. -/
  secret : Option String := none
  /-- The names of the accepted algorithms. -/
  algorithms : List String := ["HS256"]
  /-- The algorithms that there are. -/
  known : List Algorithm := Algorithm.standard

namespace Verifier

/-- The parts of a token and its header, if they can be read and the header is acceptable. -/
def readToken? (content : String) : Option (Token × Claims) := do
  let token ← Token.ofText? content.toList
  let header ← readPart? token.header
  let _ ← decodePart? token.payload
  let _ ← decodePart? token.signature
  if isHeaderValid header then some (token, header) else none

/-- The claims of a token that is genuine at some time, given a secret. -/
def genuineClaims? (verifier : Verifier) (secret : String) (now : Numeral) (content : String) :
    Except Fault (Option Claims) := do
  let some (token, header) := readToken? content | return none
  let some algorithm := algorithm? verifier.known verifier.algorithms header | return none
  if !(← token.isSigned algorithm secret) then return none
  let some claims := readPart? token.payload | return none
  if ← areClaimsValid claims now then return some claims
  return none

/-- The claims of a token, if it is genuine. -/
def verify? (verifier : Verifier) (now : Numeral) (content : String) :
    Except Fault (Option Claims) :=
  match verifier.secret with
  | none => .ok none
  | some secret =>
      if secret.isEmpty || content.isEmpty then .ok none
      else verifier.genuineClaims? secret now content

/-- The context of a request with a token, by its claims if it is genuine. -/
def contextBy (now : Numeral) (token : String) : Option Claims → Context
  | none => { token := if token.isEmpty then none else some token }
  | some claims =>
      { token := some token
        isAuthenticated := true
        isAuthorised := !isExpired claims now
        user := some (.record claims) }

/-- The context of a request with a header. -/
def identify (verifier : Verifier) (now : Numeral) (header : String) : Except Fault Context :=
  (verifier.verify? now (bearerToken header)).map (contextBy now (bearerToken header))

/-- The context of a request with a header, in which a token whose check faults tells nothing. -/
def contextOf (verifier : Verifier) (now : Numeral) (header : String) : Context :=
  match verifier.identify now header with
  | .ok context => context
  | .error _ => contextBy now (bearerToken header) none

end Verifier

/-- Only who is authenticated is authorised. -/
theorem isAuthenticated_of_isAuthorised
    {verifier : Verifier}
    {now : Numeral}
    {header : String}
    {context : Context}
    (identified : verifier.identify now header = .ok context)
    (authorised : context.isAuthorised = true) :
    context.isAuthenticated = true := by
  simp only [Verifier.identify] at identified
  cases verified : verifier.verify? now (bearerToken header) with
  | error fault => simp [verified, Except.map] at identified
  | ok claims? =>
      obtain rfl : Verifier.contextBy now (bearerToken header) claims? = context := by
        simpa [verified, Except.map] using identified
      cases claims? with
      | none => simp [Verifier.contextBy] at authorised
      | some claims => rfl

end Auth
end RoutineGate
