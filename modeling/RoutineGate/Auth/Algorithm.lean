import RoutineGate.Digest.Sha2
import RoutineGate.Fault

/-!
# Algorithms of signatures

A token names the algorithm of its signature.  Which algorithms there are is not up to a
token; the ones here need a secret only, or none at all.
-/

namespace RoutineGate
namespace Auth

/-- A way to sign bytes with a secret. -/
structure Algorithm where
  /-- What headers and settings call it. -/
  name : String
  /-- Whether a secret has signed bytes; one that the algorithm cannot work with is a fault. -/
  check (secret signed signature : List UInt8) : Except Fault Bool

namespace Algorithm

/-- Signatures are the codes of a digest with blocks of so many bytes. -/
def hmac (name : String) (hash : List UInt8 → List UInt8) (blockBytes : Nat) : Algorithm where
  name := name
  check secret signed signature := .ok (signature = Digest.hmac hash blockBytes secret signed)

/-- The algorithm of most tokens. -/
def hs256 : Algorithm := hmac "HS256" Digest.sha256 64

/-- The algorithm without signatures, which does not work with a secret. -/
def unsigned : Algorithm where
  name := "none"
  check _ _ _ := .error (.failure "When alg = \"none\", key value must be None.")

/-- The algorithms that need no keys other than a secret. -/
def standard : List Algorithm :=
  [hs256, hmac "HS384" Digest.sha384 128, hmac "HS512" Digest.sha512 128, unsigned]

end Algorithm
end Auth
end RoutineGate
