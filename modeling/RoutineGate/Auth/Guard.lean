import RoutineGate.Auth.Context
import RoutineGate.Fault
import RoutineGate.Value.Display

/-!
# Guards

A guard lets a request pass or rejects it.  Every guard asks for an authorised user, and
some moreover for one of several roles or permissions among the claims of the user.
-/

namespace RoutineGate
namespace Auth

/-- The claims that guards can ask for. -/
inductive Claim where
  | role
  /-- The permissions of a user. -/
  | permission
  deriving DecidableEq, Repr

namespace Claim

def word : Claim → String
  | .role => "role"
  | .permission => "permission"

def key : Claim → String
  | .role => "roles"
  | .permission => "permissions"

end Claim

/-- The kinds of guards. -/
inductive GuardKind where
  /-- Asks for an authorised user. -/
  | auth
  /-- Asks for one of several claims. -/
  | claim (claim : Claim)
  deriving DecidableEq, Repr

namespace GuardKind

def name : GuardKind → String
  | .auth => "auth"
  | .claim asked => asked.word

def all : List GuardKind := [.auth, .claim .role, .claim .permission]

end GuardKind

/-- A guard. -/
inductive Guard where
  /-- Asks for an authorised user. -/
  | auth
  /-- Asks for one of several claims. -/
  | claim (claim : Claim) (accepted : List String)
  deriving DecidableEq, Repr

/-- Why a guard cannot be made: it asks for a claim without naming one. -/
structure GuardProblem where
  claim : Claim
  deriving DecidableEq, Repr

namespace GuardProblem

def message (problem : GuardProblem) : String :=
  "at least one " ++ problem.claim.word ++ " is required"

end GuardProblem

/-- The guard of a kind with arguments; empty ones do not count. -/
def GuardKind.make (kind : GuardKind) (arguments : List String) : Except GuardProblem Guard :=
  match kind with
  | .auth => .ok .auth
  | .claim asked =>
      let accepted := arguments.filter (!·.isEmpty)
      if accepted.isEmpty then .error ⟨asked⟩ else .ok (.claim asked accepted)

/-- What a guard decides. -/
inductive Verdict where
  /-- The request passes. -/
  | pass
  /-- The user is not known. -/
  | unauthorized
  /-- The user lacks what is asked for. -/
  | forbidden
  /-- The claims of the user cannot be read. -/
  | fault (fault : Fault)
  deriving DecidableEq, Repr

/-- The names that a claim grants: one text, or the texts of the items of a list. -/
def grantedNames : Value → Except Fault (List String)
  | .text content => .ok [content]
  | .list items => .ok (items.map Value.plain)
  | .record entries => .ok (entries.map Prod.fst)
  | value => .error (.notIterable value.typeName)

/-- What the user of a context claims; what counts as false claims nothing. -/
def claimed (context : Context) (claim : Claim) : Except Fault (List String) :=
  match context.user with
  | some (.record entries) =>
      match entries.lookup claim.key with
      | some value => if value.isTruthy then grantedNames value else .ok []
      | none => .ok []
  | some value =>
      if value.isTruthy then .error (.lacksOperation value.typeName "get") else .ok []
  | none => .ok []

/-- What a guard decides on a request with a context. -/
def Guard.check (guard : Guard) (context : Context) : Verdict :=
  if context.isAuthenticated && context.isAuthorised then
    match guard with
    | .auth => .pass
    | .claim asked accepted =>
        match claimed context asked with
        | .ok granted => if accepted.any granted.contains then .pass else .forbidden
        | .error fault => .fault fault
  else .unauthorized

/-- No guard lets a request pass whose user is not authorised. -/
theorem check_of_not_authorised
    {context : Context}
    (unknown : context.isAuthorised = false)
    (guard : Guard) :
    guard.check context = .unauthorized := by
  simp [Guard.check, unknown]

end Auth
end RoutineGate
