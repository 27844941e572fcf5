import RoutineGate.Value.Basic

/-!
# Authentication contexts

The context of a request says which token it carries, what the token says about the user,
and whether it is valid now.
-/

namespace RoutineGate
namespace Auth

/-- What is known about who sends a request. -/
structure Context where
  /-- The token, if there is one. -/
  token : Option String := none
  /-- Whether the token is genuine. -/
  isAuthenticated : Bool := false
  /-- Whether the token is genuine and has not expired. -/
  isAuthorised : Bool := false
  /-- What the token says. -/
  user : Option Value := none

instance : Inhabited Context := ⟨{}⟩

namespace Context

/-- The context of a request of which nothing is known. -/
def anonymous : Context := {}

end Context
end Auth
end RoutineGate
