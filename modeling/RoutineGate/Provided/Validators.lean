import RoutineGate.Expression.Evaluation

/-!
# Provided validators

Validators that an application has from the start: one for passwords and one for the names
of users.
-/

namespace RoutineGate
namespace Provided

/-- A password has at least five characters. -/
def passwordSchema : Schema Value :=
  .string
    { steps := [⟨.minLength 5, some (.text "Password must be at least 5 characters long")⟩] }
    false

/-- The name of a user has three to thirty-two letters, digits, low lines, dots and hyphens. -/
def usernameSchema : Schema Value :=
  .string
    { steps := [
        ⟨.trim, none⟩,
        ⟨.minLength 3, none⟩,
        ⟨.maxLength 32, none⟩,
        ⟨.pattern (.ofSource "^[A-Za-z0-9_.-]+$" (by decide +kernel)),
          some (.text "Invalid username")⟩] }
    false

def validators : Expression.Validators :=
  .ofList [("PasswordSchema", .ofSchema passwordSchema), ("Username", .ofSchema usernameSchema)]

end Provided
end RoutineGate
