/-!
# Procedures

A stored procedure has a name, a definition, unless it is withheld, and the names of its
parameters in order.
-/

namespace RoutineGate

/-- A stored procedure. -/
structure Procedure where
  /-- The name. -/
  name : String
  /-- The text of the definition, if it is known. -/
  definition : Option String := none
  /-- The names of the parameters, in order. -/
  parameters : List String := []
  deriving DecidableEq, Repr

end RoutineGate
