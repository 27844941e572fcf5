import RoutineGate.Procedure.Basic
import RoutineGate.Value.Basic

/-!
# Catalogs

A catalog lists procedures in rows, one for each parameter and one for each procedure
without parameters.  Rows of one name belong together wherever they stand.
-/

namespace RoutineGate
namespace Database

/-- A row of a catalog. -/
structure CatalogRow where
  name : String
  definition : Option String := none
  parameter : Option String := none
  deriving DecidableEq, Repr

/-- What is known of procedures after some rows of a catalog. -/
structure Grouping where
  /-- The names, in the order of their first rows. -/
  names : List String := []
  definitions : List (String × Option String) := []
  parameters : List (String × List String) := []
  deriving DecidableEq, Repr

namespace Grouping

/-- Takes up the procedure of a row, unless its name is known. -/
def introduce (grouping : Grouping) (row : CatalogRow) : Grouping :=
  if (grouping.definitions.lookup row.name).isSome then grouping
  else
    { names := grouping.names ++ [row.name]
      definitions := Value.put row.name row.definition grouping.definitions
      parameters := Value.put row.name [] grouping.parameters }

/-- Adds the parameter of a row to those of its procedure; one without a name does not count. -/
def addParameter (grouping : Grouping) (row : CatalogRow) : Grouping :=
  match row.parameter.filter fun parameter => !parameter.isEmpty with
  | none => grouping
  | some parameter =>
      let earlier := (grouping.parameters.lookup row.name).getD []
      { grouping with
        parameters := Value.put row.name (earlier ++ [parameter]) grouping.parameters }

def add (grouping : Grouping) (row : CatalogRow) : Grouping :=
  (grouping.introduce row).addParameter row

/-- The procedure of a known name. -/
def procedure (grouping : Grouping) (name : String) : Procedure :=
  { name
    definition := (grouping.definitions.lookup name).join
    parameters := (grouping.parameters.lookup name).getD [] }

end Grouping

/-- The procedures that rows list, in the order of their first rows. -/
def proceduresOf (rows : List CatalogRow) : List Procedure :=
  let grouping := rows.foldl Grouping.add {}
  grouping.names.map grouping.procedure

@[simp] theorem proceduresOf_nil : proceduresOf [] = [] := rfl

end Database
end RoutineGate
