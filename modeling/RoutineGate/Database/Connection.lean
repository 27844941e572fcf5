import RoutineGate.Call.Failure
import RoutineGate.Database.Catalog
import RoutineGate.Database.Statement
import RoutineGate.Settings

/-!
# Connections

A connection runs statements.  A statement yields several results, of which some are sets
of rows and others only count the rows that were changed, or it is refused with an error.
What a procedure returns are its sets of rows in order, followed by one status.
-/

namespace RoutineGate
namespace Database

/-- A statement with its arguments. -/
structure Statement where
  /-- The text, with placeholders. -/
  text : String
  arguments : List Value

/-- One result of a statement. -/
inductive StatementResult where
  | rows (rows : List Value)
  /-- The number of rows that were changed. -/
  | count (affected : Int)

/-- What comes of a statement. -/
inductive Outcome where
  | results (results : List StatementResult) (lastInsertId : Option Int)
  /-- The statement is refused; the driver reports some values. -/
  | refused (values : List Value)

/-- Runs statements in a world that they change. -/
abbrev Connection (World : Type) := Statement → StateM World Outcome

/-- A database with procedures. -/
structure ProcedureDatabase (World : Type) where
  catalog : StateM World (Except Call.FailureCause (List Procedure))
  call : String → List Value → StateM World (Except Call.FailureCause (List Value))

/-- The set of rows in a result, if it is one. -/
def rowSet? : StatementResult → Option Value
  | .rows rows => some (.list rows)
  | .count _ => none

/-- The number of changed rows in a result, if it tells one. -/
def affected? : StatementResult → Option Int
  | .rows _ => none
  | .count number => some number

/-- A cursor at one result of a statement. -/
structure Cursor where
  /-- The result that the cursor is at. -/
  current : StatementResult
  /-- The number of changed rows that was told last. -/
  rowCount : Int

namespace Cursor

/-- The cursor before the first result: there are no rows, and no rows are changed. -/
def start : Cursor where
  current := .count 0
  rowCount := 0

/-- Moves a cursor to another result; a set of rows leaves the number of changed rows alone. -/
def moveTo (cursor : Cursor) (result : StatementResult) : Cursor where
  current := result
  rowCount := (affected? result).getD cursor.rowCount

/--
Collects the sets of rows from a cursor on, after those that are collected already, and at
the last result the status.
-/
def collect (lastInsertId : Option Int) (collected : List Value) (cursor : Cursor) :
    List StatementResult → List Value
  | [] =>
      collected ++ (rowSet? cursor.current).toList ++ [.status cursor.rowCount lastInsertId]
  | result :: results =>
      (cursor.moveTo result).collect lastInsertId
        (collected ++ (rowSet? cursor.current).toList) results

end Cursor

/-- What a procedure returns: its sets of rows and a status. -/
def returnedValues (results : List StatementResult) (lastInsertId : Option Int) : List Value :=
  Cursor.start.collect lastInsertId [] results

def firstRows : List StatementResult → List Value
  | .rows rows :: _ => rows
  | _ => []

/-- A column that a row must have. -/
def column (row : Value) (name : String) : Except Fault Value :=
  match row with
  | .record entries =>
      match entries.lookup name with
      | some value => .ok value
      | none => .error (.missingColumn name)
  | _ => .error (.missingColumn name)

def readCatalogRow (row : Value) : Except Fault CatalogRow := do
  let name ← column row "routine_name"
  let definition ← column row "routine_definition"
  let parameter ← column row "parameter_name"
  return {
    name := name.plain
    definition := definition.nonNull?.map Value.plain
    parameter := if parameter.isTruthy then some parameter.plain else none
  }

/-- The names of the columns of a catalog, in the words of a query. -/
def catalogColumns : String :=
  "r.ROUTINE_NAME AS routine_name, r.ROUTINE_DEFINITION AS routine_definition, " ++
    "p.PARAMETER_NAME AS parameter_name"

/-- The tables of a catalog, in the words of a query. -/
def catalogTables : String :=
  "INFORMATION_SCHEMA.ROUTINES AS r LEFT JOIN INFORMATION_SCHEMA.PARAMETERS AS p " ++
    "ON p.SPECIFIC_SCHEMA = r.ROUTINE_SCHEMA AND p.SPECIFIC_NAME = r.SPECIFIC_NAME " ++
    "AND p.PARAMETER_NAME IS NOT NULL"

/-- The query that lists the procedures of a database whose names match a pattern. -/
def catalogQuery : String :=
  "SELECT " ++ catalogColumns ++ " FROM " ++ catalogTables ++
    " WHERE r.ROUTINE_SCHEMA = %s AND r.ROUTINE_TYPE = 'PROCEDURE' AND r.ROUTINE_NAME LIKE %s" ++
    " ORDER BY r.ROUTINE_NAME, p.ORDINAL_POSITION"

/-- The statement that lists the procedures of a database whose names have a start. -/
def catalogStatement (database start : String) : Statement where
  text := catalogQuery
  arguments := [.text database, .text (String.ofList (startPattern start.toList))]

/-- The procedures in what comes of a catalog statement. -/
def readCatalog : Outcome → Except Call.FailureCause (List Procedure)
  | .refused values => .error (.database (.ofDriver values))
  | .results results _ =>
      match (firstRows results).mapM readCatalogRow with
      | .ok rows => .ok (proceduresOf rows)
      | .error fault => .error (.other fault)

/-- The values in what comes of a call. -/
def readCall : Outcome → Except Call.FailureCause (List Value)
  | .refused values => .error (.database (.ofDriver values))
  | .results results lastInsertId => .ok (returnedValues results lastInsertId)

/-- The procedures of a database whose names have a start, called over a connection. -/
def ofConnection {World : Type} (connection : Connection World) (database start : String) :
    ProcedureDatabase World where
  catalog := do return readCatalog (← connection (catalogStatement database start))
  call procedure arguments := do
    return readCall (← connection ⟨callStatement procedure arguments.length, arguments⟩)

/-- How connections are pooled. -/
structure PoolOptions where
  host : String
  port : Int
  user : String
  password : String
  database : String
  /-- How many connections are open at least. -/
  least : Int := 1
  /-- How many connections are open at most. -/
  most : Int
  /-- Whether each statement is a transaction of its own. -/
  commitsAlways : Bool := true
  /-- The encoding of texts. -/
  charset : String := "utf8mb4"
  deriving DecidableEq, Repr

/-- How the connections of an application are pooled. -/
def PoolOptions.ofSettings (settings : Settings) : PoolOptions where
  host := settings.host
  port := settings.port
  user := settings.user
  password := settings.password
  database := settings.database
  most := settings.poolSize

/-- Results that only count leave the returned sets of rows alone. -/
theorem rowSets_insert_count
    (before after : List StatementResult)
    (number : Int) :
    (before ++ .count number :: after).filterMap rowSet? =
      (before ++ after).filterMap rowSet? := by
  simp [List.filterMap_cons, rowSet?]

end Database
end RoutineGate
