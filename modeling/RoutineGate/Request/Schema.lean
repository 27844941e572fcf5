import RoutineGate.Expression.Evaluation
import RoutineGate.Route.Error
import RoutineGate.Schema.Publication

/-!
# Request schemas

The parameters of a procedure, grouped by the sections of a request that carry them, make
up one record schema per section.  Where two parameters share a section and a key the
later one counts.
-/

namespace RoutineGate
namespace Request

/-- The fields of a record schema. -/
abbrev Fields := List (String × Schema Value)

/-- The schemas of the sections that carry parameters. -/
structure RequestSchema where
  procedure : String
  /-- The fields of each section, in the order of validation. -/
  sections : List (Section × Fields)

/-- A parameter with its compiled schema. -/
structure CompiledParameter where
  /-- Where the value comes from. -/
  source : Source
  key : String
  node : Schema Value

/-- The key under which a source holds a value; those of headers are in lower case. -/
def sourceKey (source : Source) (key : String) : String :=
  match source with
  | .within .headers => Text.lower key
  | _ => key

/-- Compiles the schema expression of a parameter. -/
def compileExpression (procedure : String) (scope : Expression.Scope)
    (directive : Documentation.ParamDirective) : Except CompileFailure (Schema Value) :=
  match Expression.compile scope directive.expression with
  | .ok node => .ok node
  | .error (.problem problem) =>
      .error (.of procedure (.expression problem) { parameter := directive.name })
  | .error (.fault fault) => .error (.fault fault)

/-- Compiles a parameter. -/
def compileParameter (procedure : String) (scope : Expression.Scope)
    (directive : Documentation.ParamDirective) : Except CompileFailure CompiledParameter :=
  match Source.ofName? directive.source with
  | none =>
      .error (.of procedure (.unknownSource directive.source) { parameter := directive.name })
  | some source =>
      match compileExpression procedure scope directive with
      | .ok node => .ok { source, key := sourceKey source directive.key, node }
      | .error failure => .error failure

/-- The fields of sections, in the order of their first parameters. -/
abbrev Sections := List (Section × Fields)

/-- Sets the fields of a section, in place if it has some and at the end otherwise. -/
def setFields (place : Section) (fields : Fields) : Sections → Sections
  | [] => [(place, fields)]
  | (other, old) :: rest =>
      if other = place then (place, fields) :: rest else (other, old) :: setFields place fields rest

/-- Extends the section that carries a parameter; other sources have no schema. -/
def extendSection (sections : Sections) (parameter : CompiledParameter) : Sections :=
  match parameter.source with
  | .within place =>
      let fields := (sections.lookup place).getD []
      setFields place (Value.put parameter.key parameter.node fields) sections
  | .user | .request => sections

/-- Compiles a parameter and extends the section that carries it. -/
def addDirective (procedure : String) (scope : Expression.Scope) (sections : Sections)
    (directive : Documentation.ParamDirective) : Except CompileFailure Sections :=
  (compileParameter procedure scope directive).map (extendSection sections)

/-- The sections that carry parameters, in the order of validation. -/
def orderedSections (sections : Sections) : Sections :=
  Section.all.filterMap fun place => (sections.lookup place).map (Prod.mk place)

/-- Why the first unusable one of several sections cannot be used. -/
def sectionsFault? (sections : Sections) : Option Fault :=
  sections.findSome? fun entry => Schema.fieldFault? entry.2

/-- The request schema of parameters. -/
def compileSchema (procedure : String) (scope : Expression.Scope)
    (directives : List Documentation.ParamDirective) : Except CompileFailure RequestSchema :=
  match directives.foldlM (addDirective procedure scope) [] with
  | .error failure => .error failure
  | .ok extended =>
      let sections := orderedSections extended
      match sectionsFault? sections with
      | some fault => .error (.fault fault)
      | none => .ok { procedure, sections }

namespace RequestSchema

/-- The fields of a section, if it carries parameters. -/
def fields? (schema : RequestSchema) (place : Section) : Option Fields :=
  schema.sections.lookup place

/-- The name of the record schema of a section. -/
def modelName (schema : RequestSchema) (place : Section) : String :=
  schema.procedure ++ "_" ++ place.name

/-- Validates a section; one that carries no parameters is passed on as it is. -/
def validate (schema : RequestSchema) (place : Section) (raw : Value) :
    Except Schema.Refusal Value :=
  match schema.fields? place with
  | some fields => Schema.validateModel (schema.modelName place) fields raw
  | none => .ok raw

/-- The published schemas of the sections. -/
def published (schema : RequestSchema) : Value :=
  .record (schema.sections.map fun entry =>
    (entry.1.name, (Schema.object {} entry.2).published))

end RequestSchema

/-- A section that carries no parameters is passed on as it is. -/
theorem validate_of_absent
    {schema : RequestSchema}
    {place : Section}
    (absent : schema.fields? place = none)
    (raw : Value) :
    schema.validate place raw = .ok raw := by
  simp [RequestSchema.validate, absent]

end Request
end RoutineGate
