import RoutineGate.Json.Encoding
import RoutineGate.Service.Exchange

/-!
# Sections of an exchange

The sections of a request are read first, and then those with a schema are validated in
order.  The issues of all sections are reported together.
-/

namespace RoutineGate
namespace Service

/-- Reads a body; an empty one is null. -/
def readBody (bytes : List UInt8) : Except Interruption Value :=
  if bytes.isEmpty then .ok .null
  else
    match Json.parseBytes bytes with
    | .ok value => .ok value
    | .error .malformed => .error (.rejection .invalidBody)
    | .error (.fault found) => .error (.fault found)

/-- The values of the sections of a request. -/
abbrev SectionValues := Request.Section → Value

/-- The body as it is validated: a missing one is an empty record. -/
def bodyFor (schema : Request.RequestSchema) (body : Value) : Value :=
  match body, schema.fields? .body with
  | .null, some _ => .record []
  | _, _ => body

/-- The sections of a request as they arrive, with its body. -/
def rawSections (exchange : Exchange) (body : Value) : SectionValues
  | .querystring => Http.queryRecord exchange.request.query
  | .params => .record exchange.pathParameters
  | .body => body
  | .headers => exchange.request.headerRecord

def readSections (schema : Request.RequestSchema) (exchange : Exchange) :
    Except Interruption SectionValues :=
  (readBody exchange.request.body).map fun body => rawSections exchange (bodyFor schema body)

/-- What validating sections comes to. -/
structure CheckedSections where
  issues : List (Request.Section × Schema.Issue) := []
  values : List (Request.Section × Value) := []

/-- Validates sections one after the other. -/
def checkSections (schema : Request.RequestSchema) (raw : SectionValues) :
    List Request.Section → Except Fault CheckedSections
  | [] => .ok {}
  | place :: places =>
      match schema.validate place (raw place) with
      | .ok value =>
          (checkSections schema raw places).map fun checked =>
            { checked with values := (place, value) :: checked.values }
      | .error (.issues issues) =>
          (checkSections schema raw places).map fun checked =>
            { checked with issues := issues.map (place, ·) ++ checked.issues }
      | .error (.fault found) => .error found

/-- Validates the sections that have a schema and leaves the other ones as they are. -/
def validateSections (schema : Request.RequestSchema) (raw : SectionValues) :
    Except Interruption SectionValues :=
  match checkSections schema raw (schema.sections.map Prod.fst) with
  | .error found => .error (.fault found)
  | .ok ⟨[], values⟩ => .ok fun place => (values.lookup place).getD (raw place)
  | .ok ⟨issues, _⟩ => .error (.invalid issues)

/-- What a request carries for its procedure. -/
def fieldsOf (exchange : Exchange) (sections : SectionValues) : Call.Fields where
  querystring := sections .querystring
  params := sections .params
  body := sections .body
  headers := sections .headers
  user := exchange.sender.user.getD .null
  request := .record exchange.data

end Service
end RoutineGate
