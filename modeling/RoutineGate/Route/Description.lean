import RoutineGate.Route.Basic

/-!
# Descriptions of routes

The description of a route publishes the parameters that a request carries in the query,
in the path and in the headers, and the schema of the body.
-/

namespace RoutineGate
namespace Route

variable {Hook : Type}

/-- The sections that are described as parameters, with the words for them. -/
def locations : List (Request.Section × String) :=
  [(.querystring, "query"), (.params, "path"), (.headers, "header")]

/-- The word for the parameters in the path. -/
def pathLocation : String := "path"

/-- The description of a parameter. -/
def parameterEntry (name location : String) (isRequired : Bool) (schema : Value) : Value :=
  .record [("name", .text name), ("in", .text location), ("required", .bool isRequired),
    ("schema", schema)]

/-- The descriptions of the parameters that a section carries. -/
def sectionEntries (schema : Request.RequestSchema) (place : Request.Section)
    (location : String) : List Value :=
  ((schema.fields? place).getD []).map fun field =>
    parameterEntry field.1 location (location = pathLocation || field.2.isRequired)
      field.2.published

/-- The parameters of the path that no section describes. -/
def undescribed (route : Route Hook) : List String :=
  let described := ((route.schema.fields? .params).getD []).map Prod.fst
  route.pathParameters.filter fun name => !described.contains name

/-- The descriptions of all parameters but those of the body. -/
def parameterEntries (route : Route Hook) : List Value :=
  locations.flatMap (fun entry => sectionEntries route.schema entry.1 entry.2) ++
    (undescribed route).map fun name =>
      parameterEntry name pathLocation true (.record [("type", .text "string")])

/-- The description of a body. -/
def bodyEntry (fields : Request.Fields) : Value :=
  .record [("required", .bool true),
    ("content", .record [("application/json",
      .record [("schema", (Schema.object {} fields).published)])])]

def description (route : Route Hook) : Value :=
  let parameters := parameterEntries route
  .record ([("summary", .text route.procedure.name)] ++
    (if parameters.isEmpty then [] else [("parameters", .list parameters)]) ++
    match route.schema.fields? .body with
    | some fields => [("requestBody", bodyEntry fields)]
    | none => [])

end Route
end RoutineGate
