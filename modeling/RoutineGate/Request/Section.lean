import RoutineGate.Schema.Defaults

/-!
# Sections of a request

A request carries values in four sections, and two further sources are known to the
server: the authenticated user and the data that hooks have put aside.
-/

namespace RoutineGate
namespace Request

/-- A part of a request that is validated. -/
inductive Section where
  /-- The query of the address. -/
  | querystring
  /-- The parameters in the path of the address. -/
  | params
  | body
  | headers
  deriving DecidableEq, Repr

namespace Section

def name : Section → String
  | .querystring => "querystring"
  | .params => "params"
  | .body => "body"
  | .headers => "headers"

/-- All sections, in the order of validation. -/
def all : List Section := [.querystring, .params, .body, .headers]

end Section

/-- Where the value of a parameter comes from. -/
inductive Source where
  | within (place : Section)
  | user
  /-- The data that hooks have put aside. -/
  | request
  deriving DecidableEq, Repr

namespace Source

def name : Source → String
  | .within place => place.name
  | .user => "user"
  | .request => "request"

def all : List Source := Section.all.map .within ++ [.user, .request]

def ofName? (content : String) : Option Source :=
  all.find? fun source => source.name = content

@[simp] theorem ofName?_name (source : Source) : ofName? source.name = some source := by
  rcases source with ⟨⟨⟩⟩ | _ | _ <;> decide

end Source
end Request
end RoutineGate
