import RoutineGate.Service.Exchange

/-!
# Provided hooks

Hooks that an application has from the start: one puts data aside for a procedure, one
wraps the payload of a reply, and one tags the response.
-/

namespace RoutineGate
namespace Provided

variable {World : Type}

/-- Puts the target of a greeting aside. -/
def setGreetingTarget : Service.Hook World :=
  .ofChange fun exchange => exchange.putData "testdata" (.text "world")

/-- Wraps the payload into a record. -/
def wrapPayload : Service.Hook World :=
  .ofChange fun exchange => exchange.mapReply fun reply =>
    { reply with payload := .record [("data", reply.payload)] }

/-- Tells the procedure in a header. -/
def tagResponse : Service.Hook World :=
  .ofChange fun exchange => exchange.mapReply fun reply =>
    reply.setHeader "X-Procedure" exchange.procedure

def hooks : Registry (Service.Hook World) :=
  .ofList [("set_greeting_target", setGreetingTarget), ("tag_response", tagResponse),
    ("wrap_payload", wrapPayload)]

end Provided
end RoutineGate
