import RoutineGate.Proofs.Json.Documents
import RoutineGate.Proofs.Service.Order

/-!
# Bodies of requests

A body is read as the value that it spells, and one that spells none is refused.  Two kinds of
bodies are neither read nor refused, but break the reading: bytes that are no text, and texts
that get to an integer of too many digits.
-/

namespace RoutineGate
namespace Service

/-! ## Reading -/

/-- A body that breaks its reading, with the fault that comes of it. -/
inductive BreaksBody (bytes : List UInt8) : Fault → Prop
  /-- The bytes are no text in the encoding that they name. -/
  | undecodable (noText : Json.decodeBytes? bytes = none) : BreaksBody bytes .undecodable
  /-- The text gets to an integer of too many digits. -/
  | long {chars : List Char} {count : Nat}
      (decoded : Json.decodeBytes? bytes = some chars)
      (hasLong : Json.HasLong count chars) :
      BreaksBody bytes (.integer (.tooManyDigits count))

/-- A body that spells a value. -/
def SpellsBody (bytes : List UInt8) (value : Value) : Prop :=
  ∃ chars, Json.decodeBytes? bytes = some chars ∧ Json.IsDocument chars value

theorem not_breaksBody_nil (fault : Fault) : ¬BreaksBody [] fault := by
  rintro (noText | ⟨decoded, before, text, isGap, reaches, same⟩)
  · exact absurd noText (by decide)
  · have empty : Json.decodeBytes? [] = some [] := rfl
    obtain rfl := Option.some.inj (empty.symm.trans decoded)
    obtain ⟨-, rfl⟩ := List.append_eq_nil_iff.mp same.symm
    exact absurd reaches.isStart.length_pos (Nat.lt_irrefl 0)

/-- A body with some bytes is read as the value that it spells. -/
theorem readBody_eq_ok_iff
    {bytes : List UInt8}
    (nonempty : bytes ≠ [])
    {value : Value} :
    readBody bytes = .ok value ↔ SpellsBody bytes value := by
  have notEmpty : bytes.isEmpty = false := by simpa using nonempty
  rw [readBody, notEmpty, SpellsBody, Json.parseBytes]
  cases Json.decodeBytes? bytes with
  | none => simp
  | some chars =>
      simp only [Option.some.injEq, exists_eq_left', ← Json.parse_eq_ok_iff]
      cases Json.parse chars with
      | ok read => simp
      | error error => cases error <;> simp

/-- Reading a body fails with a fault exactly if the body breaks it. -/
theorem readBody_eq_fault_iff
    {bytes : List UInt8}
    {fault : Fault} :
    readBody bytes = .error (.fault fault) ↔ BreaksBody bytes fault := by
  by_cases empty : bytes = []
  · subst empty
    exact iff_of_false (by simp [readBody]) (not_breaksBody_nil fault)
  · have notEmpty : bytes.isEmpty = false := by simpa using empty
    rw [readBody, notEmpty, Json.parseBytes]
    cases decoded : Json.decodeBytes? bytes with
    | none =>
        constructor
        · intro failed
          obtain rfl : Fault.undecodable = fault := by simpa using failed
          exact .undecodable decoded
        · rintro (_ | ⟨some, -⟩)
          · rfl
          · exact absurd (decoded.symm.trans some) (by simp)
    | some chars =>
        have parses : (∃ count, fault = .integer (.tooManyDigits count) ∧
            Json.HasLong count chars) ↔ BreaksBody bytes fault := by
          constructor
          · rintro ⟨count, rfl, hasLong⟩
            exact .long decoded hasLong
          · rintro (none | ⟨same, hasLong⟩)
            · exact absurd (decoded.symm.trans none) (by simp)
            · obtain rfl := Option.some.inj (decoded.symm.trans same)
              exact ⟨_, rfl, hasLong⟩
        rw [← parses, ← Json.parse_eq_fault_iff]
        cases parsed : Json.parse chars with
        | ok read => simp [parsed]
        | error error => cases error <;> simp [parsed]

/-- Whatever the bytes of a body are, it is empty, is read, is refused or breaks its reading. -/
theorem readBody_cases (bytes : List UInt8) :
    (bytes = [] ∧ readBody bytes = .ok .null) ∨
      (∃ value, SpellsBody bytes value ∧ readBody bytes = .ok value) ∨
      ((∀ value, ¬SpellsBody bytes value) ∧ readBody bytes = .error (.rejection .invalidBody)) ∨
      ∃ fault, BreaksBody bytes fault ∧ readBody bytes = .error (.fault fault) := by
  by_cases empty : bytes = []
  · subst empty
    exact .inl ⟨rfl, rfl⟩
  · right
    cases read : readBody bytes with
    | ok value => exact .inl ⟨value, (readBody_eq_ok_iff empty).mp read, rfl⟩
    | error interruption =>
        right
        have notEmpty : bytes.isEmpty = false := by simpa using empty
        have spellsNone : ∀ value, ¬SpellsBody bytes value := fun value spells => by
          rw [(readBody_eq_ok_iff empty).mpr spells] at read
          exact absurd read (by simp)
        cases parsed : Json.parseBytes bytes with
        | ok value => simp [readBody, notEmpty, parsed] at read
        | error error =>
            cases error with
            | malformed =>
                obtain rfl : Interruption.rejection .invalidBody = interruption := by
                  simpa [readBody, notEmpty, parsed] using read
                exact .inl ⟨spellsNone, rfl⟩
            | fault found =>
                obtain rfl : Interruption.fault found = interruption := by
                  simpa [readBody, notEmpty, parsed] using read
                exact .inr ⟨found, readBody_eq_fault_iff.mp read, rfl⟩

/-! ## Answers -/

/-- The answer to an invalid payload. -/
def invalidAnswer : Http.Response where
  status := 400
  headers := [(Http.contentType, "application/json")]
  body := "\x7b\"message\":\"Invalid JSON payload\"\x7d"

theorem response_invalidBody : Http.Rejection.invalidBody.response = invalidAnswer := by
  decide +kernel

/--
What is promised of a request with a body: an empty one is null, one that spells a value is read
as it, and any other one is answered as an invalid payload.
-/
inductive HandlesBody (bytes : List UInt8) (response : Http.Response) : Prop
  | empty (none : bytes = []) (read : readBody bytes = .ok .null)
  | value {value : Value} (spells : SpellsBody bytes value) (read : readBody bytes = .ok value)
  | refused (spellsNone : ∀ value, ¬SpellsBody bytes value) (answered : response = invalidAnswer)

/-- A body that breaks its reading is not handled as promised. -/
theorem not_handlesBody
    {bytes : List UInt8}
    {fault : Fault}
    (broken : readBody bytes = .error (.fault fault)) :
    ¬HandlesBody bytes .internalError := by
  rintro (⟨-, read⟩ | ⟨-, read⟩ | ⟨-, answered⟩)
  · exact absurd (read.symm.trans broken) (by simp)
  · exact absurd (read.symm.trans broken) (by simp)
  · exact absurd answered (by decide)

namespace Lifecycle

variable {World : Type} (database : Database.ProcedureDatabase World) (verifier : Auth.Verifier)
variable (now : Int) (route : Route (Hook World))

/-- The steps before the validation, in order. -/
def stepsBeforeValidation (route : Route (Hook World)) : List (Step World) :=
  hookSteps route .onRequest ++ (.sender :: route.guards.map .guard) ++
    hookSteps route .preValidation

/-- What fails when the body is read decides the response. -/
theorem response_of_readBody_eq_error
    {exchange : Exchange}
    {world : World}
    {stage : Stage World}
    (reached : (stepsBeforeValidation route).foldlM (advance database verifier now route)
      { exchange, world } = .ok stage)
    {interruption : Interruption}
    (failed : readBody stage.exchange.request.body = .error interruption) :
    (handle database verifier now route exchange world).1 = interruption.response := by
  have unmade := last_foldlM_of_kept (advance database verifier now route) Stage.response
    (fun stage step (member : step ∈ stepsBeforeValidation route) =>
      response_advance database verifier now route (by
        rintro rfl
        simp [stepsBeforeValidation, hookSteps] at member) stage)
    { exchange, world }
  rw [reached] at unmade
  have split : plan route = stepsBeforeValidation route ++ .validation ::
      (hookSteps route .preHandler ++ (.call :: stepsAfterCall route) ++ [.response] ++
        hookSteps route .onResponse) := by
    simp [plan, servingSteps, stepsBeforeCall, stepsBeforeValidation]
  have stops : advance database verifier now route stage .validation =
      .error (interruption, stage) := by
    simp only [advance, advanceValidation, readSections, failed, Except.map, Except.bind]
  rw [handle_eq, split, List.foldlM_append, reached]
  simp only [bind, Except.bind, List.foldlM_cons, stops, replyOf]
  rw [show stage.response = none from unmade]
  rfl

/--
A request that gets to its validation is handled as promised exactly if its body does not break
the reading; a body that does is answered as an internal error.
-/
theorem handlesBody_iff
    {exchange : Exchange}
    {world : World}
    {stage : Stage World}
    (reached : (stepsBeforeValidation route).foldlM (advance database verifier now route)
      { exchange, world } = .ok stage) :
    (HandlesBody stage.exchange.request.body
        (handle database verifier now route exchange world).1 ↔
      ∀ fault, ¬BreaksBody stage.exchange.request.body fault) ∧
    ∀ fault, BreaksBody stage.exchange.request.body fault →
      (handle database verifier now route exchange world).1 = .internalError := by
  have failing {fault : Fault} (breaks : BreaksBody stage.exchange.request.body fault) :
      (handle database verifier now route exchange world).1 = .internalError :=
    response_of_readBody_eq_error database verifier now route reached
      (readBody_eq_fault_iff.mpr breaks)
  refine ⟨⟨?_, ?_⟩, fun fault breaks => failing breaks⟩
  · intro handles fault breaks
    rw [failing breaks] at handles
    exact not_handlesBody (readBody_eq_fault_iff.mpr breaks) handles
  · intro whole
    obtain ⟨empty, read⟩ | ⟨value, spells, read⟩ | ⟨spellsNone, refused⟩ | ⟨fault, breaks, -⟩ :=
      readBody_cases stage.exchange.request.body
    · exact .empty empty read
    · exact .value spells read
    · refine .refused spellsNone ?_
      rw [response_of_readBody_eq_error database verifier now route reached refused]
      exact response_invalidBody
    · exact absurd breaks (whole fault)

/-! ## Two bodies -/

/-- A procedure that is called with a body. -/
def entryProcedure : Procedure where
  name := "api_post_entry"

/-- An exchange that starts with a body. -/
def entryExchange (body : List UInt8) : Exchange where
  request := { method := "POST", path := "/entry", body }
  procedure := "api_post_entry"

/-- The procedure is compiled, and its requests get to the validation with their bodies. -/
theorem exists_entryRoute :
    ∃ route, Route.compile ({} : CompileContext (Hook Unit)) entryProcedure = .ok route ∧
      ∀ body, ∃ stage : Stage Unit, stage.exchange.request.body = body ∧
        (stepsBeforeValidation route).foldlM (advance idleDatabase {} 0 route)
          { exchange := entryExchange body, world := () } = .ok stage := by
  have parts : (Route.compile ({} : CompileContext (Hook Unit)) entryProcedure).toOption.map
      (fun route => (route.guards.length, route.hooks.length)) = some (0, 0) := by
    decide +kernel
  obtain ⟨route, compiled, parts⟩ := exists_ok_of_toOption_map parts
  simp only [Prod.mk.injEq, List.length_eq_zero_iff] at parts
  obtain ⟨unguarded, unhooked⟩ := parts
  have steps : stepsBeforeValidation route = [.sender] := by
    simp [stepsBeforeValidation, hookSteps, Route.hooksFor, unguarded, unhooked]
  refine ⟨route, compiled, fun body => ?_⟩
  rw [steps]
  refine ⟨_, ?_, rfl⟩
  rfl

/-- An opening brace alone spells nothing, and is answered as an invalid payload. -/
theorem handlesBody_openedRecord :
    ∃ route, Route.compile ({} : CompileContext (Hook Unit)) entryProcedure = .ok route ∧
      HandlesBody [0x7B]
        (handle idleDatabase {} 0 route (entryExchange [0x7B]) ()).1 := by
  obtain ⟨route, compiled, starts⟩ := exists_entryRoute
  obtain ⟨stage, carried, reached⟩ := starts [0x7B]
  refine ⟨route, compiled, ?_⟩
  have handled := (handlesBody_iff idleDatabase {} 0 route reached).1
  rw [carried] at handled
  refine handled.mpr fun fault breaks => ?_
  have refused : readBody [0x7B] = .error (.rejection .invalidBody) := by rfl
  exact absurd (refused.symm.trans (readBody_eq_fault_iff.mpr breaks)) (by simp)

/-- A byte that is no text is answered as an internal error. -/
theorem not_handlesBody_strayByte :
    ∃ route, Route.compile ({} : CompileContext (Hook Unit)) entryProcedure = .ok route ∧
      ¬HandlesBody [0xFF]
        (handle idleDatabase {} 0 route (entryExchange [0xFF]) ()).1 := by
  obtain ⟨route, compiled, starts⟩ := exists_entryRoute
  obtain ⟨stage, carried, reached⟩ := starts [0xFF]
  refine ⟨route, compiled, ?_⟩
  have broken : readBody [0xFF] = .error (.fault .undecodable) := by rfl
  rw [response_of_readBody_eq_error idleDatabase {} 0 route reached (carried ▸ broken)]
  exact not_handlesBody broken

end Lifecycle
end Service
end RoutineGate
