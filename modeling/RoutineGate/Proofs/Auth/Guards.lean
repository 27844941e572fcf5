import RoutineGate.Service.Lifecycle

/-!
# What guards ask for

A guard for roles or permissions asks for one of several names, which are the arguments that it
is made with.  A claim grants a name as a text, or as a list with an item whose text is the name.
What else counts as true is taken apart as well: a record grants its keys, and anything else
breaks the guard.
-/

namespace RoutineGate
namespace Auth

/-! ## Making guards -/

/-- The names that arguments ask for; empty ones do not count. -/
def requiredNames (arguments : List String) : List String :=
  arguments.filter (!·.isEmpty)

theorem ne_empty_of_mem_requiredNames
    {arguments : List String}
    {name : String}
    (member : name ∈ requiredNames arguments) :
    name ≠ "" := by
  rintro rfl
  simp [requiredNames] at member

/-- A guard for a claim is made exactly of arguments that ask for a name. -/
theorem make_claim_eq_ok_iff
    {asked : Claim}
    {arguments : List String}
    {guard : Guard} :
    (GuardKind.claim asked).make arguments = .ok guard ↔
      requiredNames arguments ≠ [] ∧ guard = .claim asked (requiredNames arguments) := by
  have made : (GuardKind.claim asked).make arguments =
      if (requiredNames arguments).isEmpty then .error ⟨asked⟩
      else .ok (.claim asked (requiredNames arguments)) := rfl
  rw [made]
  cases requiredNames arguments with
  | nil => simp
  | cons name names => simp [eq_comm]

/-! ## Claims -/

/-- The user of a context is authorised. -/
def Context.IsKnown (context : Context) : Prop :=
  context.isAuthenticated = true ∧ context.isAuthorised = true

/-- The user of a context, if there is one, is told by a record. -/
def Context.IsRecorded (context : Context) : Prop :=
  ∀ value, context.user = some value → ∃ entries, value = .record entries

/-- What the user of a context claims. -/
def Context.claim? (context : Context) (asked : Claim) : Option Value :=
  match context.user with
  | some (.record entries) => entries.lookup asked.key
  | _ => none

/-- A claim grants a name: it is the name, or a list with an item whose text is the name. -/
def Grants (name : String) : Value → Prop
  | .text content => content = name
  | .list items => ∃ item ∈ items, item.plain = name
  | _ => False

/-- A claim is a record with a name as a key. -/
def HasKey (name : String) : Value → Prop
  | .record entries => name ∈ entries.map Prod.fst
  | _ => False

/-- A claim cannot be taken apart, and counts as true. -/
def IsUnreadable : Value → Prop
  | .text _ | .list _ | .record _ => False
  | value => value.isTruthy = true

/-- The user of a context is granted one of some names. -/
def Context.Holds (context : Context) (asked : Claim) (names : List String) : Prop :=
  ∃ value, context.claim? asked = some value ∧ ∃ name ∈ names, Grants name value

/-- The claim of a user grants one of some names or has one as a key. -/
def Context.Offers (context : Context) (asked : Claim) (names : List String) : Prop :=
  ∃ value, context.claim? asked = some value ∧
    ∃ name ∈ names, Grants name value ∨ HasKey name value

/-- The claim of a user grants no name, but has one as a key or cannot be taken apart. -/
def Context.IsMisread (context : Context) (asked : Claim) (names : List String) : Prop :=
  ∃ value, context.claim? asked = some value ∧
    ((∃ name ∈ names, HasKey name value) ∨ IsUnreadable value)

/-- A record is no text and no list. -/
theorem not_grants_of_hasKey
    {name other : String}
    {value : Value}
    (keyed : HasKey other value) :
    ¬Grants name value := by
  cases value with
  | record entries => exact not_false
  | _ => exact absurd keyed not_false

theorem not_isUnreadable_of_hasKey
    {name : String}
    {value : Value}
    (keyed : HasKey name value) :
    ¬IsUnreadable value := by
  cases value with
  | record entries => exact not_false
  | _ => exact absurd keyed not_false

/-- What a claim gives that is taken apart if it counts as true. -/
def readNames (value : Value) : Except Fault (List String) :=
  if value.isTruthy then grantedNames value else .ok []

/-- Reading a claim fails exactly if it cannot be taken apart. -/
theorem readNames_eq_error_iff
    {value : Value}
    {fault : Fault} :
    readNames value = .error fault ↔
      IsUnreadable value ∧ fault = .notIterable value.typeName := by
  unfold readNames
  by_cases truthy : value.isTruthy = true
  · rw [if_pos truthy]
    cases value with
    | text content => simp [grantedNames, IsUnreadable]
    | list items => simp [grantedNames, IsUnreadable]
    | record entries => simp [grantedNames, IsUnreadable]
    | _ =>
        simp only [grantedNames, Except.error.injEq]
        exact eq_comm.trans (and_iff_right truthy).symm
  · rw [if_neg truthy]
    refine iff_of_false (by simp) ?_
    rintro ⟨unreadable, -⟩
    cases value with
    | text content => exact unreadable
    | list items => exact unreadable
    | record entries => exact unreadable
    | _ => exact truthy unreadable

/-- A claim that can be read gives the names that it grants and those of its keys. -/
theorem mem_iff_of_readNames
    {value : Value}
    {granted : List String}
    {name : String}
    (nonempty : name ≠ "")
    (read : readNames value = .ok granted) :
    name ∈ granted ↔ Grants name value ∨ HasKey name value := by
  cases value with
  | text content =>
      by_cases empty : content = ""
      · obtain rfl : [] = granted := by simpa [readNames, Value.isTruthy, empty] using read
        simp [Grants, HasKey, empty, Ne.symm nonempty]
      · obtain rfl : [content] = granted := by
          simpa [readNames, Value.isTruthy, grantedNames, empty] using read
        simp [Grants, HasKey, eq_comm]
  | list items =>
      obtain rfl : items.map Value.plain = granted := by
        cases items <;> simpa [readNames, Value.isTruthy, grantedNames] using read
      simp [Grants, HasKey]
  | record entries =>
      obtain rfl : entries.map Prod.fst = granted := by
        cases entries <;> simpa [readNames, Value.isTruthy, grantedNames] using read
      simp [Grants, HasKey]
  | _ =>
      -- a claim of any other kind that can be read counts as false
      simp only [readNames, grantedNames] at read
      split at read
      · contradiction
      · obtain rfl := Except.ok.inj read
        simp [Grants, HasKey]

section Reading

variable {context : Context} {asked : Claim} (recorded : context.IsRecorded)

include recorded

theorem claimed_eq :
    claimed context asked =
      match context.claim? asked with
      | some value => readNames value
      | none => .ok [] := by
  rw [claimed, Context.claim?]
  cases told : context.user with
  | none => rfl
  | some value =>
      obtain ⟨entries, rfl⟩ := recorded value told
      rfl

/-- Reading what a user claims fails exactly at a claim that cannot be taken apart. -/
theorem claimed_eq_error_iff
    {fault : Fault} :
    claimed context asked = .error fault ↔
      ∃ value, context.claim? asked = some value ∧ IsUnreadable value ∧
        fault = .notIterable value.typeName := by
  rw [claimed_eq recorded]
  cases context.claim? asked with
  | none => simp
  | some value => simp [readNames_eq_error_iff]

/-- What a user claims gives the names that the claim grants and those of its keys. -/
theorem mem_iff_of_claimed
    {granted : List String}
    {name : String}
    (nonempty : name ≠ "")
    (read : claimed context asked = .ok granted) :
    name ∈ granted ↔
      ∃ value, context.claim? asked = some value ∧ (Grants name value ∨ HasKey name value) := by
  rw [claimed_eq recorded] at read
  cases told : context.claim? asked with
  | none =>
      rw [told] at read
      obtain rfl := Except.ok.inj read
      simp
  | some value =>
      rw [told] at read
      simpa using mem_iff_of_readNames nonempty read

end Reading

/-! ## Verdicts -/

section Verdicts

variable {asked : Claim} {names : List String} {context : Context}

theorem check_of_not_isKnown
    (unknown : ¬context.IsKnown)
    (guard : Guard) :
    guard.check context = .unauthorized := by
  have rejected : (context.isAuthenticated && context.isAuthorised) = false := by
    simpa [Context.IsKnown] using unknown
  simp [Guard.check, rejected]

/-- What a guard for a claim decides on an authorised user. -/
theorem check_of_isKnown
    (known : context.IsKnown) :
    (Guard.claim asked names).check context =
      match claimed context asked with
      | .ok granted => if names.any granted.contains then .pass else .forbidden
      | .error fault => .fault fault := by
  have accepted : (context.isAuthenticated && context.isAuthorised) = true := by
    simpa [Context.IsKnown] using known
  exact if_pos accepted

variable (known : context.IsKnown) (recorded : context.IsRecorded)

include known recorded

/-- A claim that cannot be taken apart breaks the guard. -/
theorem check_of_isUnreadable
    {value : Value}
    (told : context.claim? asked = some value)
    (unreadable : IsUnreadable value) :
    (Guard.claim asked names).check context = .fault (.notIterable value.typeName) := by
  have broken := (claimed_eq_error_iff recorded).mpr ⟨value, told, unreadable, rfl⟩
  rw [check_of_isKnown known, broken]

variable (nonempty : ∀ name ∈ names, name ≠ "")
variable (readable : ∀ value, context.claim? asked = some value → ¬IsUnreadable value)

include nonempty readable

/-- Unless the claim cannot be taken apart, the names that it gives decide. -/
theorem exists_check_eq :
    ∃ granted : List String,
      (Guard.claim asked names).check context =
        (if names.any granted.contains then .pass else .forbidden) ∧
      (names.any granted.contains = true ↔ context.Offers asked names) := by
  rw [check_of_isKnown known]
  cases read : claimed context asked with
  | error fault =>
      obtain ⟨value, told, unreadable, -⟩ := (claimed_eq_error_iff recorded).mp read
      exact absurd unreadable (readable value told)
  | ok granted =>
      refine ⟨granted, rfl, ?_⟩
      simp only [List.any_eq_true, List.contains_iff_mem]
      constructor
      · rintro ⟨name, member, listed⟩
        obtain ⟨value, told, gives⟩ :=
          (mem_iff_of_claimed recorded (nonempty name member) read).mp listed
        exact ⟨value, told, name, member, gives⟩
      · rintro ⟨value, told, name, member, gives⟩
        exact ⟨name, member,
          (mem_iff_of_claimed recorded (nonempty name member) read).mpr ⟨value, told, gives⟩⟩

theorem check_of_offers
    (offers : context.Offers asked names) :
    (Guard.claim asked names).check context = .pass := by
  obtain ⟨granted, decided, asks⟩ := exists_check_eq known recorded nonempty readable
  rw [decided, if_pos (asks.mpr offers)]

theorem check_of_not_offers
    (lacks : ¬context.Offers asked names) :
    (Guard.claim asked names).check context = .forbidden := by
  obtain ⟨granted, decided, asks⟩ := exists_check_eq known recorded nonempty readable
  rw [decided, if_neg fun found => lacks (asks.mp found)]

omit readable in
/-- A record with one of the names as a key passes. -/
theorem check_of_hasKey
    {value : Value}
    (told : context.claim? asked = some value)
    (keyed : ∃ name ∈ names, HasKey name value) :
    (Guard.claim asked names).check context = .pass := by
  obtain ⟨name, member, keyed⟩ := keyed
  refine check_of_offers known recorded nonempty (fun other otherTold => ?_)
    ⟨value, told, name, member, .inr keyed⟩
  obtain rfl : value = other := Option.some.inj (told.symm.trans otherTold)
  exact not_isUnreadable_of_hasKey keyed

end Verdicts

end Auth

namespace Service
namespace Lifecycle

open Auth

variable {World : Type}

/--
What is to become of an exchange at a guard that asks for one of some names: a sender who is not
known is rejected with 401, one who is granted a name passes, and anyone else is rejected with
403.
-/
inductive Ruling (asked : Claim) (names : List String) (exchange : Exchange) :
    Except Interruption Exchange → Prop where
  | unauthorized {rejection : Http.Rejection} (unknown : ¬exchange.sender.IsKnown)
      (status : rejection.status = 401) :
      Ruling asked names exchange (.error (.rejection rejection))
  | pass (known : exchange.sender.IsKnown) (holds : exchange.sender.Holds asked names) :
      Ruling asked names exchange (.ok exchange)
  | forbidden {rejection : Http.Rejection} (known : exchange.sender.IsKnown)
      (lacks : ¬exchange.sender.Holds asked names) (status : rejection.status = 403) :
      Ruling asked names exchange (.error (.rejection rejection))

/-- A guard decides by its verdict on the sender alone. -/
theorem applyGuard_standard
    (guard : Guard)
    (exchange : Exchange)
    (world : World) :
    applyGuard (.standard guard) exchange world =
      ((obey (guard.check exchange.sender)).map fun () => exchange, world) := rfl

section Rulings

variable {asked : Claim} {names : List String} {exchange : Exchange}
variable (known : exchange.sender.IsKnown) (recorded : exchange.sender.IsRecorded)
variable (nonempty : ∀ name ∈ names, name ≠ "")

include known recorded nonempty

/-- A claim that is not misread decides by the names that it grants. -/
theorem ruling_of_not_isMisread
    (read : ¬exchange.sender.IsMisread asked names)
    (world : World) :
    Ruling asked names exchange
      (applyGuard (.standard (.claim asked names)) exchange world).1 := by
  have readable : ∀ value, exchange.sender.claim? asked = some value → ¬IsUnreadable value :=
    fun value told unreadable => read ⟨value, told, .inr unreadable⟩
  rw [applyGuard_standard]
  by_cases holds : exchange.sender.Holds asked names
  · obtain ⟨value, told, name, member, grants⟩ := id holds
    rw [check_of_offers known recorded nonempty readable ⟨value, told, name, member, .inl grants⟩]
    exact .pass known holds
  · rw [check_of_not_offers known recorded nonempty readable]
    · exact .forbidden known holds rfl
    · rintro ⟨value, told, name, member, grants | keyed⟩
      · exact holds ⟨value, told, name, member, grants⟩
      · exact read ⟨value, told, .inl ⟨name, member, keyed⟩⟩

/-- A claim that is misread passes without a name or breaks the guard. -/
theorem not_ruling_of_isMisread
    (misread : exchange.sender.IsMisread asked names)
    (world : World) :
    ¬Ruling asked names exchange
      (applyGuard (.standard (.claim asked names)) exchange world).1 := by
  obtain ⟨value, told, keyed | unreadable⟩ := misread
  · rw [applyGuard_standard, check_of_hasKey known recorded nonempty told keyed]
    rintro (_ | ⟨-, other, otherTold, asksFor, -, grants⟩)
    obtain rfl : value = other := Option.some.inj (told.symm.trans otherTold)
    obtain ⟨name, -, keyed⟩ := keyed
    exact not_grants_of_hasKey keyed grants
  · rw [applyGuard_standard, check_of_isUnreadable known recorded told unreadable]
    rintro ⟨⟩

end Rulings

section Claims

variable {asked : Claim} {arguments : List String} {guard : Guard}
variable (made : (GuardKind.claim asked).make arguments = .ok guard)
variable {exchange : Exchange} (recorded : exchange.sender.IsRecorded)

include made recorded

/--
A guard for a claim decides by the names that the claim grants exactly if the claim of an
authorised sender is not misread.  A record with one of the names as a key passes, and what
cannot be taken apart interrupts the exchange with a fault.
-/
theorem ruling_iff_not_isMisread (world : World) :
    (Ruling asked (requiredNames arguments) exchange
        (applyGuard (.standard guard) exchange world).1 ↔
      ¬(exchange.sender.IsKnown ∧
        exchange.sender.IsMisread asked (requiredNames arguments))) ∧
    (exchange.sender.IsKnown → ∀ value, exchange.sender.claim? asked = some value →
      ((∃ name ∈ requiredNames arguments, HasKey name value) →
        (applyGuard (.standard guard) exchange world).1 = .ok exchange) ∧
      (IsUnreadable value → (applyGuard (.standard guard) exchange world).1 =
        .error (.fault (.notIterable value.typeName)))) ∧
    (applyGuard (.standard guard) exchange world).2 = world := by
  obtain ⟨-, rfl⟩ := make_claim_eq_ok_iff.mp made
  have nonempty : ∀ name ∈ requiredNames arguments, name ≠ "" :=
    fun name => ne_empty_of_mem_requiredNames
  refine ⟨⟨?_, ?_⟩, fun known value told => ⟨fun keyed => ?_, fun unreadable => ?_⟩, rfl⟩
  · rintro ruling ⟨known, misread⟩
    exact not_ruling_of_isMisread known recorded nonempty misread world ruling
  · intro fine
    by_cases known : exchange.sender.IsKnown
    · exact ruling_of_not_isMisread known recorded nonempty
        (fun misread => fine ⟨known, misread⟩) world
    · rw [applyGuard_standard, check_of_not_isKnown known]
      exact .unauthorized known rfl
  · rw [applyGuard_standard, check_of_hasKey known recorded nonempty told keyed]
    rfl
  · rw [applyGuard_standard, check_of_isUnreadable known recorded told unreadable]
    rfl

end Claims

/-- An exchange whose sender is authorised and claims some roles. -/
def exchangeWithRoles (roles : Value) : Exchange where
  request := { method := "GET", path := "/" }
  procedure := "api_get_users"
  context := some {
    isAuthenticated := true
    isAuthorised := true
    user := some (.record [("roles", roles)]) }

/-- Roles in a list are read by their texts. -/
theorem ruling_listedRole :
    (GuardKind.claim .role).make ["", "7"] = .ok (.claim .role ["7"]) ∧
      (exchangeWithRoles (.list [.text "editor", .int 7])).sender.IsRecorded ∧
      Ruling .role ["7"] (exchangeWithRoles (.list [.text "editor", .int 7]))
        (applyGuard (.standard (.claim .role ["7"]))
          (exchangeWithRoles (.list [.text "editor", .int 7])) ()).1 := by
  have made : (GuardKind.claim .role).make ["", "7"] = .ok (.claim .role ["7"]) :=
    make_claim_eq_ok_iff.mpr ⟨by decide, rfl⟩
  have recorded : (exchangeWithRoles (.list [.text "editor", .int 7])).sender.IsRecorded := by
    intro value told
    exact ⟨_, (Option.some.inj told).symm⟩
  refine ⟨made, recorded, (ruling_iff_not_isMisread made recorded ()).1.mpr ?_⟩
  rintro ⟨-, value, told, misread⟩
  obtain rfl : Value.list [.text "editor", .int 7] = value := Option.some.inj told
  obtain ⟨name, -, keyed⟩ | unreadable := misread
  · exact keyed
  · exact unreadable

/-- A number as the roles breaks the guard, and the key of a record passes for a role. -/
theorem not_ruling_misreadRoles :
    ¬Ruling .role ["admin"] (exchangeWithRoles (.int 5))
        (applyGuard (.standard (.claim .role ["admin"])) (exchangeWithRoles (.int 5)) ()).1 ∧
      ¬Ruling .role ["admin"] (exchangeWithRoles (.record [("admin", .int 0)]))
        (applyGuard (.standard (.claim .role ["admin"]))
          (exchangeWithRoles (.record [("admin", .int 0)])) ()).1 := by
  constructor
  · have broken : (applyGuard (.standard (.claim .role ["admin"]))
        (exchangeWithRoles (.int 5)) ()).1 = .error (.fault (.notIterable "int")) := rfl
    rw [broken]
    rintro ⟨⟩
  · have passed : (applyGuard (.standard (.claim .role ["admin"]))
        (exchangeWithRoles (.record [("admin", .int 0)])) ()).1 =
          .ok (exchangeWithRoles (.record [("admin", .int 0)])) := by
      rw [applyGuard_standard]
      rfl
    rw [passed]
    rintro (_ | ⟨-, value, told, name, -, grants⟩)
    obtain rfl : Value.record [("admin", .int 0)] = value := Option.some.inj told
    exact grants

end Lifecycle
end Service
end RoutineGate
