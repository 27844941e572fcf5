import RoutineGate.Proofs.Schema.Membership
import RoutineGate.Proofs.Schema.Options
import RoutineGate.Proofs.Schema.Parts

/-!
# Shapes describe what is accepted

A schema with a shape accepts the values of that shape, and null if it is nullable, without
ever ending with a fault.  Options of a union with the same shape accept the same values, so
that leaving out repeated ones does not change what a union accepts.
-/

namespace RoutineGate
namespace Schema
namespace Shape

mutual

/-- The values of a shape. -/
def Admits : Shape → Value → Prop
  | .any, _ => True
  | .text, value => ∃ read, readText value = .ok read
  | .coercedText, value => ∃ read, readText (coerceText value) = .ok read
  | .number, value => ∃ read, readNumber value = .ok read
  | .integer, value => ∃ read, readInteger value = .ok read
  | .boolean, value => ∃ read, readBoolean value = .ok read
  | .members allowed, value => ∃ found, findMember allowed value = .ok found
  | .list nullable item, value =>
      ∃ parts, value = .list parts ∧
        ∀ part ∈ parts, nullable = true ∧ part = .null ∨ item.Admits part
  | .union nullable options, value =>
      nullable = true ∧ value = .null ∨ AdmitsOne options value

/-- The values of one of several shapes. -/
def AdmitsOne : List Shape → Value → Prop
  | [], _ => False
  | option :: options, value => option.Admits value ∨ AdmitsOne options value

end

mutual

/-- A shape whose members are scalars that equal themselves. -/
def IsProper : Shape → Prop
  | .members allowed => ∀ value ∈ allowed, isComparable value = true
  | .list _ item => item.IsProper
  | .union _ options => AreProper options
  | _ => True

/-- Shapes whose members are scalars that equal themselves. -/
def AreProper : List Shape → Prop
  | [] => True
  | option :: options => option.IsProper ∧ AreProper options

end

theorem admitsOne_iff
    {options : List Shape}
    {value : Value} :
    AdmitsOne options value ↔ ∃ option ∈ options, option.Admits value := by
  induction options with
  | nil => simp [AdmitsOne]
  | cons option options inductionHypothesis => simp [AdmitsOne, inductionHypothesis]

theorem areProper_iff
    {options : List Shape} :
    AreProper options ↔ ∀ option ∈ options, option.IsProper := by
  induction options with
  | nil => simp [AreProper]
  | cons option options inductionHypothesis => simp [AreProper, inductionHypothesis]

mutual

/-- The same shapes have the same values. -/
theorem admits_iff_of_same :
    (shape other : Shape) → shape.IsProper → other.IsProper → shape.same other = true →
      (value : Value) → (shape.Admits value ↔ other.Admits value)
  | .any, other, _, _, same, value
  | .text, other, _, _, same, value
  | .coercedText, other, _, _, same, value
  | .number, other, _, _, same, value
  | .integer, other, _, _, same, value
  | .boolean, other, _, _, same, value => by
      cases other <;> first | rfl | exact absurd same (by simp [Shape.same])
  | .members allowed, other, proper, otherProper, same, value => by
      cases other with
      | members others =>
          obtain ⟨forth, back⟩ := Bool.and_eq_true_iff.mp same
          exact findMember_isOk_congr proper otherProper (areAmong_iff.mp forth)
            (areAmong_iff.mp back)
      | _ => exact absurd same (by simp [Shape.same])
  | .list nullable item, other, proper, otherProper, same, value => by
      cases other with
      | list otherNullable otherItem =>
          obtain ⟨nullables, items⟩ := Bool.and_eq_true_iff.mp same
          obtain rfl := eq_of_beq nullables
          have each := admits_iff_of_same item otherItem proper otherProper items
          simp only [Admits, each]
      | _ => exact absurd same (by simp [Shape.same])
  | .union nullable options, other, proper, otherProper, same, value => by
      cases other with
      | union otherNullable others =>
          rw [Shape.same, Bool.and_eq_true_iff, Bool.and_eq_true_iff] at same
          obtain ⟨⟨nullables, forth⟩, back⟩ := same
          obtain rfl := eq_of_beq nullables
          have one : AdmitsOne options value ↔ AdmitsOne others value := by
            constructor
            · exact admitsOne_of_allAmong options others proper otherProper forth value
            · intro admitted
              obtain ⟨other, listed, admits⟩ := admitsOne_iff.mp admitted
              exact admitsOne_of_hasAmong options other proper
                (areProper_iff.mp otherProper other listed) (List.all_eq_true.mp back other listed)
                value admits
          simp only [Admits, one]
      | _ => exact absurd same (by simp [Shape.same])

theorem admitsOne_of_allAmong :
    (options others : List Shape) → AreProper options → AreProper others →
      allAmong options others = true → (value : Value) →
        AdmitsOne options value → AdmitsOne others value
  | [], others, _, _, _, value, admitted => admitted.elim
  | option :: options, others, proper, otherProper, among, value, admitted => by
      obtain ⟨here, later⟩ := Bool.and_eq_true_iff.mp among
      obtain first | rest := admitted
      · obtain ⟨other, listed, same⟩ := List.any_eq_true.mp here
        have otherIsProper := areProper_iff.mp otherProper other listed
        refine admitsOne_iff.mpr ⟨other, listed, ?_⟩
        exact (admits_iff_of_same option other proper.1 otherIsProper same value).mp first
      · exact admitsOne_of_allAmong options others proper.2 otherProper later value rest

theorem admitsOne_of_hasAmong :
    (options : List Shape) → (other : Shape) → AreProper options → other.IsProper →
      hasAmong options other = true → (value : Value) →
        other.Admits value → AdmitsOne options value
  | [], other, _, _, among, value, _ => absurd among (by simp [hasAmong])
  | option :: options, other, proper, otherProper, among, value, admits => by
      obtain same | later := Bool.or_eq_true_iff.mp among
      · exact .inl ((admits_iff_of_same option other proper.1 otherProper same value).mpr admits)
      · exact .inr (admitsOne_of_hasAmong options other proper.2 otherProper later value admits)

end

end Shape

/-! ## What schemas with a shape accept -/

/-- A schema accepts the values of a shape, and null if it is nullable, without a fault. -/
structure IsShapeOf (schema : Schema Value) (shape : Bool × Shape) : Prop where
  proper : shape.2.IsProper
  nullable : shape.1 = schema.acceptsNull
  answers : ∀ value, ¬schema.Faults value
  accepts : ∀ value, schema.Accepts value ↔ shape.1 = true ∧ value = .null ∨ shape.2.Admits value

section Kinds

variable {schema : Schema Value} {traits : Traits Value} {value : Value}

theorem accepts_of_takesNull (taken : schema.takesNull value = true) : schema.Accepts value :=
  ⟨_, _, validate_of_takesNull taken [] {}⟩

theorem not_faults_of_takesNull (taken : schema.takesNull value = true) :
    ¬schema.Faults value :=
  fun faults => faults.not_accepts (accepts_of_takesNull taken)

/-- Apart from null, a schema accepts the values that it accepts by its kind. -/
theorem isShapeOf_of_nonNull
    {shape : Bool × Shape}
    (proper : shape.2.IsProper)
    (nullable : shape.1 = schema.acceptsNull)
    (here : schema.acceptsNullHere = schema.acceptsNull)
    (otherwise : ∀ value, schema.takesNull value = false →
      ¬schema.Faults value ∧ (schema.Accepts value ↔ shape.2.Admits value)) :
    schema.IsShapeOf shape := by
  have taken_iff : ∀ {value}, schema.takesNull value = true ↔ shape.1 = true ∧ value = .null := by
    intro value
    rw [takesNull_iff, here, ← nullable]
  refine ⟨proper, nullable, fun value => ?_, fun value => ?_⟩
  · cases taken : schema.takesNull value with
    | true => exact not_faults_of_takesNull taken
    | false => exact (otherwise value taken).1
  · cases taken : schema.takesNull value with
    | true => exact ⟨fun _ => .inl (taken_iff.mp taken), fun _ => accepts_of_takesNull taken⟩
    | false =>
        rw [(otherwise value taken).2]
        refine ⟨.inr, fun either => either.resolve_left fun null => ?_⟩
        rw [taken_iff.mpr null] at taken
        contradiction

/-- Without steps, a scalar is accepted exactly if it can be read. -/
theorem accepts_iff_of_acceptScalar
    {Result : Type}
    {toValue : Result → Value}
    {reading : Reading Result}
    (plain : traits.steps = [])
    (validated : validate [] schema {} value = acceptScalar traits {} toValue reading) :
    ¬schema.Faults value ∧ (schema.Accepts value ↔ ∃ read, reading = .ok read) := by
  unfold Accepts
  rw [validated]
  cases reading with
  | error violation =>
      refine ⟨fun faults => ?_, by simp [acceptScalar]⟩
      obtain ⟨fault, failed⟩ := faults [] {}
      rw [validated] at failed
      exact absurd failed (by simp [acceptScalar, Refusal.ofViolation])
  | ok read =>
      refine ⟨fun faults => ?_, by simp [acceptScalar, plain]⟩
      obtain ⟨fault, failed⟩ := faults [] {}
      rw [validated] at failed
      exact absurd failed (by simp [acceptScalar, plain])

theorem accepts_iff_of_acceptMember
    {found : Except Violation Value}
    (validated : validate [] schema {} value = acceptMember {} found) :
    ¬schema.Faults value ∧ (schema.Accepts value ↔ ∃ member, found = .ok member) := by
  unfold Accepts
  rw [validated]
  cases found with
  | error violation =>
      refine ⟨fun faults => ?_, by simp [acceptMember]⟩
      obtain ⟨fault, failed⟩ := faults [] {}
      rw [validated] at failed
      exact absurd failed (by simp [acceptMember, Refusal.ofViolation])
  | ok member =>
      refine ⟨fun faults => ?_, by simp [acceptMember]⟩
      obtain ⟨fault, failed⟩ := faults [] {}
      rw [validated] at failed
      exact absurd failed (by simp [acceptMember])

/-- Without steps, a list is accepted exactly if each item is. -/
theorem accepts_list_iff
    {item : Schema Value}
    {values : List Value}
    (plain : traits.steps = []) :
    (Schema.array traits item).Accepts (.list values) ↔ ∀ value ∈ values, item.Accepts value := by
  constructor
  · rintro ⟨accepted, fit, validated⟩ value listed
    rw [validate_list] at validated
    obtain ⟨parts, after, collected, -⟩ := assemble_eq_ok_iff.mp validated
    have items := forall₂_of_collectItems (fun _ _ _ => issues_ne_nil_of_refused) collected
    obtain ⟨part, -, before, after, validated⟩ := exists_of_forall₂ items listed
    exact accepts_of_validate validated
  · intro accepted
    obtain ⟨parts, after, collected, -⟩ := exists_collectItems_eq_ok
      (fun value listed fit => (accepted value listed).exists [0] fit) 0 {}
    refine ⟨.list parts, after, ?_⟩
    rw [validate_list]
    exact assemble_eq_ok_iff.mpr ⟨parts, after, collected, by simp [buildList, plain,
      runLengthSteps]⟩

/-- Without steps, only the items of a list can end its validation with a fault. -/
theorem exists_faults_of_list
    {item : Schema Value}
    {values : List Value}
    (plain : traits.steps = [])
    (faults : (Schema.array traits item).Faults (.list values)) :
    ∃ value ∈ values, item.Faults value := by
  obtain ⟨fault, failed⟩ := faults [] {}
  rw [validate_list] at failed
  obtain collected | ⟨parts, after, -, built⟩ := assemble_eq_fault_iff.mp failed
  · obtain ⟨value, listed, before, stopped⟩ := exists_of_collectItems collected
    exact ⟨value, listed, faults_of_validate stopped⟩
  · exact absurd built (by simp [buildList, plain, runLengthSteps])

/-- What a schema accepts under a custom name it accepts without it, apart from null. -/
theorem accepts_custom_iff
    {name : String}
    {inner : Schema Value} :
    (Schema.custom traits name inner).Accepts value ↔
      traits.isNullable = true ∧ value = .null ∨ inner.Accepts value := by
  cases taken : (Schema.custom traits name inner).takesNull value with
  | true => exact ⟨fun _ => .inl (takesNull_iff.mp taken), fun _ => accepts_of_takesNull taken⟩
  | false =>
      have same : (Schema.custom traits name inner).Accepts value ↔ inner.Accepts value := by
        unfold Accepts
        rw [validate_custom taken]
      rw [same]
      refine ⟨.inr, fun either => either.resolve_left fun null => ?_⟩
      have taken' : (Schema.custom traits name inner).takesNull value = true :=
        takesNull_iff.mpr null
      rw [taken'] at taken
      contradiction

theorem validate_null_of_acceptsNullHere
    {schema : Schema Value}
    (allowed : schema.acceptsNullHere = true)
    (way : List Nat)
    (fit : Fit) :
    validate way schema fit .null = .ok (.value .null, fit) :=
  validate_of_takesNull (takesNull_iff.mpr ⟨allowed, rfl⟩) way fit

/-- A schema that accepts null by itself or below a registered schema accepts it as null. -/
theorem validate_null :
    (schema : Schema Value) → schema.acceptsNull = true → (way : List Nat) → (fit : Fit) →
      validate way schema fit .null = .ok (.value .null, fit)
  | .custom traits name inner, allowed, way, fit => by
      cases taken : (Schema.custom traits name inner).takesNull .null with
      | true => exact validate_of_takesNull taken way fit
      | false =>
          rw [validate_custom taken]
          obtain here | below := Bool.or_eq_true_iff.mp allowed
          · have taken' : (Schema.custom traits name inner).takesNull .null = true :=
              takesNull_iff.mpr ⟨here, rfl⟩
            exact absurd (taken'.symm.trans taken) (by simp)
          · exact validate_null inner below way fit
  | .union traits options, allowed, way, fit => by
      refine validate_null_of_acceptsNullHere ?_ way fit
      exact Bool.or_eq_true_iff.mpr (.inl allowed)
  | .any .., allowed, way, fit | .string .., allowed, way, fit | .number .., allowed, way, fit
  | .boolean .., allowed, way, fit | .literal .., allowed, way, fit
  | .enumeration .., allowed, way, fit | .array .., allowed, way, fit
  | .object .., allowed, way, fit => by
      refine validate_null_of_acceptsNullHere ?_ way fit
      exact allowed

end Kinds

/-! ## Unions -/

section Unions

variable {traits : Traits Value} {options : List (Schema Value)} {value : Value}

theorem hasAmong_iff
    {seen : List Shape}
    {shape : Shape} :
    Shape.hasAmong seen shape = true ↔ ∃ other ∈ seen, other.same shape = true := by
  induction seen with
  | nil => simp [Shape.hasAmong]
  | cons first seen inductionHypothesis => simp [Shape.hasAmong, inductionHypothesis]

/-- One of the kept options has the same shape as a schema. -/
def HasTwin (kept : List Nat) (position : Nat) (options : List (Schema Value)) (shape : Shape) :
    Prop :=
  ∃ index twin twinShape, options[index]? = some twin ∧ position + index ∈ kept ∧
    twin.shape? = some twinShape ∧ twinShape.2.same shape = true

/-- An option that is left out has the shape of one that is kept, or of one before all. -/
theorem mem_or_hasTwin
    (seen : List Shape)
    (position : Nat)
    {index : Nat}
    {option : Schema Value}
    (here : options[index]? = some option) :
    position + index ∈ distinctPositions seen position options ∨
      ∃ shape, option.shape? = some shape ∧
        ((∃ other ∈ seen, other.same shape.2 = true) ∨
          HasTwin (distinctPositions seen position options) position options shape.2) := by
  induction options generalizing seen position index with
  | nil => exact absurd here (by simp)
  | cons first options inductionHypothesis =>
      cases index with
      | zero =>
          obtain rfl := Option.some.inj here
          rw [distinctPositions]
          cases first.shape? with
          | none => exact .inl List.mem_cons_self
          | some shape =>
              dsimp only
              split
              · next repeated => exact .inr ⟨shape, rfl, .inl (hasAmong_iff.mp repeated)⟩
              · exact .inl List.mem_cons_self
      | succ index =>
          have move : ∀ later, position + 1 + later = position + (later + 1) := by omega
          -- what is kept of the later options, and which shapes are seen before them
          have lift : ∀ {kept : List Nat} {seen' : List Shape},
              (∀ found ∈ distinctPositions seen' (position + 1) options, found ∈ kept) →
              (∀ other ∈ seen', other ∈ seen ∨
                position ∈ kept ∧ ∃ shape, first.shape? = some shape ∧ shape.2 = other) →
              position + (index + 1) ∈ kept ∨ ∃ shape, option.shape? = some shape ∧
                ((∃ other ∈ seen, other.same shape.2 = true) ∨
                  HasTwin kept position (first :: options) shape.2) := by
            intro kept seen' sub earlier
            obtain listed | ⟨shape, shaped, before | twin⟩ :=
              inductionHypothesis seen' (position + 1) here
            · exact .inl (move index ▸ sub _ listed)
            · obtain ⟨other, listed, same⟩ := before
              obtain seen | ⟨present, twinShape, twinShaped, rfl⟩ := earlier other listed
              · exact .inr ⟨shape, shaped, .inl ⟨other, seen, same⟩⟩
              · exact .inr ⟨shape, shaped, .inr ⟨0, first, twinShape, rfl, present, twinShaped,
                  same⟩⟩
            · obtain ⟨later, twin, twinShape, there, listed, twinShaped, same⟩ := twin
              exact .inr ⟨shape, shaped, .inr ⟨later + 1, twin, twinShape, there,
                move later ▸ sub _ listed, twinShaped, same⟩⟩
          rw [distinctPositions]
          cases shaped : first.shape? with
          | none => exact lift (fun _ => List.mem_cons_of_mem position) fun _ => .inl
          | some shape =>
              dsimp only
              split
              · exact lift (fun _ => id) fun _ => .inl
              · refine lift (fun _ => List.mem_cons_of_mem position) fun other listed => ?_
                obtain rfl | seen := List.mem_cons.mp listed
                · exact .inr ⟨List.mem_cons_self, shape, shaped, rfl⟩
                · exact .inl seen

/--
A union accepts null if it is nullable, and else the values that one of its options accepts,
if options with a shape accept its values.
-/
theorem accepts_union_iff_of_isShapeOf
    (shaped : ∀ option ∈ options, ∀ shape, option.shape? = some shape → option.IsShapeOf shape)
    (answers : ¬(Schema.union traits options).Faults value) :
    (Schema.union traits options).Accepts value ↔
      traits.isNullable = true ∧ value = .null ∨ ∃ option ∈ options, option.Accepts value := by
  cases taken : (Schema.union traits options).takesNull value with
  | true =>
      obtain ⟨allowed, rfl⟩ := takesNull_iff.mp taken
      refine ⟨fun _ => ?_, fun _ => accepts_of_takesNull taken⟩
      obtain nullable | some := Bool.or_eq_true_iff.mp allowed
      · exact .inl ⟨nullable, rfl⟩
      · obtain ⟨option, listed, allows⟩ := List.any_eq_true.mp some
        exact .inr ⟨option, listed, accepts_of_validate (validate_null option allows [] {})⟩
  | false =>
      constructor
      · rintro ⟨accepted, fit, validated⟩
        obtain ⟨index, option, before, after, here, -, validated⟩ :=
          isTaken_of_validate taken validated
        exact .inr ⟨option, List.mem_of_getElem? here, accepts_of_validate validated⟩
      · rintro (null | ⟨option, listed, accepts⟩)
        · have taken' : (Schema.union traits options).takesNull value = true :=
            takesNull_iff.mpr ⟨Bool.or_eq_true_iff.mpr (.inl null.1), null.2⟩
          rw [taken'] at taken
          contradiction
        · obtain accepted | ⟨issues, refused⟩ | faults :=
            accepts_or_refuses_or_faults (.union traits options) value
          · exact accepted
          · exfalso
            have refuse := (refuses_of_union refused).2
            obtain ⟨index, here⟩ := List.getElem?_of_mem listed
            obtain kept | ⟨shape, hasShape, ⟨other, absent, -⟩ | twin⟩ :=
              mem_or_hasTwin [] 0 here
            · rw [Nat.zero_add] at kept
              exact accepts.not_refuses (refuse index kept option here)
            · exact absurd absent List.not_mem_nil
            · obtain ⟨twinIndex, twin, twinShape, there, kept, hasTwinShape, same⟩ := twin
              rw [Nat.zero_add] at kept
              have own := shaped option listed shape hasShape
              have others := shaped twin (List.mem_of_getElem? there) twinShape hasTwinShape
              obtain ⟨nullable, rfl⟩ | admits := (own.accepts value).mp accepts
              · -- null is accepted by the union itself
                have allowed : options.any acceptsNull = true :=
                  List.any_eq_true.mpr ⟨option, listed, own.nullable ▸ nullable⟩
                have taken' : (Schema.union traits options).takesNull .null = true :=
                  takesNull_iff.mpr ⟨Bool.or_eq_true_iff.mpr (.inr allowed), rfl⟩
                rw [taken'] at taken
                contradiction
              · have twinAdmits := (Shape.admits_iff_of_same twinShape.2 shape.2 others.proper
                  own.proper same value).mpr admits
                have twinAccepts := (others.accepts value).mpr (.inr twinAdmits)
                exact twinAccepts.not_refuses (refuse twinIndex kept twin there)
          · exact absurd faults answers

theorem shapes?_eq_some
    {shapes : List (Bool × Shape)}
    (shaped : shapes? options = some shapes) :
    List.Forall₂ (fun option shape => option.shape? = some shape) options shapes := by
  induction options generalizing shapes with
  | nil =>
      obtain rfl := Option.some.inj shaped
      exact .nil
  | cons option options inductionHypothesis =>
      rw [shapes?] at shaped
      split at shaped
      · next shape rest here later =>
          obtain rfl := Option.some.inj shaped
          exact .cons here (inductionHypothesis later)
      · contradiction

theorem traitsShape?_eq_some
    {found : Option Shape}
    {shape : Bool × Shape}
    (shaped : traitsShape? traits found = some shape) :
    traits.steps = [] ∧ shape.1 = traits.isNullable ∧ found = some shape.2 := by
  unfold traitsShape? at shaped
  split at shaped
  · next plain =>
      obtain ⟨inner, rfl, rfl⟩ := Option.map_eq_some_iff.mp shaped
      exact ⟨List.isEmpty_iff.mp plain, rfl, rfl⟩
  · contradiction

theorem membersShape?_eq_some
    {allowed : List Value}
    {shape : Shape}
    (shaped : membersShape? allowed = some shape) :
    shape = .members allowed ∧ ∀ value ∈ allowed, isComparable value = true := by
  unfold membersShape? at shaped
  split at shaped
  · next each =>
      exact ⟨(Option.some.inj shaped).symm, List.all_eq_true.mp each⟩
  · contradiction

/-- What options with a shape accept is what the shapes admit. -/
theorem exists_accepts_iff
    {shapes : List (Bool × Shape)}
    (each : List.Forall₂ IsShapeOf options shapes) :
    (∃ option ∈ options, option.Accepts value) ↔
      shapes.any Prod.fst = true ∧ value = .null ∨
        Shape.AdmitsOne (shapes.map Prod.snd) value := by
  induction each with
  | nil => simp [Shape.AdmitsOne]
  | @cons option shape options shapes first rest inductionHypothesis =>
      simp only [List.mem_cons, exists_eq_or_imp, first.accepts, inductionHypothesis,
        List.any_cons, Bool.or_eq_true_iff, List.map_cons, Shape.AdmitsOne]
      tauto

end Unions

mutual

/-- A schema with a shape accepts the values of its shape. -/
theorem isShapeOf_of_shape? :
    (schema : Schema Value) → (shape : Bool × Shape) → schema.shape? = some shape →
      schema.IsShapeOf shape
  | .any traits, shape, shaped => by
      obtain ⟨plain, nullable, found⟩ := traitsShape?_eq_some shaped
      obtain ⟨_, shape⟩ := shape
      obtain rfl := Option.some.inj found
      refine isShapeOf_of_nonNull trivial nullable rfl fun value given => ?_
      have accepts : (Schema.any traits).Accepts value := ⟨_, _, validate_any given [] {}⟩
      exact ⟨fun faults => faults.not_accepts accepts, fun _ => trivial, fun _ => accepts⟩
  | .string traits coerce, shape, shaped => by
      obtain ⟨plain, nullable, found⟩ := traitsShape?_eq_some shaped
      obtain ⟨_, shape⟩ := shape
      obtain rfl := Option.some.inj found
      cases coerce <;> exact isShapeOf_of_nonNull trivial nullable rfl fun value given =>
        accepts_iff_of_acceptScalar plain (validate_string given [] {})
  | .number traits integer coerce, shape, shaped => by
      obtain ⟨plain, nullable, found⟩ := traitsShape?_eq_some shaped
      obtain ⟨_, shape⟩ := shape
      obtain rfl := Option.some.inj found
      cases integer with
      | true => exact isShapeOf_of_nonNull trivial nullable rfl fun value given =>
          accepts_iff_of_acceptScalar plain (validate_integer given [] {})
      | false => exact isShapeOf_of_nonNull trivial nullable rfl fun value given =>
          accepts_iff_of_acceptScalar plain (validate_number given [] {})
  | .boolean traits coerce, shape, shaped => by
      obtain ⟨plain, nullable, found⟩ := traitsShape?_eq_some shaped
      obtain ⟨_, shape⟩ := shape
      obtain rfl := Option.some.inj found
      exact isShapeOf_of_nonNull trivial nullable rfl fun value given =>
        accepts_iff_of_acceptScalar plain (validate_boolean given [] {})
  | .literal traits allowed, shape, shaped => by
      obtain ⟨plain, nullable, found⟩ := traitsShape?_eq_some shaped
      obtain ⟨_, shape⟩ := shape
      obtain ⟨rfl, comparable⟩ := membersShape?_eq_some found
      exact isShapeOf_of_nonNull comparable nullable rfl fun value given =>
        accepts_iff_of_acceptMember (validate_literal given [] {})
  | .enumeration traits allowed, shape, shaped => by
      obtain ⟨plain, nullable, found⟩ := traitsShape?_eq_some shaped
      obtain ⟨_, shape⟩ := shape
      obtain ⟨rfl, comparable⟩ := membersShape?_eq_some found
      exact isShapeOf_of_nonNull comparable nullable rfl fun value given =>
        accepts_iff_of_acceptMember (validate_enumeration given [] {})
  | .array traits item, shape, shaped => by
      obtain ⟨plain, nullable, found⟩ := traitsShape?_eq_some shaped
      obtain ⟨_, shape⟩ := shape
      obtain ⟨itemShape, itemShaped, rfl⟩ := Option.map_eq_some_iff.mp found
      have isShape := isShapeOf_of_shape? item itemShape itemShaped
      refine isShapeOf_of_nonNull isShape.proper nullable rfl fun value given => ?_
      by_cases isList : ∃ parts, value = .list parts
      · obtain ⟨parts, rfl⟩ := isList
        refine ⟨fun faults => ?_, ?_⟩
        · obtain ⟨part, -, partFaults⟩ := exists_faults_of_list plain faults
          exact isShape.answers part partFaults
        · rw [accepts_list_iff plain]
          simp only [isShape.accepts, Shape.Admits, Value.list.injEq, exists_eq_left']
      · have refused : (Schema.array traits item).Refuses value :=
          ⟨_, validate_array_of_ne_list given (not_exists.mp isList) [] {}⟩
        refine ⟨fun faults => faults.not_refuses refused, fun accepts => ?_, ?_⟩
        · exact absurd refused accepts.not_refuses
        · rintro ⟨parts, rfl, -⟩
          exact absurd ⟨parts, rfl⟩ isList
  | .object .., shape, shaped => absurd shaped (by simp [Schema.shape?])
  | .union traits options, shape, shaped => by
      obtain ⟨plain, nullable, found⟩ := traitsShape?_eq_some shaped
      obtain ⟨_, shape⟩ := shape
      obtain ⟨shapes, optionsShaped, rfl⟩ := Option.map_eq_some_iff.mp found
      have each := isShapeOf_of_mem options
      have related : List.Forall₂ IsShapeOf options shapes :=
        forall₂_imp_of_mem (shapes?_eq_some optionsShaped) fun option listed shape _ =>
          each option listed shape
      have answers : ∀ value, ¬(Schema.union traits options).Faults value := by
        intro value faults
        obtain ⟨fault, failed⟩ := faults [] {}
        obtain ⟨option, listed, optionFaults⟩ := exists_faults_of_union failed
        obtain ⟨shape, -, isShape⟩ := exists_of_forall₂ related listed
        exact isShape.answers value optionFaults
      refine ⟨?_, nullable, answers, fun value => ?_⟩
      · refine Shape.areProper_iff.mpr fun proper listed => ?_
        obtain ⟨shape, among, rfl⟩ := List.mem_map.mp listed
        obtain ⟨option, -, isShape⟩ := exists_of_forall₂ related.flip among
        exact isShape.proper
      · rw [accepts_union_iff_of_isShapeOf each (answers value), exists_accepts_iff related,
          nullable]
        rfl
  | .custom traits name inner, shape, shaped => by
      obtain ⟨innerShape, innerShaped, rfl⟩ := Option.map_eq_some_iff.mp shaped
      have isShape := isShapeOf_of_shape? inner innerShape innerShaped
      refine ⟨isShape.proper, ?_, fun value faults => ?_, fun value => ?_⟩
      · rw [acceptsNull, isShape.nullable]
      · cases taken : (Schema.custom traits name inner).takesNull value with
        | true => exact not_faults_of_takesNull taken faults
        | false =>
            refine isShape.answers value fun way fit => ?_
            obtain ⟨fault, failed⟩ := faults way fit
            rw [validate_custom taken] at failed
            exact ⟨fault, failed⟩
      · rw [accepts_custom_iff, isShape.accepts, Bool.or_eq_true_iff]
        tauto

/-- Options with a shape accept the values of their shapes. -/
theorem isShapeOf_of_mem :
    (options : List (Schema Value)) → ∀ option ∈ options, ∀ shape,
      option.shape? = some shape → option.IsShapeOf shape
  | [], option, listed, shape, shaped => absurd listed List.not_mem_nil
  | first :: options, option, listed, shape, shaped => by
      obtain same | later := List.mem_cons.mp listed
      · rw [same] at shaped ⊢
        exact isShapeOf_of_shape? first shape shaped
      · exact isShapeOf_of_mem options option later shape shaped

end

end Schema
end RoutineGate
