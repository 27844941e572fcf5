import RoutineGate.Proofs.Schema.Outputs
import RoutineGate.Proofs.Schema.Shapes

/-!
# Unions

A union decides by its options alone.  It accepts what one of them accepts, passes on what
this option has accepted, and refuses a value with a single issue of its own.  The defaults
that the option declares are not filled in: filling leaves unions alone.
-/

namespace RoutineGate
namespace Schema

/-- A schema within another one, at any depth. -/
inductive HasPart : Schema Value → Schema Value → Prop
  | here {schema : Schema Value} :
      HasPart schema schema
  | item {traits : Traits Value} {item part : Schema Value}
      (within : HasPart item part) :
      HasPart (.array traits item) part
  | field {traits : Traits Value} {fields : List (String × Schema Value)} {key : String}
      {field part : Schema Value}
      (declared : (key, field) ∈ fields)
      (within : HasPart field part) :
      HasPart (.object traits fields) part
  | option {traits : Traits Value} {options : List (Schema Value)} {option part : Schema Value}
      (listed : option ∈ options)
      (within : HasPart option part) :
      HasPart (.union traits options) part
  | custom {traits : Traits Value} {name : String} {inner part : Schema Value}
      (within : HasPart inner part) :
      HasPart (.custom traits name inner) part

/-- What a section passes on under a key whose field has a schema, and is its only one. -/
def Gives (schema : Schema Value) (value output : Value) : Prop :=
  ∀ model key, validateModel model [(key, schema)] (.record [(key, value)]) =
    .ok (.record [(key, output)])

/-- What a field with a schema accepts of a value, and dumps of it before it has defaults. -/
def Dumps (schema : Schema Value) (value content dumped : Value) : Prop :=
  ∃ accepted after, validate [0] schema {} value = .ok (accepted, after) ∧
    accepted.content = content ∧ dump .assured [0] schema accepted = some dumped

/--
A union passes on null if it is nullable, or else the content that one of its options accepts,
without defaults.  A field with this option alone fills them into its dump of this content.
-/
inductive PassesOnOption (traits : Traits Value) (options : List (Schema Value))
    (value : Value) : Value → Prop
  | null
      (nullable : traits.isNullable = true)
      (isNull : value = .null) :
      PassesOnOption traits options value .null
  | option {option : Schema Value} {content dumped output : Value}
      (listed : option ∈ options)
      (dumps : option.Dumps value content dumped)
      (gives : option.Gives value (fill option dumped))
      (rendersAlone : Renders content dumped)
      (renders : Renders content output) :
      PassesOnOption traits options value output

/-- What a union does with a value depends on what its options do with it. -/
structure Decides (traits : Traits Value) (options : List (Schema Value)) (value : Value) :
    Prop where
  accepts : (Schema.union traits options).Accepts value ↔
    traits.isNullable = true ∧ value = .null ∨ ∃ option ∈ options, option.Accepts value
  passes : (Schema.union traits options).Accepts value →
    ∃ output, (Schema.union traits options).Gives value output ∧
      PassesOnOption traits options value output
  refuses : ¬(Schema.union traits options).Accepts value → ∀ way fit,
    validate way (.union traits options) fit value =
      .error (.issues [{ location := [], violation := .noAlternative }])

/-- The parts of a well-formed schema are well-formed. -/
theorem HasPart.wellFormed
    {schema part : Schema Value}
    (within : HasPart schema part)
    (wellFormed : schema.WellFormed) :
    part.WellFormed := by
  induction within with
  | here => exact wellFormed
  | item _ inductionHypothesis =>
      cases wellFormed with
      | array _ item => exact inductionHypothesis item
  | field declared _ inductionHypothesis =>
      cases wellFormed with
      | object _ _ fields => exact inductionHypothesis (fields _ declared)
  | option listed _ inductionHypothesis =>
      cases wellFormed with
      | union _ _ options => exact inductionHypothesis (options _ listed)
  | custom _ inductionHypothesis =>
      cases wellFormed with
      | custom _ inner => exact inductionHypothesis inner

/-- A location of a value leads to a part of the schema. -/
theorem LeadsTo.hasPart
    {location : List Place}
    {schema target : Schema Value}
    {value found : Value}
    (leads : LeadsTo location schema value target found) :
    HasPart schema target := by
  induction leads with
  | here => exact .here
  | item _ _ inductionHypothesis => exact .item inductionHypothesis
  | field declared _ _ inductionHypothesis => exact .field declared inductionHypothesis
  | custom _ _ inductionHypothesis => exact .custom inductionHypothesis

/-- A fault at a location is one of the whole. -/
theorem LeadsTo.faults
    {location : List Place}
    {schema target : Schema Value}
    {value found : Value}
    (leads : LeadsTo location schema value target found)
    (failed : target.Faults found) :
    schema.Faults value := by
  induction leads with
  | here => exact failed
  | item sent _ inductionHypothesis =>
      exact (inductionHypothesis failed).list (List.mem_of_getElem? sent) _
  | field declared sent _ inductionHypothesis =>
      exact (inductionHypothesis failed).record declared sent _
  | custom given _ inductionHypothesis => exact (inductionHypothesis failed).custom given

section Giving

variable {schema : Schema Value} {value : Value}

/-- A field passes on the dump of what its schema accepts, with defaults. -/
theorem gives_of_validate
    {accepted : Instance}
    {after : Fit}
    {dumped : Value}
    (validated : validate [0] schema {} value = .ok (accepted, after))
    (dumps : dump .assured [0] schema accepted = some dumped) :
    schema.Gives value (fill schema dumped) := by
  intro model key
  have sent : [(key, value)].lookup key = some value := List.lookup_cons_self
  have found : [(key, accepted)].lookup key = some accepted := List.lookup_cons_self
  have there : [(key, dumped)].lookup key = some dumped := List.lookup_cons_self
  have collected : validateFields [] 0 [(key, schema)] [(key, value)] {} =
      .ok ⟨[], [(key, accepted)], after⟩ := by
    rw [validateFields_cons, sent]
    simp only [validated]
    rfl
  have fieldsDumped : dumpFields .assured [] 0 [(key, schema)] [(key, accepted)] =
      some [(key, dumped)] := by
    rw [dumpFields, found]
    simp only [dumps]
    rfl
  have filled : fillFields [(key, schema)] [(key, dumped)] = [(key, fill schema dumped)] := by
    rw [fillFields, there, fillFields]
    simp [Value.put]
  unfold validateModel
  simp only [collected, assemble, buildRecord, fieldsDumped, finish, Option.getD_some, filled]

/-- A field dumps the content that its schema accepts, and passes it on with defaults. -/
theorem exists_gives
    (wellFormed : schema.WellFormed)
    {way : List Nat}
    {fit after : Fit}
    {accepted : Instance}
    (validated : validate way schema fit value = .ok (accepted, after)) :
    ∃ dumped, schema.Dumps value accepted.content dumped ∧
      schema.Gives value (fill schema dumped) ∧ Renders accepted.content dumped := by
  obtain ⟨alone, last, aloneValidated, content⟩ := exists_validate_content validated [0] {}
  have dumps := dumpsAccepted_of_wellFormed wellFormed _ _ _ _ _ aloneValidated
  obtain ⟨dumped, assured⟩ := dumps.assured
  refine ⟨dumped, ⟨alone, last, aloneValidated, content, assured⟩,
    gives_of_validate aloneValidated assured, ?_⟩
  rw [← content]
  exact dumps.renders .assured dumped assured

end Giving

section Unions

variable {traits : Traits Value} {options : List (Schema Value)} {value : Value}

/-- What a union dumps renders what one of its options accepts. -/
theorem passesOnOption_of_validate
    (wellFormed : (Schema.union traits options).WellFormed)
    {way : List Nat}
    {fit after : Fit}
    {accepted : Instance}
    (validated : validate way (.union traits options) fit value = .ok (accepted, after))
    {mode : Match}
    {output : Value}
    (dumped : dump mode way (.union traits options) accepted = some output) :
    PassesOnOption traits options value output := by
  have renders :=
    (dumpsAccepted_of_wellFormed wellFormed _ _ _ _ _ validated).renders mode output dumped
  cases wellFormed with
  | union _ _ optionsWellFormed =>
      cases given : (Schema.union traits options).takesNull value with
      | true =>
          obtain ⟨allowed, rfl⟩ := takesNull_iff.mp given
          rw [validate_of_takesNull given] at validated
          obtain ⟨rfl, -⟩ := Prod.mk.inj (Except.ok.inj validated)
          obtain nullable | some := Bool.or_eq_true_iff.mp allowed
          · rw [dump_of_takesNull given] at dumped
            obtain rfl := Option.some.inj dumped
            exact .null nullable rfl
          · obtain ⟨option, listed, allows⟩ := List.any_eq_true.mp some
            obtain ⟨dumped, dumps, gives, rendersAlone⟩ :=
              exists_gives (optionsWellFormed option listed) (validate_null option allows [] {})
            exact .option listed dumps gives rendersAlone renders
      | false =>
          obtain ⟨index, option, before, last, here, -, taken⟩ :=
            isTaken_of_validate given validated
          have listed := List.mem_of_getElem? here
          obtain ⟨dumped, dumps, gives, rendersAlone⟩ :=
            exists_gives (optionsWellFormed option listed) taken
          exact .option listed dumps gives rendersAlone renders

/-- A well-formed union decides by its options, unless one of them ends with a fault. -/
theorem decides_of_wellFormed
    (wellFormed : (Schema.union traits options).WellFormed)
    (answers : ¬(Schema.union traits options).Faults value) :
    Decides traits options value where
  accepts := accepts_union_iff_of_isShapeOf (isShapeOf_of_mem options) answers
  passes := by
    intro accepts
    obtain ⟨accepted, after, validated⟩ := accepts.exists [0] {}
    have dumps := dumpsAccepted_of_wellFormed wellFormed _ _ _ _ _ validated
    obtain ⟨output, dumped⟩ := dumps.assured
    exact ⟨output, gives_of_validate validated dumped,
      passesOnOption_of_validate wellFormed validated dumped⟩
  refuses := by
    intro refuses way fit
    cases outcome : validate way (.union traits options) fit value with
    | ok result => exact absurd (accepts_of_validate outcome) refuses
    | error refusal =>
        cases refusal with
        | issues issues => rw [(refuses_of_union outcome).1]
        | fault fault => exact absurd (faults_of_validate outcome) answers

end Unions

/-- What a model passes on is the dump of what its fields accept, with defaults. -/
theorem exists_dump_of_validateModel
    {model : String}
    {fields : List (String × Schema Value)}
    (wellFormed : (Schema.object {} fields).WellFormed)
    {value output : Value}
    (validated : validateModel model fields value = .ok output) :
    ∃ accepted after dumped,
      validate [] (.object {} fields) {} value = .ok (accepted, after) ∧
      dump .assured [] (.object {} fields) accepted = some dumped ∧
      output = fill (.object {} fields) dumped := by
  cases value with
  | record entries =>
      rw [validateModel_record] at validated
      split at validated
      · next accepted after outcome =>
          have dumps := dumpsAccepted_of_wellFormed wellFormed _ _ _ _ _ outcome
          obtain ⟨dumped, assured⟩ := dumps.assured
          refine ⟨accepted, after, dumped, outcome, assured, ?_⟩
          rw [validate_record] at outcome
          obtain ⟨parts, last, -, built⟩ := assemble_eq_ok_iff.mp outcome
          obtain ⟨rfl, -⟩ := Prod.mk.inj (Except.ok.inj built)
          rw [dump_record] at assured
          obtain ⟨outputs, fieldsDumped, rfl⟩ := Option.map_eq_some_iff.mp assured
          rw [fieldsDumped] at validated
          exact (Except.ok.inj validated).symm
      · exact absurd validated (by simp)
  | _ => exact absurd validated (by simp [validateModel])

/-- A model refuses a record with the issues of the schema of records with its fields. -/
theorem validate_of_validateModel_issues
    {model : String}
    {fields : List (String × Schema Value)}
    {location : List Place}
    {value found : Value}
    {traits : Traits Value}
    {options : List (Schema Value)}
    (leads : LeadsTo location (.object {} fields) value (.union traits options) found)
    {issues : List Issue}
    (refused : validateModel model fields value = .error (.issues issues)) :
    validate [] (.object {} fields) {} value = .error (.issues issues) := by
  cases leads with
  | field =>
      rw [validateModel_record] at refused
      split at refused
      · exact absurd refused (by simp)
      · next refusal outcome =>
          obtain rfl := Except.error.inj refused
          exact outcome

end Schema

namespace Request

open Documentation (ParamDirective)

/--
In a compiled section the unions, at any depth, decide by their options.  At a location of a
value that leads to a union, the section passes on what the union does, and has one issue if
the union refuses and none if it accepts.
-/
theorem decides_of_compileSchema
    {procedure : String}
    {scope : Expression.Scope}
    {directives : List ParamDirective}
    {schema : RequestSchema}
    (registered : scope.validators.WellFormed)
    (compiled : compileSchema procedure scope directives = .ok schema)
    {place : Section}
    {fields : Fields}
    (carried : schema.fields? place = some fields) :
    (∀ traits options, Schema.HasPart (.object {} fields) (.union traits options) →
      ∀ value, ¬(Schema.union traits options).Faults value →
        Schema.Decides traits options value) ∧
    ∀ location raw traits options value,
      Schema.LeadsTo location (.object {} fields) raw (.union traits options) value →
      (∀ output, schema.validate place raw = .ok output →
        ∃ passed, Schema.valueAt? location output = some passed ∧
          Schema.PassesOnOption traits options value passed) ∧
      ∀ issues, schema.validate place raw = .error (.issues issues) →
        (Schema.union traits options).Accepts value ∧ Schema.issuesAt location issues = [] ∨
        ¬(Schema.union traits options).Accepts value ∧
          Schema.issuesAt location issues = [{ location, violation := .noAlternative }] := by
  obtain ⟨distinct, fieldsWellFormed⟩ := wellFormed_of_compileSchema registered compiled carried
  have wellFormed : (Schema.object {} fields).WellFormed := .object rfl distinct fieldsWellFormed
  refine ⟨fun traits options part value answers =>
    Schema.decides_of_wellFormed (part.wellFormed wellFormed) answers, ?_⟩
  intro location raw traits options value leads
  have unionWellFormed := leads.hasPart.wellFormed wellFormed
  rw [validate_of_fields? carried]
  constructor
  · intro output validated
    obtain ⟨accepted, after, dumped, outcome, dumps, rfl⟩ :=
      Schema.exists_dump_of_validateModel wellFormed validated
    obtain ⟨below, before, part, last, partValidated, outputs⟩ :=
      leads.exists_output wellFormed outcome
    obtain ⟨passed, partDumped, there⟩ := outputs .assured dumped dumps
    exact ⟨passed, there,
      Schema.passesOnOption_of_validate unionWellFormed partValidated partDumped⟩
  · intro issues refused
    have outcome := Schema.validate_of_validateModel_issues leads refused
    have refuses : (Schema.object {} fields).Refuses raw := ⟨issues, outcome⟩
    have answers : ¬(Schema.object {} fields).Faults raw := fun faults =>
      faults.not_refuses refuses
    have located := leads.issuesAt_eq wellFormed answers [] {}
    rw [outcome] at located
    by_cases accepts : (Schema.union traits options).Accepts value
    · obtain ⟨accepted, after, validated⟩ := accepts
      rw [validated] at located
      exact .inl ⟨⟨accepted, after, validated⟩, located⟩
    · have decides := Schema.decides_of_wellFormed unionWellFormed
        fun faults => answers (leads.faults faults)
      rw [decides.refuses accepts] at located
      refine .inr ⟨accepts, located.trans ?_⟩
      simp [Schema.issuesOf, Schema.Issue.within]

/-- A parameter of the body that is a record with a default or else a number. -/
def choice : ParamDirective where
  name := "a"
  key := "x"
  source := "body"
  expression := "z.union([z.object(\x7ba: z.string().default('x')\x7d), z.number()])"

/-- A list of such choices. -/
def choices : ParamDirective :=
  { choice with expression := "z.array(" ++ choice.expression ++ ")" }

/-- A list of a choice and of a value that is none. -/
def twoChoices : Value :=
  .record [("x", .list [.record [], .null])]

/-- Whether the only field is a list of values by a union. -/
def isListOfUnion : Fields → Bool
  | [(key, .array _ (.union _ _))] => key == "x"
  | _ => false

/-- The value that no option accepts is reported at its own location, and nothing below. -/
theorem decides_of_compileSchema_choices :
    ∃ schema fields traits options issues,
      compileSchema "p" .empty [choices] = .ok schema ∧
      schema.fields? .body = some fields ∧
      Schema.LeadsTo [.key "x", .index 1] (.object {} fields) twoChoices
        (.union traits options) .null ∧
      schema.validate .body twoChoices = .error (.issues issues) ∧
      Schema.issuesAt [.key "x", .index 1] issues =
        [{ location := [.key "x", .index 1], violation := .noAlternative }] := by
  have observed : (compileSchema "p" .empty [choices]).toOption.map (fun schema =>
      ((schema.fields? .body).map isListOfUnion,
        (Schema.issuesAt [.key "x", .index 1]
          (Schema.issuesOf (schema.validate .body twoChoices))).length)) =
        some (some true, 1) := by
    decide +kernel
  obtain ⟨schema, compiled, same⟩ := exists_ok_of_toOption_map observed
  obtain ⟨carried, reported⟩ := Prod.mk.inj same
  obtain ⟨fields, carried, shaped⟩ := Option.map_eq_some_iff.mp carried
  unfold isListOfUnion at shaped
  split at shaped
  · next key arrayTraits traits options =>
      obtain rfl := eq_of_beq shaped
      have leads : Schema.LeadsTo [.key "x", .index 1]
          (.object {} [("x", .array arrayTraits (.union traits options))]) twoChoices
          (.union traits options) .null :=
        .field List.mem_cons_self List.lookup_cons_self (.item rfl .here)
      have refused : schema.validate .body twoChoices =
          .error (.issues (Schema.issuesOf (schema.validate .body twoChoices))) := by
        refine Schema.eq_of_issuesOf_ne_nil fun none => ?_
        rw [none] at reported
        exact absurd reported (by simp [Schema.issuesAt])
      refine ⟨schema, _, traits, options, _, compiled, carried, leads, refused, ?_⟩
      obtain ⟨-, reports⟩ := (decides_of_compileSchema
        Expression.Validators.wellFormed_empty compiled carried).2 _ _ _ _ _ leads
      obtain ⟨-, none⟩ | ⟨-, one⟩ := reports _ refused
      · rw [none] at reported
        exact absurd reported (by simp)
      · exact one
  · exact absurd shaped (by simp)

/-- What a schema dumps of a value that a field with this schema accepts. -/
def dumpedAlone? (schema : Schema Value) (value : Value) : Option Value :=
  (Schema.validate [0] schema {} value).toOption.bind fun result =>
    Schema.dump .assured [0] schema result.1

theorem gives_of_dumpedAlone?
    {schema : Schema Value}
    {value dumped : Value}
    (found : dumpedAlone? schema value = some dumped) :
    schema.Gives value (Schema.fill schema dumped) := by
  unfold dumpedAlone? at found
  cases outcome : Schema.validate [0] schema {} value with
  | ok result =>
      rw [outcome] at found
      exact Schema.gives_of_validate outcome found
  | error refusal =>
      rw [outcome] at found
      exact absurd found (by simp [Except.toOption])

def isEmptyRecord : Value → Bool
  | .record [] => true
  | _ => false

/-- Whether an outcome is a record with a single empty record in it. -/
def isHollow : Except Schema.Refusal Value → Bool
  | .ok (.record [(_, output)]) => isEmptyRecord output
  | _ => false

/-- Whether a union dumps an empty record as it is, and no field with one of its options does. -/
def isHollowUnion : Schema Value → Bool
  | .union traits options =>
      (dumpedAlone? (.union traits options) (.record [])).any isEmptyRecord &&
        options.all fun option =>
          !isHollow (Schema.validateModel "" [("", option)] (.record [("", .record [])]))
  | _ => false

/-- An empty record is passed on as it is by the union, and with the default by its option. -/
theorem not_gives_choice :
    ∃ traits options output,
      Expression.compile .empty choice.expression = .ok (.union traits options) ∧
      (Schema.union traits options).Gives (.record []) output ∧
      ∀ option ∈ options, ¬option.Gives (.record []) output := by
  have observed : (Expression.compile .empty choice.expression).toOption.map isHollowUnion =
      some true := by
    decide +kernel
  obtain ⟨node, compiled, hollow⟩ := exists_ok_of_toOption_map observed
  cases node with
  | union traits options =>
      obtain ⟨own, others⟩ := Bool.and_eq_true_iff.mp hollow
      cases dumped : dumpedAlone? (.union traits options) (.record []) with
      | none =>
          rw [dumped] at own
          exact absurd own (by simp)
      | some output =>
          rw [dumped, Option.any_some] at own
          refine ⟨traits, options, output, compiled, gives_of_dumpedAlone? dumped, ?_⟩
          intro option listed gives
          have filled := List.all_eq_true.mp others option listed
          rw [gives "" "", isHollow, own] at filled
          exact absurd filled (by simp)
  | _ => exact absurd hollow (by simp [isHollowUnion])

end Request
end RoutineGate
