import RoutineGate.Expression.Evaluation
import RoutineGate.Proofs.Schema.Interchange

/-!
# Calls of registered validators

A call of a registered validator does what the schema that the validator is registered with
does in its place, wherever it stands.  Only the published form tells them apart: the call
gives a title to a schema that has none.  If the call is all that another validator is
registered with, the title stands in place of the one that the other validator gives.
-/

namespace RoutineGate
namespace Schema

/-! ## Surroundings -/

/-- A schema with a place in it for another one. -/
inductive Surrounding where
  | hole
  | item (traits : Traits Value) (inside : Surrounding)
  | field (traits : Traits Value) (before : List (String × Schema Value)) (key : String)
      (inside : Surrounding) (after : List (String × Schema Value))
  | option (traits : Traits Value) (before : List (Schema Value)) (inside : Surrounding)
      (after : List (Schema Value))
  | registered (traits : Traits Value) (name : String) (inside : Surrounding)

namespace Surrounding

/-- The surrounding schema with a schema in its place. -/
def around : Surrounding → Schema Value → Schema Value
  | .hole, schema => schema
  | .item traits inside, schema => .array traits (inside.around schema)
  | .field traits before key inside after, schema =>
      .object traits (before ++ (key, inside.around schema) :: after)
  | .option traits before inside after, schema =>
      .union traits (before ++ inside.around schema :: after)
  | .registered traits name inside, schema => .custom traits name (inside.around schema)

/-- The validator, if any, that is registered with nothing but the schema in the place. -/
def validator? : Surrounding → Option String
  | .hole => none
  | .item _ inside => inside.validator?
  | .field _ _ _ inside _ => inside.validator?
  | .option _ _ inside _ => inside.validator?
  | .registered _ name .hole => some name
  | .registered _ _ inside => inside.validator?

end Surrounding

section Interchanging

variable {first second : Schema Value}

theorem Interchangeable.fields
    (same : Interchangeable first second)
    (before : List (String × Schema Value))
    (key : String)
    (after : List (String × Schema Value)) :
    InterchangeableFields (before ++ (key, first) :: after)
      (before ++ (key, second) :: after) := by
  induction before with
  | nil => exact .cons key same (.refl after)
  | cons field before inductionHypothesis =>
      exact .cons field.1 (.refl field.2) inductionHypothesis

theorem Interchangeable.options
    (same : Interchangeable first second)
    (before after : List (Schema Value)) :
    InterchangeableOptions (before ++ first :: after) (before ++ second :: after) := by
  have unchanged : ∀ options, InterchangeableOptions options options := fun options =>
    List.forall₂_same.mpr fun option _ => .refl option
  exact List.rel_append (unchanged before) (.cons same (unchanged after))

/-- Interchangeable schemas are so in any surroundings. -/
theorem Interchangeable.around
    (same : Interchangeable first second)
    (surrounding : Surrounding) :
    Interchangeable (surrounding.around first) (surrounding.around second) := by
  induction surrounding with
  | hole => exact same
  | item traits inside inductionHypothesis => exact inductionHypothesis.array traits
  | field traits before key inside after inductionHypothesis =>
      exact .object (inductionHypothesis.fields before key after) traits
  | option traits before inside after inductionHypothesis =>
      exact .union (inductionHypothesis.options before after) traits
  | registered traits name inside inductionHypothesis =>
      exact inductionHypothesis.within_custom traits name

end Interchanging

/-! ## Documents that differ in one place -/

/-- One record of keywords in a document changes, and nothing else does. -/
inductive Becomes (change : List (String × Value) → List (String × Value) → Prop) :
    Value → Value → Prop where
  | here {old new : List (String × Value)} :
      change old new → Becomes change (.record old) (.record new)
  | item (before after : List Value) {old new : Value} :
      Becomes change old new →
      Becomes change (.list (before ++ old :: after)) (.list (before ++ new :: after))
  | entry (before after : List (String × Value)) {key : String} {old new : Value} :
      Becomes change old new →
      Becomes change (.record (before ++ (key, old) :: after))
        (.record (before ++ (key, new) :: after))

/-- Keywords get a title at their end. -/
def AddsTitle (own : List (String × Value)) (name : String)
    (old new : List (String × Value)) : Prop :=
  old = own ∧ new = own ++ [("title", .text name)]

/-- The keywords that hold published schemas, and the title. -/
def partKeywords : List String := ["items", "properties", "anyOf", "title"]

/-- Keywords that differ in one value only, in an allowed way. -/
def DifferBy (allowed : String → Value → Value → Prop) (old new : List (String × Value)) :
    Prop :=
  ∃ key ∈ partKeywords, ∃ value value', allowed key value value' ∧ ∃ before after,
    old = before ++ (key, value) :: after ∧ new = before ++ (key, value') :: after

/-- Keywords that differ within a part. -/
abbrev PartBecomes (change : List (String × Value) → List (String × Value) → Prop) :
    List (String × Value) → List (String × Value) → Prop :=
  DifferBy fun _ => Becomes change

/-- Keywords that bear another title. -/
def Retitles (first second : String) : List (String × Value) → List (String × Value) → Prop :=
  DifferBy fun key old new => key = "title" ∧ old = .text first ∧ new = .text second

/-- No rule of a step writes a keyword for a part. -/
theorem notMem_partKeywords
    {ofList : Bool}
    {rule : Rule}
    {entry : String × Value}
    (written : entry ∈ rule.keywords ofList) :
    entry.1 ∉ partKeywords := by
  have plain : ∀ entry ∈ rule.keywords ofList, entry.1 ∉ partKeywords := by
    cases rule with
    | format form => cases form <;> simp [Rule.keywords, partKeywords]
    | compare comparison bound => cases comparison <;> simp [Rule.keywords, partKeywords]
    | _ => cases ofList <;> simp [Rule.keywords, lengthKeywords, partKeywords]
  exact plain entry written

variable {allowed : String → Value → Value → Prop}
variable {change : List (String × Value) → List (String × Value) → Prop}
variable {old new : List (String × Value)}

theorem PartBecomes.becomes
    (changed : PartBecomes change old new) :
    Becomes change (.record old) (.record new) := by
  obtain ⟨key, -, value, value', becomes, before, after, rfl, rfl⟩ := changed
  exact .entry before after becomes

namespace DifferBy

theorem put
    (differ : DifferBy allowed old new)
    {key : String}
    (plain : key ∉ partKeywords)
    (datum : Value) :
    DifferBy allowed (Value.put key datum old) (Value.put key datum new) := by
  obtain ⟨part, listed, value, value', change, before, after, rfl, rfl⟩ := differ
  have different : part ≠ key := fun same => plain (same ▸ listed)
  refine ⟨part, listed, value, value', change, ?_⟩
  induction before with
  | nil => exact ⟨[], Value.put key datum after, by simp [Value.put, different]⟩
  | cons entry before inductionHypothesis =>
      obtain ⟨head, other⟩ := entry
      by_cases same : head = key
      · exact ⟨(key, datum) :: before, after, by simp [Value.put, same]⟩
      · obtain ⟨before', after', old, new⟩ := inductionHypothesis
        exact ⟨(head, other) :: before', after', by simp [Value.put, same, old],
          by simp [Value.put, same, new]⟩

theorem addKeywords
    {added : List (String × Value)}
    (plain : ∀ entry ∈ added, entry.1 ∉ partKeywords)
    (differ : DifferBy allowed old new) :
    DifferBy allowed (Schema.addKeywords old added) (Schema.addKeywords new added) := by
  induction added generalizing old new with
  | nil => exact differ
  | cons entry added inductionHypothesis =>
      obtain ⟨own, others⟩ := List.forall_mem_cons.mp plain
      exact inductionHypothesis others (differ.put own entry.2)

theorem addStepKeywords
    (differ : DifferBy allowed old new)
    (ofList : Bool)
    (steps : List (Step Value)) :
    DifferBy allowed (Schema.addStepKeywords ofList old steps)
      (Schema.addStepKeywords ofList new steps) := by
  induction steps generalizing old new with
  | nil => exact differ
  | cons step steps inductionHypothesis =>
      exact inductionHypothesis (differ.addKeywords fun entry => notMem_partKeywords)

theorem append
    (differ : DifferBy allowed old new)
    (added : List (String × Value)) :
    DifferBy allowed (old ++ added) (new ++ added) := by
  obtain ⟨part, listed, value, value', change, before, after, rfl, rfl⟩ := differ
  exact ⟨part, listed, value, value', change, before, after ++ added, by simp, by simp⟩

/-- The same keywords are there. -/
theorem isSome_lookup
    (differ : DifferBy allowed old new)
    (key : String) :
    (old.lookup key).isSome = (new.lookup key).isSome := by
  obtain ⟨part, -, value, value', -, before, after, rfl, rfl⟩ := differ
  rw [List.lookup_append, List.lookup_append, List.lookup_cons, List.lookup_cons]
  cases before.lookup key <;> cases key == part <;> rfl

theorem publishTraits_of_not_nullable
    {traits : Traits Value}
    (plain : traits.isNullable = false)
    (differ : DifferBy allowed old new)
    (ofList : Bool) :
    DifferBy allowed (publishTraits ofList traits old) (publishTraits ofList traits new) := by
  have checked := differ.addStepKeywords ofList traits.steps
  have described : DifferBy allowed (publishTraits ofList { traits with default := none } old)
      (publishTraits ofList { traits with default := none } new) := by
    simp only [publishTraits, plain, Bool.false_eq_true, if_false]
    cases traits.description with
    | none => exact checked
    | some description =>
        dsimp only
        split
        · exact checked.put (by decide) description
        · exact checked
  unfold publishTraits at described ⊢
  cases traits.default with
  | none => exact described
  | some value => exact described.put (by decide) value

end DifferBy

/-- Null is published beside the checked schema, and then the description and the default. -/
theorem publishTraits_of_nullable
    {traits : Traits Value}
    (nullable : traits.isNullable = true)
    (ofList : Bool)
    (base : List (String × Value)) :
    publishTraits ofList traits base =
      publishTraits false { description := traits.description, default := traits.default }
        [("anyOf", .list [.record (addStepKeywords ofList base traits.steps),
          .record [("type", .text "null")]])] := by
  unfold publishTraits
  rw [nullable]
  rfl

/-- Keywords that differ still do when traits are published, though perhaps within a part. -/
theorem DifferBy.publishTraits
    (differ : DifferBy allowed old new)
    (within : ∀ {old new}, DifferBy allowed old new → Becomes change (.record old) (.record new))
    (ofList : Bool)
    (traits : Traits Value) :
    DifferBy allowed (publishTraits ofList traits old) (publishTraits ofList traits new) ∨
      PartBecomes change (publishTraits ofList traits old) (publishTraits ofList traits new) := by
  cases nullable : traits.isNullable with
  | false => exact .inl (differ.publishTraits_of_not_nullable nullable ofList)
  | true =>
      rw [publishTraits_of_nullable nullable, publishTraits_of_nullable nullable]
      have checked := within (differ.addStepKeywords ofList traits.steps)
      exact .inr (DifferBy.publishTraits_of_not_nullable rfl
        ⟨"anyOf", by decide, _, _, .item [] [.record [("type", .text "null")]] checked,
          [], [], rfl, rfl⟩ false)

theorem PartBecomes.publishTraits
    (changed : PartBecomes change old new)
    (ofList : Bool)
    (traits : Traits Value) :
    PartBecomes change (publishTraits ofList traits old) (publishTraits ofList traits new) :=
  (DifferBy.publishTraits changed PartBecomes.becomes ofList traits).elim id id

/-! ## Published surroundings -/

theorem publishFields_eq_map (fields : List (String × Schema Value)) :
    publishFields fields = fields.map fun field => (field.1, .record field.2.publish) := by
  induction fields with
  | nil => rfl
  | cons field fields inductionHypothesis =>
      rw [publishFields, inductionHypothesis, List.map_cons]

theorem publishOptions_eq_map (options : List (Schema Value)) :
    publishOptions options = options.map fun option => .record option.publish := by
  induction options with
  | nil => rfl
  | cons option options inductionHypothesis =>
      rw [publishOptions, inductionHypothesis, List.map_cons]

section Published

variable {first second : Schema Value}

theorem Becomes.array
    (changed : Becomes change (published first) (published second))
    (traits : Traits Value) :
    PartBecomes change (publish (.array traits first)) (publish (.array traits second)) := by
  rw [publish, publish]
  exact PartBecomes.publishTraits
    ⟨"items", by decide, _, _, changed, [("type", .text "array")], [], rfl, rfl⟩ true traits

theorem Becomes.object
    (changed : Becomes change (published first) (published second))
    (same : Interchangeable first second)
    (traits : Traits Value)
    (before : List (String × Schema Value))
    (key : String)
    (after : List (String × Schema Value)) :
    PartBecomes change (publish (.object traits (before ++ (key, first) :: after)))
      (publish (.object traits (before ++ (key, second) :: after))) := by
  have required := (same.fields before key after).requiredKeys
  rw [publish, publish, publishFields_eq_map, publishFields_eq_map, required]
  simp only [List.map_append, List.map_cons]
  exact PartBecomes.publishTraits
    ⟨"properties", by decide, _, _, .entry _ _ changed, [("type", .text "object")], _, rfl, rfl⟩
    false traits

theorem Becomes.union
    (changed : Becomes change (published first) (published second))
    (traits : Traits Value)
    (before after : List (Schema Value)) :
    PartBecomes change (publish (.union traits (before ++ first :: after)))
      (publish (.union traits (before ++ second :: after))) := by
  rw [publish, publish, publishOptions_eq_map, publishOptions_eq_map]
  simp only [List.map_append, List.map_cons]
  exact PartBecomes.publishTraits
    ⟨"anyOf", by decide, _, _, .item _ _ changed, [], [], rfl, rfl⟩ false traits

/-- A registered schema gives both its title, or neither. -/
theorem DifferBy.custom
    (differ : DifferBy allowed (publish first) (publish second))
    (within : ∀ {old new}, DifferBy allowed old new → Becomes change (.record old) (.record new))
    (traits : Traits Value)
    (name : String) :
    DifferBy allowed (publish (.custom traits name first)) (publish (.custom traits name second)) ∨
      PartBecomes change (publish (.custom traits name first))
        (publish (.custom traits name second)) := by
  rw [publish, publish, differ.isSome_lookup]
  split
  · exact differ.publishTraits within false traits
  · exact (differ.append _).publishTraits within false traits

/-- The own title of a call is added to untitled keywords. -/
theorem publish_call
    {node : Schema Value}
    (untitled : node.publish.lookup "title" = none)
    (traits : Traits Value)
    (name : String) :
    publish (.custom traits name node) =
      publishTraits false traits (node.publish ++ [("title", .text name)]) := by
  rw [publish, untitled]
  rfl

/-- Of two titles the one of the call within counts. -/
theorem publish_call_call
    {node : Schema Value}
    (untitled : node.publish.lookup "title" = none)
    (traits : Traits Value)
    (outer name : String) :
    publish (.custom traits outer (.custom {} name node)) =
      publishTraits false traits (node.publish ++ [("title", .text name)]) := by
  have called : publish (.custom {} name node) = node.publish ++ [("title", .text name)] :=
    publish_call untitled {} name
  rw [publish, called, List.lookup_append, untitled]
  rfl

end Published

/--
What a call does to published keywords: its title is added to those of the called schema, or
stands in place of the title of the validator that is registered with the call.
-/
def TitleChange (own : List (String × Value)) (name : String) :
    Option String → List (String × Value) → List (String × Value) → Prop
  | none => AddsTitle own name
  | some outer => Retitles outer name

namespace Surrounding

theorem validator?_registered
    {inside : Surrounding}
    (apart : inside ≠ .hole)
    (traits : Traits Value)
    (name : String) :
    (registered traits name inside).validator? = inside.validator? := by
  cases inside with
  | hole => exact absurd rfl apart
  | _ => rfl

variable {node : Schema Value} {name : String}

/--
How the keywords around a place change when a call takes the place of the called schema.  Around
nothing but the place the keywords themselves change; otherwise a part of them does, unless they
bear the title of the call for that of a validator.
-/
inductive Publishes (node : Schema Value) (name : String) : Surrounding → Prop
  | hole : Publishes node name .hole
  | retitled {surrounding : Surrounding} {outer : String}
      (registered : surrounding.validator? = some outer)
      (changed : Retitles outer name (publish (surrounding.around node))
        (publish (surrounding.around (.custom {} name node)))) :
      Publishes node name surrounding
  | within {surrounding : Surrounding}
      (changed : PartBecomes (TitleChange node.publish name surrounding.validator?)
        (publish (surrounding.around node))
        (publish (surrounding.around (.custom {} name node)))) :
      Publishes node name surrounding

variable {surrounding inside : Surrounding}

theorem Publishes.becomes
    (untitled : node.publish.lookup "title" = none)
    (publishes : surrounding.Publishes node name) :
    Becomes (TitleChange node.publish name surrounding.validator?)
      (published (surrounding.around node))
      (published (surrounding.around (.custom {} name node))) := by
  cases publishes with
  | hole => exact .here ⟨rfl, publish_call untitled {} name⟩
  | retitled registered changed =>
      rw [registered]
      exact .here changed
  | within changed => exact changed.becomes

/-- A validator passes the title of a call within it on, or the part with it. -/
theorem Publishes.of_validator
    {outer : String}
    (registered : surrounding.validator? = some outer)
    (changed :
      Retitles outer name (publish (surrounding.around node))
          (publish (surrounding.around (.custom {} name node))) ∨
        PartBecomes (Retitles outer name) (publish (surrounding.around node))
          (publish (surrounding.around (.custom {} name node)))) :
    surrounding.Publishes node name := by
  obtain retitled | part := changed
  · exact .retitled registered retitled
  · refine .within ?_
    rw [registered]
    exact part

theorem Publishes.registered
    (untitled : node.publish.lookup "title" = none)
    (publishes : inside.Publishes node name)
    (traits : Traits Value)
    (outer : String) :
    (registered traits outer inside).Publishes node name := by
  by_cases apart : inside = .hole
  · obtain rfl := apart
    have titles : Retitles outer name (node.publish ++ [("title", .text outer)])
        (node.publish ++ [("title", .text name)]) :=
      ⟨"title", by decide, _, _, ⟨rfl, rfl, rfl⟩, node.publish, [], rfl, rfl⟩
    have changed := titles.publishTraits .here false traits
    rw [← publish_call untitled traits outer, ← publish_call_call untitled traits outer] at changed
    exact .of_validator rfl changed
  · have same := validator?_registered apart traits outer
    cases publishes with
    | hole => exact absurd rfl apart
    | retitled registered changed =>
        exact .of_validator (same.trans registered) (changed.custom .here traits outer)
    | within changed =>
        exact .within (same ▸ (changed.custom PartBecomes.becomes traits outer).elim id id)

/-- The call changes nothing but titles, whatever is around it. -/
theorem publishes
    (untitled : node.publish.lookup "title" = none)
    (surrounding : Surrounding) :
    surrounding.Publishes node name := by
  have same (inside : Surrounding) : Interchangeable (inside.around node)
      (inside.around (.custom {} name node)) :=
    ((Interchangeable.custom name node).around inside).symm
  induction surrounding with
  | hole => exact .hole
  | item traits inside inductionHypothesis =>
      exact .within ((inductionHypothesis.becomes untitled).array traits)
  | field traits before key inside after inductionHypothesis =>
      exact .within
        ((inductionHypothesis.becomes untitled).object (same inside) traits before key after)
  | option traits before inside after inductionHypothesis =>
      exact .within ((inductionHypothesis.becomes untitled).union traits before after)
  | registered traits outer inside inductionHypothesis =>
      exact inductionHypothesis.registered untitled traits outer

/-- Schemas that are published alike are so in any surroundings. -/
theorem publish_around
    {first second : Schema Value}
    (same : Interchangeable first second)
    (alike : first.publish = second.publish)
    (surrounding : Surrounding) :
    (surrounding.around first).publish = (surrounding.around second).publish := by
  induction surrounding with
  | hole => exact alike
  | item traits inside inductionHypothesis =>
      simp only [around, publish, inductionHypothesis]
  | field traits before key inside after inductionHypothesis =>
      have required := ((same.around inside).fields before key after).requiredKeys
      simp only [around, publish, publishFields_eq_map, required, List.map_append, List.map_cons,
        inductionHypothesis]
  | option traits before inside after inductionHypothesis =>
      simp only [around, publish, publishOptions_eq_map, List.map_append, List.map_cons,
        inductionHypothesis]
  | registered traits outer inside inductionHypothesis =>
      simp only [around, publish, inductionHypothesis]

end Surrounding

theorem evaluate_call
    {scope : Expression.Scope}
    {name : String}
    {validator : Validator}
    (registered : scope.validators.get? name = some validator)
    (first second third : Nat) :
    Expression.evaluate scope
        (.call (.attribute (.identifier "v" first) name second) [] third) =
      .ok (.schema (.custom {} name validator.make)) := by
  have known : scope.validators.contains name = true := by simp [Registry.contains, registered]
  simp [Expression.evaluate, Expression.evaluateItems, Expression.nameValue?,
    Expression.attributeOf, Expression.callValue, Expression.isCallable, known, registered,
    bind, Except.bind]

/--
A call of a registered validator gives a schema that no value tells from the schema that its
factory makes, wherever it stands.  The published forms are the same if that
schema has a title.  Otherwise they differ by the title of the call, which is added, or stands in
place of the title of a validator that is registered with the call.
-/
theorem call_interchangeable
    {scope : Expression.Scope}
    {name : String}
    {validator : Validator}
    (registered : scope.validators.get? name = some validator)
    {node : Schema Value}
    (makes : validator.make = node)
    (surrounding : Surrounding) :
    (∀ first second third,
      Expression.evaluate scope
          (.call (.attribute (.identifier "v" first) name second) [] third) =
        .ok (.schema (.custom {} name node))) ∧
      Interchangeable (surrounding.around (.custom {} name node)) (surrounding.around node) ∧
      (∀ before key after,
        requiredKeys (before ++ (key, surrounding.around (.custom {} name node)) :: after) =
            requiredKeys (before ++ (key, surrounding.around node) :: after) ∧
          ∀ model value,
            validateModel model
                (before ++ (key, surrounding.around (.custom {} name node)) :: after) value =
              validateModel model (before ++ (key, surrounding.around node) :: after) value) ∧
      ((node.publish.lookup "title").isSome →
        published (surrounding.around (.custom {} name node)) =
          published (surrounding.around node)) ∧
      (node.publish.lookup "title" = none →
        Becomes (TitleChange node.publish name surrounding.validator?)
          (published (surrounding.around node))
          (published (surrounding.around (.custom {} name node)))) := by
  subst makes
  have same := Interchangeable.custom name validator.make
  refine ⟨evaluate_call registered, same.around surrounding, ?sections, ?titled, ?untitled⟩
  case sections =>
    intro before key after
    have fields := (same.around surrounding).fields before key after
    exact ⟨fields.requiredKeys, fields.validateModel⟩
  case titled =>
    intro titled
    have alike : publish (.custom {} name validator.make) = validator.make.publish := by
      rw [publish, if_pos titled]
      rfl
    rw [published, published, Surrounding.publish_around same alike]
  case untitled =>
    intro untitled
    exact (Surrounding.publishes untitled surrounding).becomes untitled

/-- A text of at least five characters. -/
def passwordText : Schema Value :=
  .string { steps := [{ rule := .minLength 5, message := some (.text "Too short") }] } false

/-- Within a list, the call of a validator is published with its name for a title. -/
theorem call_interchangeable_passwords :
    (Registry.ofList [("Password", Validator.ofSchema passwordText)]).get? "Password" =
        some (.ofSchema passwordText) ∧
      Interchangeable (.array {} (.custom {} "Password" passwordText))
        (.array {} passwordText) ∧
      Becomes (AddsTitle [("type", .text "string"), ("minLength", .int 5)] "Password")
        (published (.array {} passwordText))
        (published (.array {} (.custom {} "Password" passwordText))) := by
  have registered : (Registry.ofList [("Password", Validator.ofSchema passwordText)]).get?
      "Password" = some (.ofSchema passwordText) := rfl
  obtain ⟨-, same, -, -, titles⟩ :=
    @call_interchangeable { validators := _ } _ _ registered _ rfl (.item {} .hole)
  exact ⟨registered, same, titles rfl⟩

/-- A record of texts has no other record in it that a title is added to. -/
theorem Becomes.eq_append
    {own keywords : List (String × Value)}
    {title : String}
    {document : Value}
    (texts : ∀ entry ∈ keywords, ∃ content, entry.2 = .text content)
    (becomes : Becomes (AddsTitle own title) (.record keywords) document) :
    document = .record (keywords ++ [("title", .text title)]) := by
  generalize start : Value.record keywords = record at becomes
  cases becomes with
  | here added =>
      obtain ⟨rfl, rfl⟩ := added
      rw [Value.record.inj start]
  | item before after within => exact absurd start (by simp)
  | @entry before after key old new within =>
      obtain rfl := Value.record.inj start
      obtain ⟨content, text⟩ := texts (key, old) (by simp)
      obtain rfl : old = .text content := text
      cases within

/--
A validator that is registered with the call of another one and nothing else is published
with the title of the other one.  With the called schema in place of the call it is published
with its own title, so the call has not added a title to any record of the document.
-/
theorem not_becomes_call_registered :
    ∃ validators node,
      Expression.Validators.compileAll .empty [("Inner", "z.string()"), ("Outer", "v.Inner()")] =
          .ok validators ∧
        validators.get? "Inner" = some (.ofSchema node) ∧ node.publish.lookup "title" = none ∧
        Expression.compile validators "v.Outer()" =
          .ok ((Surrounding.registered {} "Outer" .hole).around (.custom {} "Inner" node)) ∧
        published ((Surrounding.registered {} "Outer" .hole).around (.custom {} "Inner" node)) ≠
          published ((Surrounding.registered {} "Outer" .hole).around node) ∧
        ∀ own title, ¬Becomes (AddsTitle own title)
          (published ((Surrounding.registered {} "Outer" .hole).around node))
          (published ((Surrounding.registered {} "Outer" .hole).around
            (.custom {} "Inner" node))) := by
  let node : Schema Value := .string {} false
  let called : Schema Value := .custom {} "Inner" node
  have outside : published (.custom {} "Outer" node) =
      .record [("type", .text "string"), ("title", .text "Outer")] := rfl
  have within : published (.custom {} "Outer" called) =
      .record [("type", .text "string"), ("title", .text "Inner")] := rfl
  refine ⟨.ofList [("Inner", .ofSchema node), ("Outer", .ofSchema called)], node, rfl, rfl, rfl,
    rfl, ?_, ?_⟩
  · exact within.trans_ne (outside ▸ by simp)
  · intro own title becomes
    have appended := Becomes.eq_append (by simp) (outside ▸ becomes)
    have lengths := congrArg List.length (Value.record.inj (within.symm.trans appended))
    exact absurd lengths (by simp)

end Schema
end RoutineGate
