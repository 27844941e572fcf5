import RoutineGate.Proofs.Request.Merging

/-!
# Published keywords

A published schema has the keywords of its kind and those that its steps write.  The last
step that writes a keyword decides what stands there.
-/

namespace RoutineGate
namespace Schema

variable {ofList : Bool} {steps : List (Step Value)} {traits : Traits Value} {key : String}

/-- The keywords that steps write, one step after the other. -/
def writtenKeywords (ofList : Bool) (steps : List (Step Value)) : List (String × Value) :=
  steps.flatMap fun step => step.rule.keywords ofList

/-- Of the steps that write a keyword the last one counts. -/
theorem lookup_addStepKeywords
    (base : List (String × Value)) :
    (addStepKeywords ofList base steps).lookup key =
      ((writtenKeywords ofList steps).reverse.lookup key).or (base.lookup key) := by
  induction steps generalizing base with
  | nil => rfl
  | cons step steps inductionHypothesis =>
      rw [addStepKeywords, List.foldl_cons]
      refine (inductionHypothesis _).trans ?_
      rw [addKeywords, Value.lookup_foldl_put, writtenKeywords, writtenKeywords,
        List.flatMap_cons, List.reverse_append, List.lookup_append, Option.or_assoc]

/-- A description and a default leave all other keywords alone. -/
theorem lookup_publishTraits
    (notDescription : key ≠ "description")
    (notDefault : key ≠ "default")
    (base : List (String × Value)) :
    (publishTraits ofList traits base).lookup key =
      (if traits.isNullable then
        [("anyOf", Value.list [.record (addStepKeywords ofList base traits.steps),
          .record [("type", .text "null")]])]
      else addStepKeywords ofList base traits.steps).lookup key := by
  unfold publishTraits
  cases traits.description with
  | none =>
      cases traits.default with
      | none => rfl
      | some value => exact Value.lookup_put_of_ne notDefault value _
  | some description =>
      have described : ∀ wrapped : List (String × Value),
          (if description.isTruthy then Value.put "description" description wrapped
            else wrapped).lookup key = wrapped.lookup key := by
        intro wrapped
        split
        · exact Value.lookup_put_of_ne notDescription description wrapped
        · rfl
      cases traits.default with
      | none => exact described _
      | some value => exact (Value.lookup_put_of_ne notDefault value _).trans (described _)

end Schema
end RoutineGate
