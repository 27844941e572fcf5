import Mathlib.Data.List.Forall2

/-!
# Traversals

A traversal of a list that may fail gives results exactly if it gives one for each entry, in
order.
-/

namespace RoutineGate

variable {Entry Result Problem : Type}

theorem throw_ne_ok
    {problem : Problem}
    {result : Result} :
    (throw problem : Except Problem Result) ≠ .ok result := by
  simp [throw, throwThe, MonadExceptOf.throw]

/-- The parts of a computation that gives a result all give one. -/
theorem bind_eq_ok_iff
    {First : Type}
    {action : Except Problem First}
    {next : First → Except Problem Result}
    {result : Result} :
    (action >>= next) = .ok result ↔ ∃ first, action = .ok first ∧ next first = .ok result := by
  cases action with
  | error problem => simp [bind, Except.bind]
  | ok first => simp [bind, Except.bind]

/-- Changing results keeps what gives one. -/
theorem map_eq_ok_iff
    {First : Type}
    {action : Except Problem First}
    {change : First → Result}
    {result : Result} :
    action.map change = .ok result ↔ ∃ first, action = .ok first ∧ change first = result := by
  cases action <;> simp [Except.map]

/-- Changing results leaves problems alone. -/
theorem map_eq_error_iff
    {First : Type}
    {action : Except Problem First}
    {change : First → Result}
    {problem : Problem} :
    action.map change = .error problem ↔ action = .error problem := by
  cases action <;> simp [Except.map]

/-- What fails fails at once or after a first result. -/
theorem bind_eq_error_iff
    {First : Type}
    {action : Except Problem First}
    {next : First → Except Problem Result}
    {problem : Problem} :
    (action >>= next) = .error problem ↔
      action = .error problem ∨ ∃ first, action = .ok first ∧ next first = .error problem := by
  cases action <;> simp [bind, Except.bind]

/-- Translating problems leaves results alone. -/
theorem mapError_eq_ok_iff
    {Other : Type}
    {action : Except Problem Result}
    {translate : Problem → Other}
    {result : Result} :
    action.mapError translate = .ok result ↔ action = .ok result := by
  cases action <;> simp [Except.mapError]

/-- A computation gives a result if something is observed of it. -/
theorem exists_ok_of_toOption_map
    {Observation : Type}
    {action : Except Problem Result}
    {observe : Result → Observation}
    {observation : Observation}
    (observed : action.toOption.map observe = some observation) :
    ∃ result, action = .ok result ∧ observe result = observation := by
  cases action with
  | error problem => simp [Except.toOption] at observed
  | ok result => exact ⟨result, rfl, by simpa [Except.toOption] using observed⟩

/-- A traversal gives results exactly if it gives one for each entry. -/
theorem mapM_eq_ok_iff
    {make : Entry → Except Problem Result}
    {entries : List Entry}
    {results : List Result} :
    entries.mapM make = .ok results ↔
      List.Forall₂ (fun entry result => make entry = .ok result) entries results := by
  induction entries generalizing results with
  | nil => cases results <;> simp [pure, Except.pure]
  | cons entry entries inductionHypothesis =>
      simp only [List.mapM_cons, bind_eq_ok_iff, inductionHypothesis]
      constructor
      · rintro ⟨result, made, rest, traversed, done⟩
        obtain rfl : result :: rest = results := by simpa [pure, Except.pure] using done
        exact .cons made traversed
      · rintro (_ | ⟨made, traversed⟩)
        exact ⟨_, made, _, traversed, rfl⟩

/-- A traversal fails exactly if it gets to an entry with a problem. -/
theorem mapM_eq_error_iff
    {make : Entry → Except Problem Result}
    {entries : List Entry}
    {problem : Problem} :
    entries.mapM make = .error problem ↔
      ∃ before entry after results, entries = before ++ entry :: after ∧
        before.mapM make = .ok results ∧ make entry = .error problem := by
  induction entries with
  | nil => simp [pure, Except.pure]
  | cons first entries inductionHypothesis =>
      simp only [List.mapM_cons, bind_eq_error_iff, inductionHypothesis]
      constructor
      · rintro (refused | ⟨result, made, others | same⟩)
        · exact ⟨[], first, entries, [], rfl, rfl, refused⟩
        · obtain ⟨before, entry, after, results, rfl, done, refused⟩ := others
          refine ⟨first :: before, entry, after, result :: results, rfl, ?_, refused⟩
          rw [List.mapM_cons, made, done]
          rfl
        · simp [pure, Except.pure] at same
      · rintro ⟨before, entry, after, results, same, done, refused⟩
        cases before with
        | nil =>
            obtain ⟨rfl, rfl⟩ := List.cons.inj same
            exact .inl refused
        | cons other before =>
            obtain ⟨rfl, rfl⟩ := List.cons.inj same
            rw [List.mapM_cons, bind_eq_ok_iff] at done
            obtain ⟨result, made, others⟩ := done
            obtain ⟨rest, traversed, -⟩ := bind_eq_ok_iff.mp others
            exact .inr ⟨result, made, .inl ⟨before, entry, after, rest, rfl, traversed, refused⟩⟩

/-- Each of some related entries is related to a result. -/
theorem exists_of_forall₂
    {Related : Entry → Result → Prop}
    {entries : List Entry}
    {results : List Result}
    (related : List.Forall₂ Related entries results)
    {entry : Entry}
    (member : entry ∈ entries) :
    ∃ result ∈ results, Related entry result := by
  induction related with
  | nil => exact absurd member List.not_mem_nil
  | @cons first result entries results pair rest inductionHypothesis =>
      obtain rfl | member := List.mem_cons.mp member
      · exact ⟨result, List.mem_cons_self, pair⟩
      · obtain ⟨found, listed, pair⟩ := inductionHypothesis member
        exact ⟨found, List.mem_cons_of_mem result listed, pair⟩

/-- An entry and the result at its position are related. -/
theorem exists_getElem?_of_forall₂
    {Related : Entry → Result → Prop}
    {entries : List Entry}
    {results : List Result}
    (related : List.Forall₂ Related entries results)
    {position : Nat}
    {entry : Entry}
    (here : entries[position]? = some entry) :
    ∃ result, results[position]? = some result ∧ Related entry result := by
  induction related generalizing position with
  | nil => exact absurd here (by simp)
  | @cons first result entries results pair rest inductionHypothesis =>
      cases position with
      | zero =>
          obtain rfl := Option.some.inj here
          exact ⟨result, rfl, pair⟩
      | succ position => exact inductionHypothesis here

/-- If each entry is related to something, entries are related to a list of results. -/
theorem exists_forall₂
    {Related : Entry → Result → Prop}
    {entries : List Entry}
    (related : ∀ entry ∈ entries, ∃ result, Related entry result) :
    ∃ results, List.Forall₂ Related entries results := by
  induction entries with
  | nil => exact ⟨[], .nil⟩
  | cons entry entries inductionHypothesis =>
      obtain ⟨result, pair⟩ := related entry List.mem_cons_self
      obtain ⟨results, rest⟩ := inductionHypothesis fun other member =>
        related other (List.mem_cons_of_mem entry member)
      exact ⟨result :: results, .cons pair rest⟩

/-- There are results of a traversal exactly if there is one for each entry. -/
theorem exists_mapM_eq_ok_iff
    {make : Entry → Except Problem Result}
    {entries : List Entry} :
    (∃ results, entries.mapM make = .ok results) ↔
      ∀ entry ∈ entries, ∃ result, make entry = .ok result := by
  simp only [mapM_eq_ok_iff]
  constructor
  · rintro ⟨results, made⟩ entry member
    obtain ⟨result, -, made⟩ := exists_of_forall₂ made member
    exact ⟨result, made⟩
  · exact exists_forall₂

/-- What is related to two lists in a row falls into two parts. -/
theorem exists_append_of_forall₂
    {Related : Entry → Result → Prop}
    {first second : List Entry}
    {results : List Result}
    (related : List.Forall₂ Related (first ++ second) results) :
    ∃ before after, results = before ++ after ∧
      List.Forall₂ Related first before ∧ List.Forall₂ Related second after := by
  induction first generalizing results with
  | nil => exact ⟨[], results, rfl, .nil, related⟩
  | cons entry first inductionHypothesis =>
      obtain ⟨result, rest, pair, others, rfl⟩ := List.forall₂_cons_left_iff.mp related
      obtain ⟨before, after, rfl, firstRelated, secondRelated⟩ := inductionHypothesis others
      exact ⟨result :: before, after, rfl, .cons pair firstRelated, secondRelated⟩

/-- Related entries may be replaced by what relates the entries and results themselves. -/
theorem forall₂_imp_of_mem
    {Related Other : Entry → Result → Prop}
    {entries : List Entry}
    {results : List Result}
    (related : List.Forall₂ Related entries results)
    (implied : ∀ entry ∈ entries, ∀ result ∈ results,
      Related entry result → Other entry result) :
    List.Forall₂ Other entries results := by
  rw [List.forall₂_iff_zip] at related ⊢
  refine ⟨related.1, fun {entry result} paired => ?_⟩
  obtain ⟨listed, resulting⟩ := List.of_mem_zip paired
  exact implied entry listed result resulting (related.2 paired)

/-- Relations between lists may be composed entry by entry. -/
theorem forall₂_comp_of_mem
    {Middle : Type}
    {First : Entry → Middle → Prop}
    {Second : Middle → Result → Prop}
    {Both : Entry → Result → Prop}
    {entries : List Entry}
    {middles : List Middle}
    {results : List Result}
    (first : List.Forall₂ First entries middles)
    (second : List.Forall₂ Second middles results)
    (composed : ∀ entry, ∀ middle ∈ middles, ∀ result,
      First entry middle → Second middle result → Both entry result) :
    List.Forall₂ Both entries results := by
  induction first generalizing results with
  | nil =>
      obtain rfl := List.forall₂_nil_left_iff.mp second
      exact .nil
  | @cons entry middle entries middles pair rest inductionHypothesis =>
      obtain ⟨result, _, next, others, rfl⟩ := List.forall₂_cons_left_iff.mp second
      refine .cons (composed entry middle List.mem_cons_self result pair next) ?_
      exact inductionHypothesis others fun entry other member =>
        composed entry other (List.mem_cons_of_mem middle member)

/-- What is found by its own name is found by that name alone. -/
theorem find?_named_eq_some_iff
    {name : Entry → String}
    {entries : List Entry}
    (found : ∀ entry, (entries.find? fun other => name other = name entry) = some entry)
    {content : String}
    {entry : Entry} :
    (entries.find? fun other => name other = content) = some entry ↔ content = name entry := by
  constructor
  · intro search
    have named : name entry = content := by simpa using List.find?_some search
    exact named.symm
  · rintro rfl
    exact found entry

end RoutineGate
