import RoutineGate.Proofs.Http.Matching
import RoutineGate.Proofs.Traversal

/-!
# The names that a router takes from a pattern

A router takes a parameter wherever a brace opens before an identifier and closes behind it or
behind the kind of the parameter.  A slash stands in neither, so that the names of a pattern are
those of its pieces, one after the other.
-/

namespace RoutineGate
namespace Http
namespace PathPattern

/-- The names that a router takes from the text of a pattern, in order. -/
def namesIn (text : List Char) : Except PatternProblem (List String) :=
  (readParts [] text.length text).map names

/-! ## Taking names -/

/-- What a parameter is written as behind its opening brace. -/
theorem eq_append_of_takeParameter?
    {chars after : List Char}
    {name : String}
    {kind : Option String}
    (taken : takeParameter? chars = some (name, kind, after)) :
    isIdentifier name.toList = true ∧
      (chars = name.toList ++ '\x7d' :: after ∨
        ∃ word : String, chars = name.toList ++ ':' :: (word.toList ++ '\x7d' :: after)) := by
  unfold takeParameter? at taken
  split at taken
  · next found rest first =>
      obtain ⟨identifier, same, -⟩ := takeName?_eq_some_iff.mp first
      obtain ⟨rfl, rfl, rfl⟩ : found = name ∧ none = kind ∧ rest = after := by simpa using taken
      exact ⟨identifier, .inl same⟩
  · next found rest first =>
      obtain ⟨identifier, same, -⟩ := takeName?_eq_some_iff.mp first
      split at taken
      · next word rest second =>
          obtain ⟨rfl, rfl, rfl⟩ : found = name ∧ some word = kind ∧ rest = after := by
            simpa using taken
          obtain ⟨-, rfl, -⟩ := takeName?_eq_some_iff.mp second
          exact ⟨identifier, .inr ⟨word, same⟩⟩
      · simp at taken
  · simp at taken

theorem length_of_takeParameter?
    {chars after : List Char}
    {name : String}
    {kind : Option String}
    (taken : takeParameter? chars = some (name, kind, after)) :
    after.length < chars.length := by
  obtain ⟨-, rfl | ⟨word, rfl⟩⟩ := eq_append_of_takeParameter? taken
  all_goals
    simp only [List.length_append, List.length_cons]
    omega

/-! ## One equation per kind of character -/

@[simp] theorem names_consLiteral (content : List Char) (parts : PathPattern) :
    names (consLiteral content parts) = names parts := by
  cases content <;> rfl

@[simp] theorem names_parameter (name : String) (kind : ParameterKind) (parts : PathPattern) :
    names (.parameter name kind :: parts) = name :: names parts := rfl

/-- The names depend neither on the literal before them nor on the bound. -/
theorem map_names_readParts
    (literal : List Char)
    {fuel : Nat}
    {text : List Char}
    (enough : text.length ≤ fuel) :
    (readParts literal fuel text).map names = namesIn text := by
  -- Both readings go the same way, whatever they have read and however far they may go.
  have agree : ∀ (fuel other : Nat) (literal before text : List Char), text.length ≤ fuel →
      text.length ≤ other →
      (readParts literal fuel text).map names = (readParts before other text).map names := by
    intro fuel
    induction fuel with
    | zero =>
        intro other literal before text enough _
        obtain rfl := List.length_eq_zero_iff.mp (Nat.le_zero.mp enough)
        simp [readParts_nil, Except.map]
    | succ fuel inductionHypothesis =>
        intro other literal before text enough bound
        cases text with
        | nil => simp [readParts_nil, Except.map]
        | cons char rest =>
            obtain ⟨other, rfl⟩ := Nat.exists_eq_add_one_of_ne_zero
              (Nat.pos_iff_ne_zero.mp ((Nat.succ_pos _).trans_le bound))
            have goesOn := inductionHypothesis other (char :: literal) (char :: before) rest
              (Nat.le_of_succ_le_succ enough) (Nat.le_of_succ_le_succ bound)
            rw [readParts, readParts]
            split
            · split
              · next name kindName after taken =>
                  have shorter := length_of_takeParameter? taken
                  rw [List.length_cons] at enough bound
                  have others := inductionHypothesis other [] [] after (by omega) (by omega)
                  split
                  · revert others
                    cases readParts [] fuel after <;> cases readParts [] other after <;>
                      simp [Except.map, bind, Except.bind, pure, Except.pure]
                  · rfl
              · exact goesOn
            · exact goesOn
  exact agree fuel text.length literal [] text enough le_rfl

@[simp] theorem namesIn_nil : namesIn [] = .ok [] := rfl

theorem namesIn_cons_of_ne
    {char : Char}
    (different : char ≠ '\x7b')
    (rest : List Char) :
    namesIn (char :: rest) = namesIn rest := by
  rw [namesIn, List.length_cons, readParts, if_neg different, map_names_readParts _ le_rfl]

/-- What a router takes at an opening brace. -/
theorem namesIn_brace (rest : List Char) :
    namesIn ('\x7b' :: rest) =
      match takeParameter? rest with
      | some (name, kindName, after) =>
          match ParameterKind.ofName? (kindName.getD ParameterKind.segment.name) with
          | some _ => (namesIn after).map (name :: ·)
          | none => .error (.unknownKind (kindName.getD ""))
      | none => namesIn rest := by
  rw [namesIn, List.length_cons, readParts, if_pos rfl]
  cases taken : takeParameter? rest with
  | none => exact map_names_readParts _ le_rfl
  | some parameter =>
      obtain ⟨name, kindName, after⟩ := parameter
      have bound := (length_of_takeParameter? taken).le
      dsimp only
      cases ParameterKind.ofName? (kindName.getD ParameterKind.segment.name) with
      | none => rfl
      | some kind =>
          rw [← map_names_readParts [] bound]
          cases readParts [] rest.length after <;>
            simp [Except.map, bind, Except.bind, pure, Except.pure]

/-- Nothing is taken where no brace opens. -/
theorem namesIn_of_notMem {text : List Char} (plain : '\x7b' ∉ text) : namesIn text = .ok [] := by
  induction text with
  | nil => rfl
  | cons char text inductionHypothesis =>
      obtain ⟨different, others⟩ := not_or.mp (mt List.mem_cons.mpr plain)
      rw [namesIn_cons_of_ne (Ne.symm different), inductionHypothesis others]

/-- Only identifiers are taken. -/
theorem isIdentifier_of_mem_namesIn
    {text : List Char}
    {names : List String}
    (read : namesIn text = .ok names)
    {name : String}
    (member : name ∈ names) :
    isIdentifier name.toList = true := by
  induction length : text.length using Nat.strong_induction_on generalizing text names with
  | _ count inductionHypothesis =>
      subst length
      cases text with
      | nil =>
          obtain rfl : [] = names := by simpa using read
          simp at member
      | cons char text =>
          have goesOn := @inductionHypothesis _ (Nat.lt_succ_self text.length) text
          by_cases opens : char = '\x7b'
          · subst opens
            rw [namesIn_brace] at read
            cases taken : takeParameter? text with
            | none =>
                rw [taken] at read
                exact goesOn read member rfl
            | some parameter =>
                obtain ⟨first, kindName, after⟩ := parameter
                have shorter := length_of_takeParameter? taken
                simp only [taken] at read
                split at read
                · obtain ⟨others, readOthers, rfl⟩ := map_eq_ok_iff.mp read
                  obtain rfl | member := List.mem_cons.mp member
                  · exact (eq_append_of_takeParameter? taken).1
                  · exact inductionHypothesis _ (shorter.trans (Nat.lt_succ_self _)) readOthers
                      member rfl
                · simp at read
          · rw [namesIn_cons_of_ne opens] at read
            exact goesOn read member rfl

/-! ## Piece by piece -/

theorem takeName?_append_slash (piece after : List Char) :
    takeName? (piece ++ '/' :: after) =
      (takeName? piece).map fun taken => (taken.1, taken.2 ++ '/' :: after) := by
  have stops : isNamePart '/' = false := by decide
  have cut : (piece ++ '/' :: after).takeWhile isNamePart = piece.takeWhile isNamePart ∧
      (piece ++ '/' :: after).dropWhile isNamePart =
        piece.dropWhile isNamePart ++ '/' :: after := by
    induction piece with
    | nil => simp [stops]
    | cons char piece inductionHypothesis =>
        cases goesOn : isNamePart char <;> simp [goesOn, inductionHypothesis]
  simp only [takeName?, List.span_eq_takeWhile_dropWhile, cut.1, cut.2]
  cases piece.takeWhile isNamePart with
  | nil => rfl
  | cons start word => by_cases starts : isNameStart start = true <;> simp [starts]

/-- A parameter does not go beyond a slash. -/
theorem takeParameter?_append_slash (piece after : List Char) :
    takeParameter? (piece ++ '/' :: after) =
      (takeParameter? piece).map fun taken =>
        (taken.1, taken.2.1, taken.2.2 ++ '/' :: after) := by
  unfold takeParameter?
  rw [takeName?_append_slash]
  cases takeName? piece with
  | none => rfl
  | some taken =>
      obtain ⟨name, rest⟩ := taken
      match rest with
      | [] => rfl
      | char :: rest =>
          by_cases closes : char = '\x7d'
          · subst closes
            rfl
          · by_cases kindFollows : char = ':'
            · subst kindFollows
              simp only [Option.map_some, List.cons_append, takeName?_append_slash]
              cases takeName? rest with
              | none => rfl
              | some taken =>
                  obtain ⟨word, rest⟩ := taken
                  match rest with
                  | [] => rfl
                  | char :: rest =>
                      by_cases closes : char = '\x7d'
                      · subst closes
                        rfl
                      · simp [closes]
            · simp [closes, kindFollows]

/-- What is read before a slash is read apart from what follows it. -/
theorem namesIn_append_slash (piece after : List Char) :
    namesIn (piece ++ '/' :: after) = do
      let first ← namesIn piece
      let others ← namesIn after
      return first ++ others := by
  induction length : piece.length using Nat.strong_induction_on generalizing piece with
  | _ count inductionHypothesis =>
      subst length
      cases piece with
      | nil =>
          rw [List.nil_append, namesIn_cons_of_ne (by decide)]
          cases namesIn after <;> rfl
      | cons char piece =>
          have goesOn := inductionHypothesis _ (Nat.lt_succ_self piece.length) piece rfl
          by_cases opens : char = '\x7b'
          · subst opens
            rw [List.cons_append, namesIn_brace, namesIn_brace, takeParameter?_append_slash]
            cases taken : takeParameter? piece with
            | none => exact goesOn
            | some parameter =>
                obtain ⟨name, kindName, rest⟩ := parameter
                have shorter := length_of_takeParameter? taken
                have others := inductionHypothesis _ (shorter.trans (Nat.lt_succ_self _)) rest rfl
                simp only [Option.map_some]
                split
                · rw [others]
                  cases namesIn rest <;> cases namesIn after <;> rfl
                · rfl
          · rw [List.cons_append, namesIn_cons_of_ne opens, namesIn_cons_of_ne opens, goesOn]

/-- The names of a pattern are those of its pieces. -/
theorem namesIn_joinWith (pieces : List (List Char)) :
    namesIn (Text.joinWith ['/'] pieces) = (pieces.mapM namesIn).map List.flatten := by
  induction pieces with
  | nil => rfl
  | cons piece pieces inductionHypothesis =>
      rw [List.mapM_cons]
      cases pieces with
      | nil =>
          simp only [Text.joinWith]
          cases namesIn piece <;> simp [Except.map, bind, Except.bind, pure, Except.pure]
      | cons next pieces =>
          rw [Text.joinWith, List.append_assoc, List.singleton_append, namesIn_append_slash,
            inductionHypothesis]
          cases namesIn piece <;> cases (next :: pieces).mapM namesIn <;> rfl

end PathPattern
end Http
end RoutineGate
