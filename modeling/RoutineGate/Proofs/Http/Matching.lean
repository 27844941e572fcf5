import Mathlib.Data.List.Forall2
import Mathlib.Data.List.TakeDrop
import Mathlib.Data.List.TakeWhile
import RoutineGate.Http.PathPattern
import RoutineGate.Procedure.Name
import RoutineGate.Proofs.Text.Splitting

/-!
# Which paths a pattern matches

The path of a route is cut at its slashes.  If its pieces are plain, then a path matches its
pattern exactly if it has as many pieces, each of which is either the same or, where the route
has a parameter, any piece that is not empty.
-/

namespace RoutineGate

namespace Http

/-! ## Patterns -/

theorem ParameterKind.mem_downFrom
    {greatest least number : Nat} :
    number ∈ downFrom greatest least ↔ least ≤ number ∧ number ≤ greatest := by
  rw [downFrom, List.mem_reverse, List.mem_drop_iff_getElem]
  simp only [List.length_range, List.getElem_range]
  constructor
  · rintro ⟨index, bound, rfl⟩
    omega
  · rintro ⟨lower, upper⟩
    exact ⟨number - least, by omega, by omega⟩

namespace PathPattern

/-- The parts of a pattern fit the characters of a path. -/
def Fits : PathPattern → List Char → Prop
  | [], chars => chars = [] ∨ chars = ['\n']
  | .literal content :: parts, chars => ∃ rest, chars = content ++ rest ∧ Fits parts rest
  | .parameter _ kind :: parts, chars =>
      ∃ length ∈ kind.lengths chars, Fits parts (chars.drop length)

theorem dropStart?_eq_some_iff
    {start chars rest : List Char} :
    dropStart? start chars = some rest ↔ chars = start ++ rest := by
  induction start generalizing chars with
  | nil => simp [dropStart?]
  | cons expected start inductionHypothesis =>
      cases chars with
      | nil => simp [dropStart?]
      | cons char chars =>
          by_cases same : expected = char
          · simp [dropStart?, same, inductionHypothesis]
          · simp [dropStart?, same, Ne.symm same]

/-- A pattern has parameters for exactly the paths that its parts fit. -/
theorem match?_isSome_iff
    {parts : PathPattern}
    {chars : List Char} :
    (match? parts chars).isSome ↔ Fits parts chars := by
  induction parts generalizing chars with
  | nil =>
      match chars with
      | [] => simp [match?, isAtEnd, Fits]
      | [char] => by_cases same : char = '\n' <;> simp [match?, isAtEnd, Fits, same]
      | _ :: _ :: _ => simp [match?, isAtEnd, Fits]
  | cons part parts inductionHypothesis =>
      cases part with
      | literal content =>
          simp only [match?, Fits, ← dropStart?_eq_some_iff, ← inductionHypothesis]
          cases dropStart? content chars <;> simp
      | parameter name kind =>
          simp only [match?, Fits, ← inductionHypothesis, List.findSome?_isSome_iff,
            Option.isSome_map]

/-- A parameter of a path takes some characters other than the slash. -/
theorem fits_segment_iff
    {name : String}
    {parts : PathPattern}
    {chars : List Char} :
    Fits (.parameter name .segment :: parts) chars ↔
      ∃ segment rest, segment ≠ [] ∧ '/' ∉ segment ∧ chars = segment ++ rest ∧
        Fits parts rest := by
  simp only [Fits, ParameterKind.lengths, ParameterKind.mem_downFrom, ParameterKind.countWhile]
  constructor
  · rintro ⟨length, ⟨positive, bound⟩, fits⟩
    have taken : chars.take length = (chars.takeWhile (· != '/')).take length := by
      obtain ⟨rest, split⟩ := List.takeWhile_prefix (l := chars) (· != '/')
      calc
        chars.take length = (chars.takeWhile (· != '/') ++ rest).take length := by rw [split]
        _ = (chars.takeWhile (· != '/')).take length := List.take_append_of_le_length bound
    refine ⟨chars.take length, chars.drop length, ?_, ?_, (List.take_append_drop _ _).symm, fits⟩
    · rw [taken]
      intro empty
      have lengths := congrArg List.length empty
      rw [List.length_take, List.length_nil] at lengths
      omega
    · rw [taken]
      intro member
      have passes := List.mem_takeWhile_imp (List.mem_of_mem_take member)
      simp at passes
  · rintro ⟨segment, rest, nonempty, inside, rfl, fits⟩
    refine ⟨segment.length, ⟨List.length_pos_of_ne_nil nonempty, ?_⟩, ?_⟩
    · have passes : ∀ char ∈ segment, (char != '/') = true := by
        intro char member
        rw [bne_iff_ne]
        rintro rfl
        exact inside member
      rw [List.takeWhile_append_of_pos passes, List.length_append]
      omega
    · rw [List.drop_left]
      exact fits

theorem fits_consLiteral_iff
    {content : List Char}
    {parts : PathPattern}
    {chars : List Char} :
    Fits (consLiteral content parts) chars ↔
      ∃ rest, chars = content ++ rest ∧ Fits parts rest := by
  cases content with
  | nil => simp [consLiteral]
  | cons char content => rfl

/-! ## Reading patterns -/

/-- Whether characters are the name of a parameter. -/
def isIdentifier : List Char → Bool
  | [] => false
  | start :: name => isNameStart start && (start :: name).all isNamePart

theorem readParts_nil
    (literal : List Char)
    (fuel : Nat) :
    readParts literal fuel [] = .ok (consLiteral literal.reverse []) := by
  cases fuel <;> rfl

/-- Characters without an opening brace are read as they are. -/
theorem readParts_append
    {piece : List Char}
    (plain : '\x7b' ∉ piece)
    (literal rest : List Char)
    {fuel : Nat}
    (enough : (piece ++ rest).length ≤ fuel) :
    readParts literal fuel (piece ++ rest) =
      readParts (piece.reverse ++ literal) (fuel - piece.length) rest := by
  induction piece generalizing literal fuel with
  | nil => rfl
  | cons char piece inductionHypothesis =>
      obtain ⟨different, others⟩ := not_or.mp (mt List.mem_cons.mpr plain)
      cases fuel with
      | zero => simp at enough
      | succ fuel =>
          have enoughRest : (piece ++ rest).length ≤ fuel := by
            simpa [Nat.add_right_comm] using enough
          have read := inductionHypothesis others (char :: literal) enoughRest
          rw [List.cons_append, readParts, if_neg (Ne.symm different), read]
          simp

/-- A name is an identifier that nothing goes on with. -/
theorem takeName?_eq_some_iff
    {chars rest : List Char}
    {name : String} :
    takeName? chars = some (name, rest) ↔
      isIdentifier name.toList = true ∧ chars = name.toList ++ rest ∧
        ∀ char ∈ rest.head?, isNamePart char = false := by
  rw [takeName?, List.span_eq_takeWhile_dropWhile]
  constructor
  · intro taken
    have whole : chars.takeWhile isNamePart ++ chars.dropWhile isNamePart = chars :=
      List.takeWhile_append_dropWhile
    have parts : ∀ char ∈ chars.takeWhile isNamePart, isNamePart char = true :=
      fun char member => List.mem_takeWhile_imp member
    have ends := List.head?_dropWhile_not isNamePart chars
    cases front : chars.takeWhile isNamePart with
    | nil => simp [front] at taken
    | cons start word =>
        rw [front] at taken whole parts
        by_cases starts : isNameStart start = true
        · simp only [starts, if_true, Option.some.injEq, Prod.mk.injEq] at taken
          obtain ⟨rfl, rfl⟩ := taken
          refine ⟨?_, by rw [String.toList_ofList, whole], fun char first => ?_⟩
          · simp only [String.toList_ofList, isIdentifier, starts, Bool.true_and]
            exact List.all_eq_true.mpr parts
          · rw [Option.mem_def.mp first] at ends
            simpa using ends
        · simp [starts] at taken
  · rintro ⟨identifier, rfl, ends⟩
    cases shape : name.toList with
    | nil => simp [shape, isIdentifier] at identifier
    | cons start word =>
        rw [shape, isIdentifier, Bool.and_eq_true, List.all_eq_true] at identifier
        obtain ⟨starts, parts⟩ := identifier
        have none : rest.takeWhile isNamePart = [] ∧ rest.dropWhile isNamePart = rest := by
          cases rest with
          | nil => simp
          | cons char rest => simp [ends char rfl]
        rw [List.takeWhile_append_of_pos parts, List.dropWhile_append_of_pos parts, none.1,
          none.2, List.append_nil]
        simp only [starts, if_true, Option.some.injEq, Prod.mk.injEq, and_true]
        rw [← shape, String.ofList_toList]

theorem takeName?_append
    {name : List Char}
    (identifier : isIdentifier name = true)
    (rest : List Char) :
    takeName? (name ++ '\x7d' :: rest) = some (String.ofList name, '\x7d' :: rest) := by
  have ends : isNamePart '\x7d' = false := by decide
  refine takeName?_eq_some_iff.mpr ⟨?_, ?_, ?_⟩
  · rw [String.toList_ofList, identifier]
  · rw [String.toList_ofList]
  · simp [ends]

/-- A name in braces is read as a parameter. -/
theorem readParts_parameter
    {name : List Char}
    (identifier : isIdentifier name = true)
    (literal rest : List Char)
    (fuel : Nat) :
    readParts literal (fuel + 1) ('\x7b' :: (name ++ '\x7d' :: rest)) =
      (readParts [] fuel rest).map fun parts =>
        consLiteral literal.reverse (.parameter (String.ofList name) .segment :: parts) := by
  have known : ParameterKind.ofName? ParameterKind.segment.name = some .segment := by decide
  rw [readParts, if_pos rfl, takeParameter?, takeName?_append identifier]
  simp only [Option.getD_none, known]
  cases readParts [] fuel rest <;> rfl

/-! ## Plain paths -/

/-- Whether a piece of a path is a parameter with a name, or fixed characters without marks. -/
def isPlain : List Char → Bool
  | ':' :: name => isIdentifier name
  | piece => !piece.contains '\x7b' && !piece.contains '\n'

/-- A piece of a path in a pattern. -/
def patternPiece (piece : List Char) : List Char :=
  match piece with
  | ':' :: name => '\x7b' :: name ++ ['\x7d']
  | _ => piece

/-- A piece of the path of a route takes a piece of the path of a request. -/
def Takes : List Char → List Char → Prop
  | ':' :: _, segment => segment ≠ [] ∧ '/' ∉ segment
  | piece, segment => segment = piece

/-- The pieces of the path of a route take the characters of the path of a request. -/
def TakeAll (pieces : List (List Char)) (chars : List Char) : Prop :=
  ∃ segments ending, List.Forall₂ Takes pieces segments ∧ Fits [] ending ∧
    chars = Text.joinWith ['/'] segments ++ ending

theorem takeAll_singleton_iff
    {piece chars : List Char} :
    TakeAll [piece] chars ↔
      ∃ segment rest, Takes piece segment ∧ chars = segment ++ rest ∧ Fits [] rest := by
  constructor
  · rintro ⟨segments, ending, taken, ends, same⟩
    obtain ⟨segment, _, first, others, rfl⟩ := List.forall₂_cons_left_iff.mp taken
    obtain rfl := List.forall₂_nil_left_iff.mp others
    exact ⟨segment, ending, first, same, ends⟩
  · rintro ⟨segment, ending, taken, same, ends⟩
    exact ⟨[segment], ending, .cons taken .nil, ends, same⟩

theorem takeAll_cons_iff
    {piece next chars : List Char}
    {pieces : List (List Char)} :
    TakeAll (piece :: next :: pieces) chars ↔
      ∃ segment rest, Takes piece segment ∧ chars = segment ++ '/' :: rest ∧
        TakeAll (next :: pieces) rest := by
  constructor
  · rintro ⟨segments, ending, taken, ends, same⟩
    obtain ⟨segment, _, first, others, rfl⟩ := List.forall₂_cons_left_iff.mp taken
    obtain ⟨second, rest, -, -, rfl⟩ := List.forall₂_cons_left_iff.mp others
    refine ⟨segment, Text.joinWith ['/'] (second :: rest) ++ ending, first, ?_,
      second :: rest, ending, others, ends, rfl⟩
    simp [same, Text.joinWith]
  · rintro ⟨segment, rest, first, rfl, segments, ending, others, ends, rfl⟩
    obtain ⟨second, rest, -, -, rfl⟩ := List.forall₂_cons_left_iff.mp others
    refine ⟨segment :: second :: rest, ending, .cons first others, ends, ?_⟩
    simp [Text.joinWith]

/-- However it is reached, a text is read as the pattern of what a predicate accepts. -/
def Reads (text : List Char) (Accepted : List Char → Prop) : Prop :=
  ∀ literal fuel, text.length ≤ fuel →
    ∃ parts, readParts literal fuel text = .ok parts ∧
      ∀ chars, Fits parts chars ↔ ∃ rest, chars = literal.reverse ++ rest ∧ Accepted rest

theorem reads_nil : Reads [] (Fits []) := by
  intro literal fuel _
  exact ⟨_, readParts_nil literal fuel, fun chars => fits_consLiteral_iff⟩

section Reading

variable {rest : List Char} {Accepted : List Char → Prop}

theorem reads_literal
    (read : Reads rest Accepted)
    {piece : List Char}
    (plain : '\x7b' ∉ piece) :
    Reads (piece ++ rest) fun chars => ∃ after, chars = piece ++ after ∧ Accepted after := by
  intro literal fuel enough
  have enoughRest : rest.length ≤ fuel - piece.length := by
    rw [List.length_append] at enough
    omega
  obtain ⟨parts, readRest, fits⟩ := read (piece.reverse ++ literal) _ enoughRest
  refine ⟨parts, ?_, fun chars => ?_⟩
  · rw [readParts_append plain literal rest enough, readRest]
  · rw [fits chars]
    constructor
    · rintro ⟨after, rfl, accepted⟩
      exact ⟨piece ++ after, by simp, after, rfl, accepted⟩
    · rintro ⟨_, rfl, after, rfl, accepted⟩
      exact ⟨after, by simp, accepted⟩

theorem reads_parameter
    (read : Reads rest Accepted)
    {name : List Char}
    (identifier : isIdentifier name = true) :
    Reads ('\x7b' :: (name ++ '\x7d' :: rest)) fun chars => ∃ segment after,
      segment ≠ [] ∧ '/' ∉ segment ∧ chars = segment ++ after ∧ Accepted after := by
  intro literal fuel enough
  obtain ⟨fuel, rfl⟩ : ∃ remaining, fuel = remaining + 1 := by
    refine ⟨fuel - 1, ?_⟩
    rw [List.length_cons] at enough
    omega
  have enoughRest : rest.length ≤ fuel := by
    simp only [List.length_cons, List.length_append] at enough
    omega
  obtain ⟨parts, readRest, fits⟩ := read [] fuel enoughRest
  refine ⟨_, by rw [readParts_parameter identifier, readRest]; rfl, fun chars => ?_⟩
  rw [fits_consLiteral_iff]
  simp only [fits_segment_iff, fits, List.reverse_nil, List.nil_append, exists_eq_left']

/-- A plain piece is read as what accepts the pieces that it takes, before what follows. -/
theorem reads_patternPiece
    (read : Reads rest Accepted)
    {piece : List Char}
    (plain : isPlain piece = true) :
    Reads (patternPiece piece ++ rest) fun chars => ∃ segment after,
      Takes piece segment ∧ chars = segment ++ after ∧ Accepted after := by
  unfold isPlain at plain
  unfold patternPiece Takes
  split at plain
  · next name =>
      have parameter := reads_parameter read plain
      simpa [and_assoc] using parameter
  · next notParameter =>
      simp only [Bool.and_eq_true, Bool.not_eq_true', List.contains_eq_mem,
        decide_eq_false_iff_not] at plain
      have literal := reads_literal read plain.1
      simpa using literal

end Reading

/-- The pattern of plain pieces accepts exactly what they take. -/
theorem reads_pieces
    {pieces : List (List Char)}
    (nonempty : pieces ≠ [])
    (plain : ∀ piece ∈ pieces, isPlain piece = true) :
    Reads (Text.joinWith ['/'] (pieces.map patternPiece)) (TakeAll pieces) := by
  induction pieces with
  | nil => exact absurd rfl nonempty
  | cons piece pieces inductionHypothesis =>
      have first := plain piece List.mem_cons_self
      cases pieces with
      | nil =>
          have read := reads_patternPiece reads_nil first
          rw [List.append_nil] at read
          have same : TakeAll [piece] = fun chars => ∃ segment rest, Takes piece segment ∧
              chars = segment ++ rest ∧ Fits [] rest := by
            funext chars
            exact propext takeAll_singleton_iff
          rw [same]
          exact read
      | cons next pieces =>
          have others := inductionHypothesis (List.cons_ne_nil next pieces)
            fun other member => plain other (List.mem_cons_of_mem piece member)
          have slash : '\x7b' ∉ ['/'] := by decide
          have read := reads_patternPiece (reads_literal others slash) first
          have same : TakeAll (piece :: next :: pieces) = fun chars => ∃ segment after,
              Takes piece segment ∧ chars = segment ++ after ∧
              ∃ rest, after = ['/'] ++ rest ∧ TakeAll (next :: pieces) rest := by
            funext chars
            rw [takeAll_cons_iff]
            apply propext
            constructor
            · rintro ⟨segment, rest, taken, rfl, all⟩
              exact ⟨segment, _, taken, rfl, rest, rfl, all⟩
            · rintro ⟨segment, _, taken, rfl, rest, rfl, all⟩
              exact ⟨segment, rest, taken, rfl, all⟩
          rw [same, List.map_cons, List.map_cons, Text.joinWith, List.append_assoc]
          exact read

/-- A path has the pattern of a plain path exactly if the pieces of the latter take it. -/
theorem match?_pathPattern_isSome_iff
    {path : String}
    (plain : ∀ piece ∈ pathPieces path, isPlain piece = true)
    {parts : PathPattern}
    (read : ofText (pathPattern path) = .ok parts)
    (chars : List Char) :
    (match? parts chars).isSome ↔ TakeAll (pathPieces path) chars := by
  have nonempty : pathPieces path ≠ [] := Text.splitAt_ne_nil '/' path.toList
  have text : (pathPattern path).toList =
      Text.joinWith ['/'] ((pathPieces path).map patternPiece) := by
    rw [pathPattern, String.toList_ofList]
    rfl
  have enough : (Text.joinWith ['/'] ((pathPieces path).map patternPiece)).length ≤
      (pathPattern path).length := by
    rw [← text, String.length_toList]
  obtain ⟨all, readAll, fits⟩ := reads_pieces nonempty plain [] _ enough
  have same : all = parts := by
    unfold ofText at read
    rw [text, readAll] at read
    cases repeated : repeatedNames (names all) with
    | nil => simpa [repeated] using read
    | cons name names => simp [repeated] at read
  subst same
  rw [match?_isSome_iff, fits]
  simp

end PathPattern
end Http
end RoutineGate
