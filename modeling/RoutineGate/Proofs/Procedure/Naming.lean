import Mathlib.Data.List.Infix
import RoutineGate.Procedure.Name
import RoutineGate.Proofs.Http.Names
import RoutineGate.Proofs.Text.Splitting

/-!
# Naming procedures

A method and the segments of a path are written as the name of a procedure.  Two low lines
stand between segments; next to a parameter they may be left out, because its dots set it
apart.  Reading the name restores the method and the segments, and the text of the path its
parameters.  The pattern of the path has each parameter in braces, but a literal that stands in
braces too cannot be told from a parameter there, and a router takes a parameter from a literal
wherever an identifier stands in braces within it.
-/

namespace RoutineGate

/-! ## Writing names -/

namespace Segment

/-- How a segment is written in a name. -/
def written : Segment → List Char
  | .literal content => Text.replaceChar '-' ['_'] content.toList
  | .parameter name => '.' :: (name.toList ++ ['.'])

/-- How a segment is written in the pattern of a path. -/
def patternText : Segment → List Char
  | .literal content => content.toList
  | .parameter name => '\x7b' :: (name.toList ++ ['\x7d'])

/-- The name of a parameter. -/
def name? : Segment → Option String
  | .literal _ => none
  | .parameter name => some name

/-- A literal that a name says: it is not empty, and its hyphens stand alone within it. -/
@[mk_iff]
structure IsPlainLiteral (content : List Char) : Prop where
  given : content ≠ []
  unmarked : ∀ mark ∈ ['_', '.', '/'], mark ∉ content
  noParameter : content.head? ≠ some ':'
  startsAlone : content.head? ≠ some '-'
  endsAlone : content.getLast? ≠ some '-'
  apart : ¬['-', '-'] <:+: content

/-- The name of a parameter: a word without two low lines in a row. -/
@[mk_iff]
structure IsWord (name : List Char) : Prop where
  given : name ≠ []
  wordChars : ∀ char ∈ name, Text.isWordChar char = true
  apart : ¬['_', '_'] <:+: name

/-- A segment that a name says. -/
def IsCanonical : Segment → Prop
  | .literal content => IsPlainLiteral content.toList
  | .parameter name => IsWord name.toList

instance (content : List Char) : Decidable (IsPlainLiteral content) :=
  haveI : Decidable (∀ mark ∈ ['_', '.', '/'], mark ∉ content) := List.decidableBAll _ _
  decidable_of_iff' _ (isPlainLiteral_iff content)

instance (name : List Char) : Decidable (IsWord name) :=
  haveI : Decidable (∀ char ∈ name, Text.isWordChar char = true) := List.decidableBAll _ name
  decidable_of_iff' _ (isWord_iff name)

instance : DecidablePred IsCanonical
  | .literal content => inferInstanceAs (Decidable (IsPlainLiteral content.toList))
  | .parameter name => inferInstanceAs (Decidable (IsWord name.toList))

end Segment

/-- The ways to write segments: low lines may be left out next to a parameter. -/
inductive IsWritten : List Segment → List Char → Prop
  | none : IsWritten [] []
  | single (segment : Segment) : IsWritten [segment] segment.written
  | separated
      {first next : Segment}
      {rest : List Segment}
      {route : List Char}
      (others : IsWritten (next :: rest) route) :
      IsWritten (first :: next :: rest) (first.written ++ '_' :: '_' :: route)
  | adjacent
      {first next : Segment}
      {rest : List Segment}
      {route : List Char}
      (parameter : first.name?.isSome ∨ next.name?.isSome)
      (others : IsWritten (next :: rest) route) :
      IsWritten (first :: next :: rest) (first.written ++ route)

/-! ## Cutting at low lines -/

/-- What has been read before belongs to the first piece. -/
theorem splitAtLowLines_append_read (read before chars : List Char) :
    splitAtLowLines (read ++ before) chars =
      (splitAtLowLines read chars).modifyHead (before.reverse ++ ·) := by
  fun_induction splitAtLowLines read chars with
  | case1 read rest => simp [splitAtLowLines]
  | case2 read char rest single inductionHypothesis =>
      rw [splitAtLowLines]
      · exact inductionHypothesis
      · exact single
  | case3 read => simp [splitAtLowLines]

/-- A text without two low lines in a row is read into the current piece. -/
theorem splitAtLowLines_append
    {front rest : List Char}
    (apart : ¬['_', '_'] <:+: front)
    (ends : front.getLast? ≠ some '_' ∨ rest.head? ≠ some '_')
    (read : List Char) :
    splitAtLowLines read (front ++ rest) = splitAtLowLines (front.reverse ++ read) rest := by
  induction front generalizing read with
  | nil => rfl
  | cons char front inductionHypothesis =>
      have later : ¬['_', '_'] <:+: front := fun inside =>
        apart (inside.trans (List.suffix_cons char front).isInfix)
      have single : ∀ after, char = '_' → front ++ rest ≠ '_' :: after := by
        rintro after rfl same
        cases front with
        | nil =>
            have starts : rest.head? = some '_' := by
              rw [← List.nil_append rest, same, List.head?_cons]
            exact ends.elim (fun last => last rfl) fun first => first starts
        | cons next front =>
            obtain ⟨rfl, -⟩ := List.cons.inj same
            exact apart (List.prefix_append ['_', '_'] front).isInfix
      have laterEnds : front.getLast? ≠ some '_' ∨ rest.head? ≠ some '_' := by
        refine ends.imp_left fun last same => last ?_
        rw [List.getLast?_cons, same]
        rfl
      rw [List.cons_append, splitAtLowLines, inductionHypothesis later laterEnds]
      · simp
      · exact single

/-! ## Reading segments -/

/-- The segments of a path of which a literal has been read, in reverse. -/
def segmentsFrom (read chars : List Char) : List Segment :=
  match splitAtLowLines [] chars with
  | [] => []
  | piece :: pieces => pieceSegments read piece ++ pieces.flatMap (pieceSegments [])

theorem routeSegments_eq (chars : List Char) : routeSegments chars = segmentsFrom [] chars := by
  rw [routeSegments, segmentsFrom]
  cases splitAtLowLines [] chars <;> rfl

theorem segmentsFrom_nil (read : List Char) : segmentsFrom read [] = literalOf read.reverse := by
  simp [segmentsFrom, splitAtLowLines, pieceSegments]

theorem segmentsFrom_lowLines (read rest : List Char) :
    segmentsFrom read ('_' :: '_' :: rest) = literalOf read.reverse ++ segmentsFrom [] rest := by
  rw [← routeSegments_eq, routeSegments, segmentsFrom, splitAtLowLines]
  simp [pieceSegments]

theorem splitAtLowLines_ne_nil (read chars : List Char) : splitAtLowLines read chars ≠ [] := by
  fun_induction splitAtLowLines read chars with
  | case1 | case3 => exact List.cons_ne_nil _ _
  | case2 read char rest single inductionHypothesis => exact inductionHypothesis

/-- A text without two low lines in a row stands at the start of the first piece. -/
theorem segmentsFrom_append
    {front rest : List Char}
    (apart : ¬['_', '_'] <:+: front)
    (ends : front.getLast? ≠ some '_' ∨ rest.head? ≠ some '_')
    (read : List Char) :
    ∃ (piece : List Char) (pieces : List (List Char)), segmentsFrom read (front ++ rest) =
        pieceSegments read (front ++ piece) ++ pieces.flatMap (pieceSegments []) ∧
      ∀ other, segmentsFrom other rest =
        pieceSegments other piece ++ pieces.flatMap (pieceSegments []) := by
  obtain ⟨piece, pieces, split⟩ := List.exists_cons_of_ne_nil (splitAtLowLines_ne_nil [] rest)
  have whole := splitAtLowLines_append apart ends []
  have before := splitAtLowLines_append_read [] front.reverse rest
  rw [List.nil_append, split] at before
  rw [List.append_nil, before] at whole
  refine ⟨piece, pieces, ?_, fun other => by simp [segmentsFrom, split]⟩
  simp [segmentsFrom, whole]

/-- Characters other than the dot are read into a literal. -/
theorem pieceSegments_append
    {front : List Char}
    (undotted : '.' ∉ front)
    (read rest : List Char) :
    pieceSegments read (front ++ rest) = pieceSegments (front.reverse ++ read) rest := by
  induction front generalizing read with
  | nil => rfl
  | cons char front inductionHypothesis =>
      obtain ⟨different, others⟩ := not_or.mp (mt List.mem_cons.mpr undotted)
      rw [List.cons_append, pieceSegments, if_neg (Ne.symm different), inductionHypothesis others]
      simp

theorem takeParameter?_append
    {name : List Char}
    (given : name ≠ [])
    (wordChars : ∀ char ∈ name, Text.isWordChar char = true)
    (rest : List Char) :
    takeParameter? (name ++ '.' :: rest) = some (name, rest) := by
  have dot : Text.isWordChar '.' = false := by decide
  have taken : (name ++ '.' :: rest).takeWhile Text.isWordChar = name := by
    rw [List.takeWhile_append_of_pos wordChars, List.takeWhile_cons_of_neg (by simp [dot]),
      List.append_nil]
  have left : (name ++ '.' :: rest).dropWhile Text.isWordChar = '.' :: rest := by
    rw [List.dropWhile_append_of_pos wordChars, List.dropWhile_cons_of_neg (by simp [dot])]
  simp [takeParameter?, taken, left, given]

/-- A word between dots is a parameter, which ends the literal before it. -/
theorem pieceSegments_parameter
    {name : List Char}
    (given : name ≠ [])
    (wordChars : ∀ char ∈ name, Text.isWordChar char = true)
    (read rest : List Char) :
    pieceSegments read ('.' :: (name ++ '.' :: rest)) =
      literalOf read.reverse ++ .parameter (String.ofList name) :: pieceSegments [] rest := by
  have taken := takeParameter?_append given wordChars rest
  rw [pieceSegments, if_pos rfl]
  split
  · next word after found =>
      obtain ⟨rfl, rfl⟩ : name = word ∧ rest = after := by simpa [taken] using found
      rfl
  · next none => simp [taken] at none

/-- Characters other than the dot go on with a literal. -/
theorem segmentsFrom_literal_append
    {front rest : List Char}
    (undotted : '.' ∉ front)
    (apart : ¬['_', '_'] <:+: front)
    (ends : front.getLast? ≠ some '_' ∨ rest.head? ≠ some '_')
    (read : List Char) :
    segmentsFrom read (front ++ rest) = segmentsFrom (front.reverse ++ read) rest := by
  obtain ⟨piece, pieces, whole, left⟩ := segmentsFrom_append apart ends read
  rw [whole, left, pieceSegments_append undotted]

/-- A parameter ends the literal before it, and what follows starts afresh. -/
theorem segmentsFrom_parameter
    {name : String}
    (isWord : Segment.IsWord name.toList)
    (read rest : List Char) :
    segmentsFrom read ((Segment.parameter name).written ++ rest) =
      literalOf read.reverse ++ .parameter name :: segmentsFrom [] rest := by
  have apart : ¬['_', '_'] <:+: (Segment.parameter name).written := by
    intro inside
    obtain starts | inside := List.infix_cons_iff.mp inside
    · exact absurd (List.cons_prefix_cons.mp starts).1 (by decide)
    · obtain inside | inside := (Text.isInfix_append_cons_iff (by decide)).mp inside
      · exact isWord.apart inside
      · exact absurd inside (by decide)
  have ends : (Segment.parameter name).written.getLast? ≠ some '_' := by
    rw [Segment.written, ← List.cons_append, List.getLast?_concat]
    decide
  obtain ⟨piece, pieces, whole, left⟩ := segmentsFrom_append apart (.inl ends) read
  have parameter := pieceSegments_parameter isWord.given isWord.wordChars read piece
  have shape : (Segment.parameter name).written ++ piece =
      '.' :: (name.toList ++ '.' :: piece) := by
    simp [Segment.written]
  rw [whole, left, shape, parameter, String.ofList_toList, List.append_assoc, List.cons_append]

/-- The written form of a character of a literal. -/
theorem eq_hyphen_of_written
    {char : Char}
    (unmarked : char ≠ '_')
    (low : (if char = '-' then '_' else char) = '_') :
    char = '-' := by
  by_contra other
  rw [if_neg other] at low
  exact unmarked low

/-- A literal is written without dots and without low lines in a row or at its end. -/
theorem written_literal
    {content : String}
    (isLiteral : Segment.IsPlainLiteral content.toList) :
    '.' ∉ (Segment.literal content).written ∧
      ¬['_', '_'] <:+: (Segment.literal content).written ∧
      (Segment.literal content).written.getLast? ≠ some '_' ∧
      literalOf (Segment.literal content).written = [.literal content] := by
  have noLow : ∀ char ∈ content.toList, char ≠ '_' := by
    rintro char member rfl
    exact isLiteral.unmarked '_' (by simp) member
  rw [Segment.written, Text.replaceChar_eq_map]
  refine ⟨?_, ?_, ?_, ?_⟩
  · intro member
    obtain ⟨char, listed, dot⟩ := List.mem_map.mp member
    split at dot
    · exact absurd dot (by decide)
    · exact isLiteral.unmarked '.' (by simp) (dot ▸ listed)
  · intro inside
    obtain ⟨pair, inContent, same⟩ := List.infix_map_iff.mp inside
    obtain ⟨first, others, rfl, firstLow, rest⟩ := List.map_eq_cons_iff.mp same.symm
    obtain ⟨second, others, rfl, secondLow, none⟩ := List.map_eq_cons_iff.mp rest
    obtain rfl := List.map_eq_nil_iff.mp none
    obtain rfl := eq_hyphen_of_written (noLow first (inContent.subset (by simp))) firstLow
    obtain rfl := eq_hyphen_of_written (noLow second (inContent.subset (by simp))) secondLow
    exact isLiteral.apart inContent
  · intro last
    rw [List.getLast?_map, Option.map_eq_some_iff] at last
    obtain ⟨char, last, low⟩ := last
    obtain rfl := eq_hyphen_of_written (noLow char (List.mem_of_getLast? last)) low
    exact isLiteral.endsAlone last
  · have restored : ∀ char ∈ content.toList,
        (if (if char = '-' then '_' else char) = '_' then '-' else
          if char = '-' then '_' else char) = char := by
      intro char member
      by_cases hyphen : char = '-'
      · simp [hyphen]
      · simp [hyphen, noLow char member]
    have whole : Text.replaceChar '_' ['-']
        (content.toList.map fun char => if char = '-' then '_' else char) = content.toList := by
      rw [Text.replaceChar_eq_map, List.map_map]
      exact (List.map_congr_left restored).trans (List.map_id' _)
    rw [literalOf, if_neg (by simpa using isLiteral.given), whole, String.ofList_toList]

/-- What follows a segment does not change how the segment is read. -/
theorem segmentsFrom_written
    {segment : Segment}
    (canonical : segment.IsCanonical)
    {rest : List Char}
    (ends : segment.name?.isSome ∨
      ∀ read, segmentsFrom read rest = literalOf read.reverse ++ segmentsFrom [] rest) :
    segmentsFrom [] (segment.written ++ rest) = segment :: segmentsFrom [] rest := by
  cases segment with
  | parameter name =>
      rw [segmentsFrom_parameter canonical]
      rfl
  | literal content =>
      obtain ⟨undotted, apart, last, read⟩ := written_literal canonical
      rw [segmentsFrom_literal_append undotted apart (.inl last), List.append_nil,
        ends.resolve_left (by simp [Segment.name?]), List.reverse_reverse, read]
      rfl

theorem IsWritten.exists_append
    {segment : Segment}
    {rest : List Segment}
    {route : List Char}
    (written : IsWritten (segment :: rest) route) :
    ∃ more, route = segment.written ++ more := by
  cases written with
  | single => exact ⟨[], (List.append_nil _).symm⟩
  | separated | adjacent => exact ⟨_, rfl⟩

/-- A name is read back in whatever way its segments are written. -/
theorem routeSegments_of_isWritten
    {segments : List Segment}
    {route : List Char}
    (written : IsWritten segments route)
    (canonical : ∀ segment ∈ segments, segment.IsCanonical) :
    routeSegments route = segments := by
  rw [routeSegments_eq]
  induction written with
  | none => exact segmentsFrom_nil []
  | single segment =>
      have read : segmentsFrom [] (segment.written ++ []) = segment :: segmentsFrom [] [] :=
        segmentsFrom_written (canonical segment List.mem_cons_self)
          (.inr fun read => by simp [segmentsFrom_nil, literalOf])
      simpa [segmentsFrom_nil, literalOf] using read
  | @separated first next rest route others inductionHypothesis =>
      obtain ⟨firstCanonical, othersCanonical⟩ := List.forall_mem_cons.mp canonical
      have ends : ∀ read, segmentsFrom read ('_' :: '_' :: route) =
          literalOf read.reverse ++ segmentsFrom [] ('_' :: '_' :: route) := fun read => by
        rw [segmentsFrom_lowLines, segmentsFrom_lowLines]
        rfl
      rw [segmentsFrom_written firstCanonical (.inr ends), segmentsFrom_lowLines,
        inductionHypothesis othersCanonical]
      rfl
  | @adjacent first next rest route parameter others inductionHypothesis =>
      obtain ⟨firstCanonical, othersCanonical⟩ := List.forall_mem_cons.mp canonical
      rw [segmentsFrom_written firstCanonical, inductionHypothesis othersCanonical]
      refine parameter.imp_right fun named read => ?_
      obtain ⟨more, rfl⟩ := others.exists_append
      cases next with
      | literal content => exact absurd named (by simp [Segment.name?])
      | parameter name =>
          have isWord : Segment.IsWord name.toList := othersCanonical _ List.mem_cons_self
          rw [segmentsFrom_parameter isWord, segmentsFrom_parameter isWord]
          rfl

/-- A method is read from its name in small letters. -/
theorem ofName?_upper_lower (method : Method) :
    Method.ofName? (Text.upper (Text.lower method.name)) = some method := by
  cases method <;> decide

theorem notMem_lower_name (method : Method) : '_' ∉ (Text.lower method.name).toList := by
  cases method <;> decide

theorem parseName_eq
    (start : String)
    (method : Method)
    (route : List Char) :
    parseName start (start ++ Text.lower method.name ++ "_" ++ String.ofList route) =
      .ok (method, routeSegments route) := by
  have chars : (start ++ Text.lower method.name ++ "_" ++ String.ofList route).toList =
      start.toList ++ ((Text.lower method.name).toList ++ '_' :: route) := by
    simp
  have inWord : ∀ char ∈ (Text.lower method.name).toList, (char != '_') = true := by
    intro char member
    rw [bne_iff_ne]
    rintro rfl
    exact notMem_lower_name method member
  have cut : Text.partitionAt '_' ((Text.lower method.name).toList ++ '_' :: route) =
      ((Text.lower method.name).toList, route) := by
    rw [Text.partitionAt, List.takeWhile_append_of_pos inWord, List.dropWhile_append_of_pos inWord]
    simp
  rw [parseName, chars, if_pos (List.isPrefixOf_iff_prefix.mpr (List.prefix_append _ _)),
    List.drop_left, cut]
  simp only [String.ofList_toList, ofName?_upper_lower]

/-! ## Reading paths -/

theorem toList_pathText (segments : List Segment) :
    (pathText segments).toList =
      '/' :: Text.joinWith ['/'] (segments.map fun segment => segment.text.toList) := by
  simp [pathText, Text.joinWith_eq_intercalate, Function.comp_def]

theorem Segment.IsCanonical.notMem_text
    {segment : Segment}
    (canonical : segment.IsCanonical) :
    '/' ∉ segment.text.toList := by
  cases segment with
  | literal content => exact canonical.unmarked '/' (by simp)
  | parameter name =>
      intro member
      have inName : '/' ∈ name.toList := by simpa [Segment.text] using member
      exact absurd (canonical.wordChars '/' inName) (by decide)

theorem Segment.IsCanonical.notMem_patternText
    {segment : Segment}
    (canonical : segment.IsCanonical) :
    '/' ∉ segment.patternText := by
  have unmarked := canonical.notMem_text
  cases segment with
  | literal content => exact unmarked
  | parameter name => simpa [Segment.text, Segment.patternText] using unmarked

/-- A path starts with a slash, and its pieces are those of its segments. -/
theorem splitAt_slash
    {texts : List (List Char)}
    (nonempty : texts ≠ [])
    (whole : ∀ text ∈ texts, '/' ∉ text) :
    Text.splitAt '/' ('/' :: Text.joinWith ['/'] texts) = [] :: texts := by
  rw [Text.splitAt, if_pos rfl, Text.splitAt_joinWith nonempty whole]

theorem pathPieces_pathText
    {segments : List Segment}
    (nonempty : segments ≠ [])
    (canonical : ∀ segment ∈ segments, segment.IsCanonical) :
    pathPieces (pathText segments) = [] :: segments.map fun segment => segment.text.toList := by
  rw [pathPieces, toList_pathText]
  refine splitAt_slash (by simpa using nonempty) fun text member => ?_
  obtain ⟨segment, listed, rfl⟩ := List.mem_map.mp member
  exact (canonical segment listed).notMem_text

theorem pathParameters_pathText
    {segments : List Segment}
    (canonical : ∀ segment ∈ segments, segment.IsCanonical) :
    pathParameters (pathText segments) = segments.filterMap Segment.name? := by
  by_cases none : segments = []
  · subst none
    decide
  · rw [pathParameters, pathPieces_pathText none canonical, List.filterMap_cons_none rfl,
      List.filterMap_map]
    refine List.filterMap_congr fun segment member => ?_
    have shape := canonical segment member
    cases segment with
    | parameter name => simp [Segment.text, Segment.name?]
    | literal content =>
        have noParameter := shape.noParameter
        simp only [Function.comp_apply, Segment.text, Segment.name?]
        split
        · next starts => simp [starts] at noParameter
        · rfl

theorem pathPattern_pathText
    {segments : List Segment}
    (canonical : ∀ segment ∈ segments, segment.IsCanonical) :
    pathPattern (pathText segments) =
      String.ofList ('/' :: Text.joinWith ['/'] (segments.map Segment.patternText)) := by
  by_cases none : segments = []
  · subst none
    decide
  · have pieces : (pathPieces (pathText segments)).map Http.PathPattern.patternPiece =
        [] :: segments.map Segment.patternText := by
      rw [pathPieces_pathText none canonical, List.map_cons, List.map_map]
      refine congrArg ([] :: ·) (List.map_congr_left fun segment member => ?_)
      have shape := canonical segment member
      cases segment with
      | parameter name =>
          simp [Http.PathPattern.patternPiece, Segment.text, Segment.patternText]
      | literal content =>
          have noParameter := shape.noParameter
          simp only [Function.comp_apply, Segment.text, Segment.patternText,
            Http.PathPattern.patternPiece]
          split
          · next starts => simp [starts] at noParameter
          · rfl
    have whole : pathPattern (pathText segments) = String.ofList (Text.joinWith ['/']
        ((pathPieces (pathText segments)).map Http.PathPattern.patternPiece)) := rfl
    obtain ⟨first, others, rfl⟩ := List.exists_cons_of_ne_nil none
    rw [whole, pieces]
    rfl

/-! ## Names that are found in segments -/

section Found

variable
  {segments : List Segment}
  {found : Segment → List String}
  (named : ∀ name, .parameter name ∈ segments → found (.parameter name) = [name])

include named

/-- Whatever finds the names of the parameters finds as many names at least. -/
theorem length_filterMap_name?_le :
    (segments.filterMap Segment.name?).length ≤ (segments.flatMap found).length := by
  induction segments with
  | nil => exact Nat.le_refl 0
  | cons segment segments inductionHypothesis =>
      have others := inductionHypothesis fun name member =>
        named name (List.mem_cons_of_mem segment member)
      rw [List.flatMap_cons, List.length_append]
      cases segment with
      | parameter name =>
          rw [List.filterMap_cons_some (f := Segment.name?) rfl, named name List.mem_cons_self,
            List.length_cons, List.length_singleton]
          omega
      | literal content =>
          rw [List.filterMap_cons_none (f := Segment.name?) rfl]
          omega

/-- It finds exactly their names if it finds nothing in literals. -/
theorem flatMap_eq_filterMap_name?_iff :
    segments.flatMap found = segments.filterMap Segment.name? ↔
      ∀ content, .literal content ∈ segments → found (.literal content) = [] := by
  induction segments with
  | nil => simp
  | cons segment segments inductionHypothesis =>
      have namedOthers : ∀ name, .parameter name ∈ segments →
          found (.parameter name) = [name] := fun name member =>
        named name (List.mem_cons_of_mem segment member)
      have same := inductionHypothesis namedOthers
      rw [List.flatMap_cons]
      cases segment with
      | parameter name =>
          rw [List.filterMap_cons_some (f := Segment.name?) rfl, named name List.mem_cons_self]
          simpa using same
      | literal content =>
          have most := length_filterMap_name?_le namedOthers
          rw [List.filterMap_cons_none (f := Segment.name?) rfl]
          constructor
          · intro equal other member
            -- A name in the literal would be one more than there are parameters.
            have lengths := congrArg List.length equal
            rw [List.length_append] at lengths
            have none := List.eq_nil_of_length_eq_zero (l := found (.literal content)) (by omega)
            rw [none, List.nil_append, same] at equal
            obtain here | member := List.mem_cons.mp member
            · rw [here, none]
            · exact equal other member
          · intro plain
            rw [plain content List.mem_cons_self, List.nil_append, same]
            exact fun other member => plain other (List.mem_cons_of_mem _ member)

end Found

/-! ## Parameters in braces -/

/-- The name in braces that fills a piece of a pattern. -/
def braced? (piece : List Char) : Option String :=
  if piece.head? = some '\x7b' ∧ piece.getLast? = some '\x7d' then
    some (String.ofList (piece.drop 1).dropLast)
  else none

/-- The names in braces that fill pieces of a pattern, in order. -/
def bracedNames (pattern : String) : List String :=
  (pathPieces pattern).filterMap braced?

/-- The name that a segment has in braces in a pattern. -/
def Segment.bracedName? (segment : Segment) : Option String :=
  braced? segment.patternText

theorem Segment.bracedName?_parameter (name : String) :
    (Segment.parameter name).bracedName? = some name := by
  have last : (Segment.parameter name).patternText.getLast? = some '\x7d' := by
    rw [Segment.patternText, ← List.cons_append, List.getLast?_concat]
  rw [bracedName?, braced?, if_pos ⟨rfl, last⟩]
  simp [Segment.patternText]

theorem bracedNames_pathPattern
    {segments : List Segment}
    (canonical : ∀ segment ∈ segments, segment.IsCanonical) :
    bracedNames (pathPattern (pathText segments)) =
      segments.filterMap Segment.bracedName? := by
  rw [pathPattern_pathText canonical, bracedNames, pathPieces, String.toList_ofList]
  by_cases none : segments = []
  · subst none
    decide
  · have whole : ∀ text ∈ segments.map Segment.patternText, '/' ∉ text := by
      intro text member
      obtain ⟨segment, listed, rfl⟩ := List.mem_map.mp member
      exact (canonical segment listed).notMem_patternText
    rw [splitAt_slash (by simpa using none) whole, List.filterMap_cons_none rfl,
      List.filterMap_map]
    rfl

/-- Literals in braces are names too many. -/
theorem filterMap_bracedName?_eq_iff (segments : List Segment) :
    segments.filterMap Segment.bracedName? = segments.filterMap Segment.name? ↔
      ∀ content, .literal content ∈ segments → braced? content.toList = none := by
  rw [List.filterMap_eq_flatMap_toList, flatMap_eq_filterMap_name?_iff]
  · simp only [Option.toList_eq_nil_iff]
    rfl
  · intro name _
    rw [Segment.bracedName?_parameter, Option.toList_some]

/-! ## Parameters of a router -/

/-- What stands before the last brace stands before the first one. -/
theorem eq_of_append_closing
    {name found after : List Char}
    (unclosed : '\x7d' ∉ name)
    (same : name ++ ['\x7d'] = found ++ '\x7d' :: after) :
    name = found := by
  obtain ⟨more, rfl, closing⟩ | ⟨more, rfl, closing⟩ := List.append_eq_append_iff.mp same
  · have lengths := congrArg List.length closing
    simp only [List.length_append, List.length_cons, List.length_nil] at lengths
    obtain rfl := List.eq_nil_of_length_eq_zero (l := more) (by omega)
    exact (List.append_nil name).symm
  · cases more with
    | nil => exact List.append_nil found
    | cons char more =>
        obtain ⟨rfl, -⟩ := List.cons.inj closing
        exact absurd (by simp) unclosed

/-- A router takes a parameter exactly if its name is an identifier. -/
theorem namesIn_patternText_parameter
    {name : String}
    (isWord : Segment.IsWord name.toList) :
    Http.PathPattern.namesIn (Segment.parameter name).patternText =
      .ok (if Http.PathPattern.isIdentifier name.toList then [name] else []) := by
  have marks : ∀ mark ∈ ['\x7b', '\x7d', ':'], Text.isWordChar mark = false := by
    intro mark listed
    simp only [List.mem_cons, List.not_mem_nil, or_false] at listed
    rcases listed with rfl | rfl | rfl <;> decide
  have plain : ∀ mark ∈ ['\x7b', '\x7d', ':'], mark ∉ name.toList := by
    intro mark listed member
    exact absurd (isWord.wordChars mark member) (by simp [marks mark listed])
  rw [Segment.patternText, Http.PathPattern.namesIn_brace]
  by_cases identifier : Http.PathPattern.isIdentifier name.toList = true
  · have known : Http.ParameterKind.ofName? Http.ParameterKind.segment.name = some .segment := by
      decide
    rw [Http.PathPattern.takeParameter?, Http.PathPattern.takeName?_append identifier,
      if_pos identifier]
    simp [known, Except.map]
  · have none : Http.PathPattern.takeParameter? (name.toList ++ ['\x7d']) = none := by
      refine Option.eq_none_iff_forall_ne_some.mpr ?_
      rintro ⟨found, kind, after⟩ taken
      refine identifier ?_
      obtain ⟨isName, closed | ⟨word, kindFollows⟩⟩ :=
        Http.PathPattern.eq_append_of_takeParameter? taken
      · rw [eq_of_append_closing (plain '\x7d' (by simp)) closed]
        exact isName
      · have colon : ':' ∈ name.toList ++ ['\x7d'] := by simp [kindFollows]
        obtain inName | closing := List.mem_append.mp colon
        · exact absurd inName (plain ':' (by simp))
        · simp at closing
    rw [none, if_neg identifier]
    refine Http.PathPattern.namesIn_of_notMem fun member => ?_
    obtain inName | closing := List.mem_append.mp member
    · exact plain '\x7b' (by simp) inName
    · simp at closing

/-- The names of a pattern are read segment by segment. -/
theorem namesIn_pathPattern_eq_ok_iff
    {segments : List Segment}
    (canonical : ∀ segment ∈ segments, segment.IsCanonical)
    {names : List String} :
    Http.PathPattern.namesIn (pathPattern (pathText segments)).toList = .ok names ↔
      ∃ found : Segment → List String,
        (∀ segment ∈ segments,
          Http.PathPattern.namesIn segment.patternText = .ok (found segment)) ∧
        segments.flatMap found = names := by
  rw [pathPattern_pathText canonical, String.toList_ofList,
    Http.PathPattern.namesIn_cons_of_ne (by decide), Http.PathPattern.namesIn_joinWith,
    map_eq_ok_iff]
  simp only [mapM_eq_ok_iff, List.forall₂_map_left_iff, List.flatMap_def]
  constructor
  · rintro ⟨taken, read, rfl⟩
    refine ⟨fun segment => (Http.PathPattern.namesIn segment.patternText).toOption.getD [],
      fun segment member => ?_, congrArg List.flatten ?_⟩
    · obtain ⟨names, -, readHere⟩ := exists_of_forall₂ read member
      simp [readHere, Except.toOption]
    · rw [← List.forall₂_eq_eq_eq, List.forall₂_map_left_iff]
      refine read.imp fun segment names readHere => ?_
      rw [readHere]
      rfl
  · rintro ⟨found, each, rfl⟩
    exact ⟨_, List.forall₂_map_right_iff.mpr (List.forall₂_same.mpr each), rfl⟩

/-- A router takes exactly the parameters if all are identifiers and it takes no literal. -/
theorem namesIn_pathPattern_eq_iff
    {segments : List Segment}
    (canonical : ∀ segment ∈ segments, segment.IsCanonical) :
    Http.PathPattern.namesIn (pathPattern (pathText segments)).toList =
        .ok (segments.filterMap Segment.name?) ↔
      (∀ name, .parameter name ∈ segments →
        Http.PathPattern.isIdentifier name.toList = true) ∧
      ∀ content, .literal content ∈ segments →
        Http.PathPattern.namesIn content.toList = .ok [] := by
  constructor
  · intro read
    have identifiers : ∀ name, .parameter name ∈ segments →
        Http.PathPattern.isIdentifier name.toList = true := fun name member =>
      Http.PathPattern.isIdentifier_of_mem_namesIn read
        (List.mem_filterMap.mpr ⟨_, member, rfl⟩)
    obtain ⟨found, each, same⟩ := (namesIn_pathPattern_eq_ok_iff canonical).mp read
    have named : ∀ name, .parameter name ∈ segments → found (.parameter name) = [name] := by
      intro name member
      have here := each _ member
      rw [namesIn_patternText_parameter (canonical _ member),
        if_pos (identifiers name member)] at here
      exact (Except.ok.inj here).symm
    refine ⟨identifiers, fun content member => (each _ member).trans ?_⟩
    rw [(flatMap_eq_filterMap_name?_iff named).mp same content member]
  · rintro ⟨identifiers, plain⟩
    refine (namesIn_pathPattern_eq_ok_iff canonical).mpr
      ⟨fun segment => segment.name?.toList, fun segment member => ?_,
        (List.filterMap_eq_flatMap_toList _ _).symm⟩
    cases segment with
    | parameter name =>
        rw [namesIn_patternText_parameter (canonical _ member), if_pos (identifiers name member)]
        rfl
    | literal content => exact plain content member

/--
Whatever low lines are left out, a name with a method and segments is read back, and the path has
exactly the parameters.  Its pattern has each of them in braces, and no other braces fill a piece
exactly if they fill no literal.  A router takes exactly the parameters from the pattern if and
only if they are identifiers and it takes nothing from a literal.
-/
theorem parseName_of_isWritten
    {segments : List Segment}
    {route : List Char}
    (canonical : ∀ segment ∈ segments, segment.IsCanonical)
    (written : IsWritten segments route)
    (start : String)
    (method : Method) :
    parseName start (start ++ Text.lower method.name ++ "_" ++ String.ofList route) =
        .ok (method, segments) ∧
      pathParameters (pathText segments) = segments.filterMap Segment.name? ∧
      pathPattern (pathText segments) =
        String.ofList ('/' :: Text.joinWith ['/'] (segments.map Segment.patternText)) ∧
      (bracedNames (pathPattern (pathText segments)) = segments.filterMap Segment.name? ↔
        ∀ content, .literal content ∈ segments → braced? content.toList = none) ∧
      (Http.PathPattern.namesIn (pathPattern (pathText segments)).toList =
          .ok (segments.filterMap Segment.name?) ↔
        (∀ name, .parameter name ∈ segments →
          Http.PathPattern.isIdentifier name.toList = true) ∧
        ∀ content, .literal content ∈ segments →
          Http.PathPattern.namesIn content.toList = .ok []) := by
  refine ⟨?_, pathParameters_pathText canonical, pathPattern_pathText canonical, ?_,
    namesIn_pathPattern_eq_iff canonical⟩
  · rw [parseName_eq, routeSegments_of_isWritten written canonical]
  · rw [bracedNames_pathPattern canonical]
    exact filterMap_bracedName?_eq_iff segments

/-- The low lines on both sides of a parameter may be there or not. -/
theorem parseName_of_isWritten_profile :
    parseName "api_" "api_post_user.id.__update_profile" =
        .ok (.post, [.literal "user", .parameter "id", .literal "update-profile"]) ∧
      pathParameters "/user/:id/update-profile" = ["id"] ∧
      pathPattern "/user/:id/update-profile" = "/user/\x7bid\x7d/update-profile" ∧
      (bracedNames (pathPattern "/user/:id/update-profile") = ["id"] ↔
        ∀ content, .literal content ∈ [Segment.literal "user", .parameter "id",
          .literal "update-profile"] → braced? content.toList = none) ∧
      (Http.PathPattern.namesIn (pathPattern "/user/:id/update-profile").toList = .ok ["id"] ↔
        (∀ name, .parameter name ∈ [Segment.literal "user", .parameter "id",
          .literal "update-profile"] → Http.PathPattern.isIdentifier name.toList = true) ∧
        ∀ content, .literal content ∈ [Segment.literal "user", .parameter "id",
          .literal "update-profile"] → Http.PathPattern.namesIn content.toList = .ok []) := by
  have written : IsWritten [.literal "user", .parameter "id", .literal "update-profile"]
      "user.id.__update_profile".toList :=
    .adjacent (.inr rfl) (.separated (.single (.literal "update-profile")))
  exact parseName_of_isWritten (by decide) written "api_" .post

/-- A literal in braces and a parameter have one pattern, although only one path has a parameter. -/
theorem pathPattern_bracedLiteral :
    (∀ segment ∈ [Segment.literal "\x7bx\x7d", .parameter "x"], segment.IsCanonical) ∧
      parseName "api_" "api_get_\x7bx\x7d" = .ok (.get, [.literal "\x7bx\x7d"]) ∧
      parseName "api_" "api_get_.x." = .ok (.get, [.parameter "x"]) ∧
      pathParameters (pathText [.literal "\x7bx\x7d"]) = [] ∧
      pathPattern (pathText [.literal "\x7bx\x7d"]) = pathPattern (pathText [.parameter "x"]) := by
  have literal := routeSegments_of_isWritten (.single (.literal "\x7bx\x7d")) (by decide)
  have parameter := routeSegments_of_isWritten (.single (.parameter "x")) (by decide)
  refine ⟨by decide, ?_, ?_, by decide, by decide⟩
  · rw [← literal]
    exact parseName_eq "api_" .get (Segment.literal "\x7bx\x7d").written
  · rw [← parameter]
    exact parseName_eq "api_" .get (Segment.parameter "x").written

end RoutineGate
