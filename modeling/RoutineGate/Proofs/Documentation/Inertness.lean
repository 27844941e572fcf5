import RoutineGate.Documentation.Directive
import RoutineGate.Proofs.Documentation.Problems
import RoutineGate.Proofs.Documentation.Rendering
import RoutineGate.Proofs.Text.Lines

/-!
# Inert tags

A tag with an unknown word directs nothing.  A line with such a tag may be put into a block in
front of another tag or at the end: the block has the tags it had before and the new one, and
directs the same.  The type of the tag is read all the same: one that is left open makes the
whole definition fail.
-/

namespace RoutineGate
namespace Documentation

/-! ## The texts of tags -/

/-- The texts of the tags in some lines. -/
def tagSources (lines : List (List Char)) : List (List Char) :=
  (groupLines lines).map tagSource

theorem readBlock_eq (block : List Char) :
    readBlock block = (tagSources (contentLines block)).mapM readTag := by
  rw [readBlock, tagSources, List.mapM_map]
  rfl

theorem groupLines_cons
    (line : List Char)
    (lines : List (List Char)) :
    groupLines (line :: lines) =
      if continuesTag line then groupLines lines
      else (Text.trimStart line :: lines.takeWhile continuesTag) :: groupLines lines := by
  rw [groupLines]
  by_cases continues : continuesTag line = true
  · rw [if_pos continues, if_neg (by simpa [continuesTag] using continues)]
  · rw [if_neg continues, if_pos (by simpa [continuesTag] using continues)]
    rfl

/-- Lines are grouped before and after the start of a tag. -/
theorem tagSources_append
    {second : List (List Char)}
    (starts : ∀ line ∈ second.head?, continuesTag line = false)
    (first : List (List Char)) :
    tagSources (first ++ second) = tagSources first ++ tagSources second := by
  have stops : second.takeWhile continuesTag = [] := by
    cases second with
    | nil => rfl
    | cons line second => exact List.takeWhile_cons_of_neg (by simp [starts line rfl])
  induction first with
  | nil => rfl
  | cons line first inductionHypothesis =>
      have same : (first ++ second).takeWhile continuesTag = first.takeWhile continuesTag := by
        rw [List.takeWhile_append, stops, List.append_nil]
        split
        · next whole => exact ((List.takeWhile_prefix _).eq_of_length whole).symm
        · rfl
      simp only [tagSources] at inductionHypothesis ⊢
      rw [List.cons_append, groupLines_cons, groupLines_cons, same]
      split
      · exact inductionHypothesis
      · rw [List.map_cons, inductionHypothesis, List.map_cons, List.cons_append]

/-- Empty lines at the end of a tag do not belong to its text. -/
theorem tagSource_append_blanks
    {lines blanks : List (List Char)}
    (nonempty : lines ≠ [])
    (empty : ∀ line ∈ blanks, line = []) :
    tagSource (lines ++ blanks) = tagSource lines := by
  by_cases none : blanks = []
  · rw [none, List.append_nil]
  · have blank : ∀ char ∈ ['\n'] ++ Text.joinWith ['\n'] blanks, Text.isBlank char = true := by
      intro char member
      by_contra notBlank
      have apart : char ∉ ['\n'] := by
        intro feed
        obtain rfl := List.mem_singleton.mp feed
        exact notBlank (by decide)
      have absent : char ∉ Text.joinWith ['\n'] blanks :=
        Text.notMem_joinWith apart fun line listed => by simp [empty line listed]
      exact (List.mem_append.mp member).elim apart absent
    rw [tagSource, Text.joinWith_append _ nonempty none, List.append_assoc,
      Text.trim_append_of_blank blank, ← tagSource]

theorem tagSources_append_blanks
    {blanks : List (List Char)}
    (empty : ∀ line ∈ blanks, line = [])
    (lines : List (List Char)) :
    tagSources (lines ++ blanks) = tagSources lines := by
  have untagged : ∀ line ∈ blanks, (Text.trimStart line).head? ≠ some '@' := by
    intro line listed
    simp [empty line listed]
  have continued : blanks.takeWhile continuesTag = blanks :=
    List.takeWhile_eq_self_iff.mpr fun line listed => by
      simpa [continuesTag] using untagged line listed
  simp only [tagSources]
  induction lines with
  | nil =>
      have none := groupLines_append untagged []
      rw [List.append_nil] at none
      rw [List.nil_append, none]
  | cons line lines inductionHypothesis =>
      rw [List.cons_append, groupLines_cons, groupLines_cons, List.takeWhile_append, continued]
      split
      · exact inductionHypothesis
      · rw [List.map_cons, List.map_cons, inductionHypothesis]
        refine congrArg (· :: _) ?_
        split
        · next whole =>
            rw [(List.takeWhile_prefix _).eq_of_length whole, ← List.cons_append]
            exact tagSource_append_blanks (List.cons_ne_nil _ _) empty
        · rfl

/-! ## The lines of a block -/

/-- A line without its gutter and without blanks at its end. -/
def contentLine (line : List Char) : List Char :=
  Text.trimEnd (stripGutter line)

theorem contentLines_eq (block : List Char) :
    contentLines block = (Text.lines block).map contentLine := rfl

theorem contentLines_append
    {front rest : List Char}
    (starts : Text.StartsLine front rest) :
    contentLines (front ++ rest) = contentLines front ++ contentLines rest := by
  rw [contentLines_eq, Text.lines_append starts, List.map_append, contentLines_eq, contentLines_eq]

theorem contentLine_of_blank
    {line : List Char}
    (blank : ∀ char ∈ line, Text.isBlank char = true) :
    contentLine line = [] := by
  have none : Text.trimStart line = [] := List.dropWhile_eq_nil_iff.mpr blank
  rw [contentLine, stripGutter, none]
  exact Text.trimEnd_append_of_blank blank []

theorem contentLines_of_blank
    {chars : List Char}
    (blank : ∀ char ∈ chars, Text.isBlank char = true) :
    ∀ line ∈ contentLines chars, line = [] := by
  intro line member
  obtain ⟨found, listed, rfl⟩ := List.mem_map.mp (contentLines_eq chars ▸ member)
  refine contentLine_of_blank fun char inLine => blank char ?_
  exact (Text.mem_of_mem_linesFrom listed inLine).resolve_left List.not_mem_nil

/-! ## A line with a tag -/

/-- A line with a tag. -/
def tagLine (word text : List Char) : List Char :=
  gutter ++ '@' :: (word ++ text)

/-- A tag with an unknown word and a text on one line that has no mark of a block. -/
@[mk_iff]
structure IsInert (word text : List Char) : Prop where
  given : word ≠ []
  wordChars : ∀ char ∈ word, Text.isWordChar char = true
  unknown : String.ofList word ∉ namedWords
  spaced : text.head? = some ' '
  unbroken : ∀ char ∈ text, Text.isLineEnd char = false
  unmarked : ∀ mark ∈ [openingMark, closingMark], ¬mark <:+: text

instance (word text : List Char) : Decidable (IsInert word text) :=
  haveI {test : Char → Prop} [DecidablePred test] (chars : List Char) :
      Decidable (∀ char ∈ chars, test char) :=
    List.decidableBAll test chars
  decidable_of_iff' _ (isInert_iff word text)

/-- The text of a tag on one line. -/
def lineSource (word text : List Char) : List Char :=
  '@' :: (word ++ Text.trimEnd text)

namespace IsInert

variable {word text : List Char} (inert : IsInert word text)

include inert

theorem isTagChar_of_mem
    {char : Char}
    (member : char ∈ word) :
    isTagChar char = true := by
  simp [isTagChar, inert.wordChars char member]

theorem trimEnd_word : Text.trimEnd ('@' :: word) = '@' :: word := by
  refine Text.trimEnd_of_forall fun char member => ?_
  obtain rfl | member := List.mem_cons.mp member
  · decide
  · exact isBlank_of_isTagChar (inert.isTagChar_of_mem member)

theorem tagLine_unbroken
    {char : Char}
    (member : char ∈ tagLine word text) :
    Text.isLineEnd char = false := by
  obtain inGutter | member := List.mem_append.mp member
  · simp only [gutter, List.mem_cons, List.not_mem_nil, or_false] at inGutter
    obtain rfl | rfl | rfl := inGutter <;> decide
  · obtain rfl | member := List.mem_cons.mp member
    · decide
    · obtain member | member := List.mem_append.mp member
      · exact isLineEnd_of_isBlank (isBlank_of_isTagChar (inert.isTagChar_of_mem member))
      · exact inert.unbroken char member

theorem contentLine_tagLine
    {pad : List Char}
    (blank : ∀ char ∈ pad, Text.isBlank char = true) :
    contentLine (tagLine word text ++ pad) = lineSource word text := by
  have stripped : stripGutter (tagLine word text ++ pad) = ('@' :: word) ++ (text ++ pad) := by
    rw [List.cons_append, ← List.append_assoc]
    rfl
  rw [contentLine, stripped, Text.trimEnd_append_eq inert.trimEnd_word,
    Text.trimEnd_append_of_blank blank]
  rfl

omit inert in
theorem continuesTag_lineSource : continuesTag (lineSource word text) = false := by
  rw [continuesTag, lineSource, trimStart_tag]
  rfl

theorem tagSources_lineSource : tagSources [lineSource word text] = [lineSource word text] := by
  have started : Text.trimStart (lineSource word text) = lineSource word text := trimStart_tag _
  have ended : Text.trimEnd (lineSource word text) = lineSource word text := by
    have kept := Text.trimEnd_append_eq inert.trimEnd_word (Text.trimEnd text)
    rwa [Text.trimEnd_trimEnd] at kept
  have trimmed := Text.trim_eq_self_iff.mpr ⟨started, ended⟩
  rw [tagSources, groupLines_cons, if_neg (by simp [continuesTag_lineSource]), started]
  exact congrArg ([·]) trimmed

/-- A line with a tag at the end of a block is read as the last tag. -/
theorem tagSources_append_tagLine
    {tail : List Char}
    (blank : ∀ char ∈ tail, Text.isBlank char = true)
    (lines : List (List Char)) :
    tagSources (lines ++ contentLines (tagLine word text ++ tail)) =
      tagSources lines ++ [lineSource word text] := by
  have nonempty : (tagLine word text).reverse ++ [] ≠ [] := by simp [tagLine]
  obtain ⟨pad, others, same, members⟩ := Text.exists_linesFrom_cons nonempty tail
  rw [List.append_nil, List.reverse_reverse] at same
  have blanks : ∀ found ∈ pad :: others, ∀ char ∈ found, Text.isBlank char = true :=
    fun found listed char member => blank char (members found listed char member)
  have contents : contentLines (tagLine word text ++ tail) =
      [lineSource word text] ++ others.map contentLine := by
    rw [contentLines_eq, Text.lines,
      Text.linesFrom_unbroken_append fun char => inert.tagLine_unbroken, List.append_nil, same,
      List.map_cons, inert.contentLine_tagLine (blanks pad List.mem_cons_self)]
    rfl
  have empty : ∀ line ∈ others.map contentLine, line = [] := by
    intro line member
    obtain ⟨found, listed, rfl⟩ := List.mem_map.mp member
    exact contentLine_of_blank (blanks found (List.mem_cons_of_mem pad listed))
  rw [contents, ← List.append_assoc, tagSources_append_blanks empty,
    tagSources_append (by simp [continuesTag_lineSource]), inert.tagSources_lineSource]

/-- Only the type decides whether an inert tag is read, and it directs nothing. -/
theorem readTag_lineSource :
    (LeavesTypeOpen (Text.trim text) →
      readTag (lineSource word text) = .error (.unclosedType (String.ofList word))) ∧
    (¬LeavesTypeOpen (Text.trim text) →
      ∃ tag, readTag (lineSource word text) = .ok tag ∧ tag.directive? = none) := by
  have stops : ∀ char ∈ (Text.trimEnd text).head?, isTagChar char = false := by
    intro char first
    obtain ⟨after, whole⟩ : Text.trimEnd text <+: text := Text.dropWhileEnd_isPrefix _ _
    have same := inert.spaced
    rw [← whole, List.head?_append, first] at same
    obtain rfl : char = ' ' := Option.some.inj same
    decide
  have inWord : ∀ char ∈ word, isTagChar char = true := fun char => inert.isTagChar_of_mem
  have apart : (word ++ Text.trimEnd text).takeWhile isTagChar = word ∧
      (word ++ Text.trimEnd text).dropWhile isTagChar = Text.trimEnd text := by
    rw [List.takeWhile_append_of_pos inWord, List.dropWhile_append_of_pos inWord]
    cases rest : Text.trimEnd text with
    | nil => simp
    | cons char rest =>
        have notWord := stops char (by simp [rest])
        simp [notWord]
  have given : (String.ofList word).isEmpty = false := by simpa using inert.given
  have unknown : namedWords.contains (String.ofList word) = false := by
    simpa using inert.unknown
  have read : readTag (lineSource word text) =
      takeType (String.ofList word) (Text.trim text) >>= fun found => .ok {
        word := String.ofList word
        type := String.ofList found.1
        name := String.ofList (Text.firstWord found.2).1
        description := String.ofList (Text.trimEnd (Text.firstWord found.2).2) } := by
    simp only [readTag, lineSource, List.drop_succ_cons, List.drop_zero, apart.1, apart.2, given,
      unknown, Text.trim_trimEnd]
    rfl
  rw [read]
  constructor
  · intro left
    rw [takeType_eq_error_iff.mpr ⟨rfl, left⟩]
    rfl
  · intro closed
    cases taken : takeType (String.ofList word) (Text.trim text) with
    | error problem => exact absurd (takeType_eq_error_iff.mp taken).2 closed
    | ok found => exact ⟨_, rfl, directive?_of_unknown inert.unknown⟩

end IsInert

/-! ## Putting a line into a block -/

/-- The first line of a text starts a tag. -/
def StartsTag (chars : List Char) : Prop :=
  (contentLines chars).head?.any (!continuesTag ·) = true

instance (chars : List Char) : Decidable (StartsTag chars) :=
  inferInstanceAs (Decidable (_ = true))

/-- A line is put into a body in front of a line that starts a tag, or at the end. -/
inductive Inserts (line : List Char) : List Char → List Char → Prop
  /-- In front of a line that starts a tag. -/
  | beforeTag
      {front rest : List Char}
      (starts : Text.StartsLine front rest)
      (startsTag : StartsTag rest) :
      Inserts line (front ++ rest) (front ++ (line ++ '\n' :: rest))
  /-- In the place of blank lines at the end. -/
  | atEnd
      {front rest tail : List Char}
      (starts : Text.StartsLine front rest)
      (restBlank : ∀ char ∈ rest, Text.isBlank char = true)
      (tailBlank : ∀ char ∈ tail, Text.isBlank char = true) :
      Inserts line (front ++ rest) (front ++ (line ++ tail))
  /-- After the last line. -/
  | afterEnd
      {body tail : List Char}
      (tailBlank : ∀ char ∈ tail, Text.isBlank char = true) :
      Inserts line body (body ++ '\n' :: (line ++ tail))

section Marks

variable {mark : List Char} (isMark : mark ∈ [openingMark, closingMark])

include isMark

/-- A mark in a text is not completed by blanks. -/
theorem isInfix_of_append_blank
    {chars tail : List Char}
    (blank : ∀ char ∈ tail, Text.isBlank char = true)
    (inside : mark <:+: chars ++ tail) :
    mark <:+: chars := by
  have notBlank : ∀ mark ∈ [openingMark, closingMark], !mark.any Text.isBlank := by decide
  induction tail generalizing chars with
  | nil => rwa [List.append_nil] at inside
  | cons char tail inductionHypothesis =>
      obtain ⟨first, others⟩ := List.forall_mem_cons.mp blank
      have apart : char ∉ mark := fun member =>
        absurd (List.any_eq_true.mpr ⟨char, member, first⟩) (by simpa using notBlank mark isMark)
      obtain inside | inside := (Text.isInfix_append_cons_iff apart).mp inside
      · exact inside
      · have none : mark <:+: [] := inductionHypothesis others (by rwa [List.nil_append])
        exact none.trans List.nil_infix

/-- A mark around a line with a tag stands before it, or does not start before it. -/
theorem isInfix_append_tagLine
    {front word text rest : List Char}
    (inside : mark <:+: front ++ (tagLine word text ++ rest)) :
    mark <:+: front ∨ mark <:+: tagLine word text ++ rest := by
  have apart := notMem_mark mark isMark ' ' (by simp)
  obtain inside | inside := (Text.isInfix_append_cons_iff apart).mp inside
  · exact .inl inside
  · exact .inr (inside.trans (List.suffix_cons ' ' _).isInfix)

theorem IsInert.not_isInfix_tagLine
    {word text : List Char}
    (inert : IsInert word text) :
    ¬mark <:+: tagLine word text := by
  have apart := notMem_mark mark isMark
  have starred : ∀ mark ∈ [openingMark, closingMark], '*' ∈ mark := by decide
  obtain ⟨rest, rfl⟩ := List.head?_eq_some_iff.mp inert.spaced
  intro inside
  obtain inside | inside := (Text.isInfix_append_cons_iff (apart '@' (by simp))).mp inside
  · exact not_isInfix_gutter isMark inside
  obtain inside | inside := (Text.isInfix_append_cons_iff (apart ' ' (by simp))).mp inside
  · have star := inert.wordChars '*' (inside.subset (starred mark isMark))
    exact absurd star (by decide)
  · exact inert.unmarked mark isMark (inside.trans (List.suffix_cons ' ' rest).isInfix)

/-- A line with an inert tag puts no mark into a body. -/
theorem Inserts.isInfix
    {word text body other : List Char}
    (inserted : Inserts (tagLine word text) body other)
    (inert : IsInert word text)
    (inside : mark <:+: other) :
    mark <:+: body := by
  have absent := inert.not_isInfix_tagLine isMark
  have feed := notMem_mark mark isMark '\n' (by simp)
  cases inserted with
  | @beforeTag front rest starts startsTag =>
      obtain inside | inside := isInfix_append_tagLine isMark inside
      · exact inside.trans (List.prefix_append front rest).isInfix
      · obtain inside | inside := (Text.isInfix_append_cons_iff feed).mp inside
        · exact absurd inside absent
        · exact inside.trans (List.suffix_append front rest).isInfix
  | @atEnd front rest tail starts restBlank tailBlank =>
      obtain inside | inside := isInfix_append_tagLine isMark inside
      · exact inside.trans (List.prefix_append front rest).isInfix
      · exact absurd (isInfix_of_append_blank isMark tailBlank inside) absent
  | @afterEnd body tail tailBlank =>
      obtain inside | inside := (Text.isInfix_append_cons_iff feed).mp inside
      · exact inside
      · exact absurd (isInfix_of_append_blank isMark tailBlank inside) absent

end Marks

namespace Inserts

variable {word text body other : List Char}
variable (inserted : Inserts (tagLine word text) body other) (inert : IsInert word text)

include inserted inert

theorem isBody (isBody : IsBody body) : IsBody other := by
  refine ⟨?_, fun inside => isBody.unclosed (inserted.isInfix (by simp) inert inside)⟩
  have opens := isBody.opens
  cases inserted with
  | @beforeTag front rest | @atEnd front rest =>
      cases front with
      | nil => simp [tagLine, gutter]
      | cons char front => exact opens
  | afterEnd =>
      cases body with
      | nil => simp
      | cons char body => exact opens

/-- No opening comes into being around a line with an inert tag. -/
theorem isQuiet
    {after : List Char}
    (quiet : IsQuiet (body ++ closingMark) after) :
    IsQuiet (other ++ closingMark) after := by
  have unopened : ¬openingMark <:+: tagLine word text := inert.not_isInfix_tagLine (by simp)
  have lineEnds : ∀ {front rest : List Char}, Text.StartsLine front rest →
      front.getLast? ≠ some '*' := fun starts last => by
    have ends := (starts '*' last).1
    exact absurd ends (by decide)
  rw [isQuiet_append_iff] at quiet ⊢
  obtain ⟨quietBody, quietClosing⟩ := quiet
  refine ⟨?_, quietClosing⟩
  have endQuiet : ∀ tail : List Char, (∀ char ∈ tail, Text.isBlank char = true) →
      IsQuiet (tagLine word text ++ tail) (closingMark ++ after) := by
    intro tail blank
    refine isQuiet_closingMark (fun inside => ?_) after
    exact unopened (isInfix_of_append_blank (by simp) blank inside)
  cases inserted with
  | @beforeTag front rest starts startsTag =>
      rw [isQuiet_append_iff] at quietBody
      have quietLine : IsQuiet (tagLine word text) ('\n' :: (rest ++ (closingMark ++ after))) :=
        isQuiet_of_not_isInfix unopened (by simp)
      have quietFeed : IsQuiet ['\n'] (rest ++ (closingMark ++ after)) := by
        rw [isQuiet_cons_iff]
        exact ⟨fun opening => absurd opening.1 (by simp [openingMark]), isQuiet_nil⟩
      have regrouped : front ++ (tagLine word text ++ '\n' :: rest) =
          front ++ (tagLine word text ++ (['\n'] ++ rest)) := rfl
      rw [regrouped, isQuiet_append_iff, isQuiet_append_iff, isQuiet_append_iff]
      refine ⟨?_, by simpa using quietLine, quietFeed, quietBody.2⟩
      exact isQuiet_of_isQuiet quietBody.1 (.inl (lineEnds starts)) (by simp [tagLine, gutter])
  | @atEnd front rest tail starts restBlank tailBlank =>
      rw [isQuiet_append_iff] at quietBody ⊢
      refine ⟨?_, endQuiet tail tailBlank⟩
      exact isQuiet_of_isQuiet quietBody.1 (.inl (lineEnds starts)) (by simp [tagLine, gutter])
  | @afterEnd body tail tailBlank =>
      rw [isQuiet_append_iff, isQuiet_cons_iff]
      refine ⟨?_, fun opening => absurd opening.1 (by simp [openingMark]), endQuiet tail tailBlank⟩
      exact isQuiet_of_isQuiet quietBody (.inr (by simp [closingMark])) (by simp)

/-- The tags of the body stay as they are, and the new one stands among them. -/
theorem exists_tagSources :
    ∃ first second, tagSources (contentLines body) = first ++ second ∧
      tagSources (contentLines other) = first ++ lineSource word text :: second := by
  have startsLine : ∀ {front rest : List Char}, Text.StartsLine front rest → ∀ after,
      Text.StartsLine front (tagLine word text ++ after) := fun starts after last member =>
    ⟨(starts last member).1, fun pair => by simp [tagLine, gutter] at pair⟩
  cases inserted with
  | @beforeTag front rest starts startsTag =>
      have tagged : ∀ line ∈ (contentLines rest).head?, continuesTag line = false := by
        intro line first
        rw [StartsTag, Option.mem_def.mp first] at startsTag
        simpa using startsTag
      have contents : contentLines (tagLine word text ++ '\n' :: rest) =
          [lineSource word text] ++ contentLines rest := by
        have read := Text.linesFrom_append_feed (fun char => inert.tagLine_unbroken) [] rest
        have line : contentLine (tagLine word text ++ []) = lineSource word text :=
          inert.contentLine_tagLine (by simp)
        rw [List.append_nil] at line
        rw [contentLines_eq, Text.lines, read, List.reverse_nil, List.nil_append, List.map_cons,
          line]
        rfl
      refine ⟨tagSources (contentLines front), tagSources (contentLines rest), ?_, ?_⟩
      · rw [contentLines_append starts, tagSources_append tagged]
      · rw [contentLines_append (startsLine starts _), contents,
          tagSources_append (by simp [IsInert.continuesTag_lineSource]), tagSources_append tagged,
          inert.tagSources_lineSource]
        rfl
  | @atEnd front rest tail starts restBlank tailBlank =>
      refine ⟨tagSources (contentLines front), [], ?_, ?_⟩
      · rw [contentLines_append starts, tagSources_append_blanks (contentLines_of_blank restBlank),
          List.append_nil]
      · rw [contentLines_append (startsLine starts _), inert.tagSources_append_tagLine tailBlank]
  | @afterEnd body tail tailBlank =>
      have starts : Text.StartsLine (body ++ ['\n']) (tagLine word text ++ tail) := by
        intro last member
        rw [List.getLast?_concat, Option.mem_some_iff] at member
        subst member
        exact ⟨by decide, by simp⟩
      have fed : tagSources (contentLines (body ++ ['\n'])) = tagSources (contentLines body) := by
        rw [contentLines_eq, contentLines_eq]
        obtain same | same := Text.lines_concat_feed body
        · rw [same]
        · rw [same, List.map_append]
          exact tagSources_append_blanks (by simp [contentLine_of_blank]) _
      refine ⟨tagSources (contentLines body), [], by rw [List.append_nil], ?_⟩
      rw [← List.singleton_append, ← List.append_assoc, contentLines_append starts,
        inert.tagSources_append_tagLine tailBlank, fed]

end Inserts

/-! ## Reading a definition -/

/-- In an accepted definition the blocks around one are read as they are with another body. -/
theorem exists_exchange
    {before body after : List Char}
    {tags : List Tag}
    (isBody : IsBody body)
    (accepted : tagsOf true (some (String.ofList (withBlock before body after))) = .ok tags) :
    IsQuiet (body ++ closingMark) after ∧
      ∃ front back : List (List Char),
        ((front ++ body :: back).mapM readBlock).map List.flatten = .ok tags ∧
        ∀ other, IsBody other → IsQuiet (other ++ closingMark) after →
          tagsOf true (some (String.ofList (withBlock before other after))) =
            ((front ++ other :: back).mapM readBlock).map List.flatten := by
  obtain ⟨found, isOpen, scans⟩ := exists_scans (withBlock before body after)
  rw [tagsOf_strict, readTags_eq, String.toList_ofList, scans.blocks_eq, List.length_map]
    at accepted
  by_cases same : found.length = countOpenings (withBlock before body after)
  · rw [if_pos same] at accepted
    obtain ⟨closed, quiet⟩ := scans.countOpenings_eq_iff.2.mp same.symm
    obtain ⟨front, back, rfl, exchange⟩ := scans.exists_around closed quiet rfl isBody
    refine ⟨not_not.mp (quiet ⟨body, after⟩ (by simp)), front.map Block.body,
      back.map Block.body, by simpa using accepted, fun other isOther quietOther => ?_⟩
    obtain ⟨newFront, bodies, quietFront, newScans⟩ := exchange other isOther quietOther
    have quietAll : ∀ block ∈ newFront ++ ⟨other, after⟩ :: back, ¬block.HasOpening := by
      intro block member
      obtain member | member := List.mem_append.mp member
      · exact quietFront block member
      · obtain rfl | member := List.mem_cons.mp member
        · exact not_not.mpr quietOther
        · exact quiet block (by simp [member])
    have counted := newScans.countOpenings_eq_iff.2.mpr ⟨rfl, quietAll⟩
    rw [tagsOf_strict, readTags_eq, String.toList_ofList, newScans.blocks_eq, List.length_map,
      if_pos counted.symm, List.map_append, List.map_cons, bodies]
  · rw [if_neg same] at accepted
    exact absurd accepted (by simp)

/--
A line with an unknown tag in a block of a definition that is accepted leaves what the definition
directs as it was if the type of the tag is not left open; otherwise the definition is refused
for that type.
-/
theorem interpret_inserted
    {before body other after word text : List Char}
    {tags : List Tag}
    (isBody : IsBody body)
    (accepted : tagsOf true (some (String.ofList (withBlock before body after))) = .ok tags)
    (inert : IsInert word text)
    (inserted : Inserts (tagLine word text) body other) :
    (¬LeavesTypeOpen (Text.trim text) →
      ∃ others, tagsOf true (some (String.ofList (withBlock before other after))) = .ok others ∧
        interpret others = interpret tags) ∧
    (LeavesTypeOpen (Text.trim text) →
      tagsOf true (some (String.ofList (withBlock before other after))) =
        .error (.unclosedType (String.ofList word))) := by
  obtain ⟨quiet, front, back, read, exchange⟩ := exists_exchange isBody accepted
  rw [exchange other (inserted.isBody inert isBody) (inserted.isQuiet inert quiet)]
  obtain ⟨groups, traversed, rfl⟩ := map_eq_ok_iff.mp read
  obtain ⟨frontTags, others, rfl, frontRead, othersRead⟩ :=
    exists_append_of_forall₂ (mapM_eq_ok_iff.mp traversed)
  obtain ⟨bodyTags, backTags, bodyRead, backRead, rfl⟩ :=
    List.forall₂_cons_left_iff.mp othersRead
  -- the same within the block
  obtain ⟨first, second, sources, newSources⟩ := inserted.exists_tagSources inert
  rw [readBlock_eq, sources] at bodyRead
  obtain ⟨firstTags, secondTags, rfl, firstRead, secondRead⟩ :=
    exists_append_of_forall₂ (mapM_eq_ok_iff.mp bodyRead)
  have otherRead : readBlock other = (first ++ lineSource word text :: second).mapM readTag := by
    rw [readBlock_eq, newSources]
  obtain ⟨refused, ignored⟩ := inert.readTag_lineSource
  constructor
  · intro closed
    obtain ⟨tag, tagRead, inertTag⟩ := ignored closed
    have newRead : readBlock other = .ok (firstTags ++ tag :: secondTags) := by
      rw [otherRead, mapM_eq_ok_iff]
      exact List.rel_append firstRead (.cons tagRead secondRead)
    refine ⟨(frontTags ++ (firstTags ++ tag :: secondTags) :: backTags).flatten,
      map_eq_ok_iff.mpr ⟨_, mapM_eq_ok_iff.mpr ?_, rfl⟩, ?_⟩
    · exact List.rel_append frontRead (.cons newRead backRead)
    · simp [interpret, inertTag]
  · intro left
    rw [map_eq_error_iff, mapM_eq_error_iff]
    refine ⟨front, other, back, frontTags, rfl, mapM_eq_ok_iff.mpr frontRead, ?_⟩
    rw [otherRead, mapM_eq_error_iff]
    exact ⟨first, _, second, firstTags, rfl, mapM_eq_ok_iff.mpr firstRead, refused left⟩

/-- A tag whose text has a brace after its type is put in front of a parameter. -/
theorem interpret_inserted_returns :
    tagsOf true (some "/**\n * @param \x7bparams\x7d id\n */") =
        .ok [⟨"param", "params", "id", ""⟩] ∧
      ¬LeavesTypeOpen (Text.trim " \x7bobject\x7d the \x7buser".toList) ∧
      ∃ others,
        tagsOf true (some
          "/**\n * @returns \x7bobject\x7d the \x7buser\n * @param \x7bparams\x7d id\n */") =
            .ok others ∧
        interpret others = interpret [⟨"param", "params", "id", ""⟩] := by
  have accepted : tagsOf true (some (String.ofList
      (withBlock [] ("\n".toList ++ " * @param \x7bparams\x7d id\n ".toList) []))) =
      .ok [⟨"param", "params", "id", ""⟩] := by
    decide +kernel
  have inserted : Inserts (tagLine "returns".toList " \x7bobject\x7d the \x7buser".toList)
      ("\n".toList ++ " * @param \x7bparams\x7d id\n ".toList) _ :=
    .beforeTag (by decide) (by decide)
  have closed : ¬LeavesTypeOpen (Text.trim " \x7bobject\x7d the \x7buser".toList) := by
    rintro ⟨rest, same, left⟩
    obtain rfl := (List.cons.inj same).2
    exact absurd (left "object".toList " the \x7buser".toList rfl) (by decide)
  exact ⟨accepted, closed,
    (interpret_inserted (by decide) accepted (by decide +kernel) inserted).1 closed⟩

/-- A record type counts as left open, as braces open within it: the definition is refused. -/
theorem not_isInert_recordType :
    tagsOf true (some "/**\n */") = .ok [] ∧
      IsInert "returns".toList " \x7b\x7bid: number\x7d\x7d the user".toList ∧
      Inserts (tagLine "returns".toList " \x7b\x7bid: number\x7d\x7d the user".toList)
        "\n ".toList "\n * @returns \x7b\x7bid: number\x7d\x7d the user\n ".toList ∧
      tagsOf true (some "/**\n * @returns \x7b\x7bid: number\x7d\x7d the user\n */") =
        .error (.unclosedType "returns") := by
  have inserted : Inserts (tagLine "returns".toList " \x7b\x7bid: number\x7d\x7d the user".toList)
      (['\n'] ++ [' ']) (['\n'] ++ (_ ++ ['\n', ' '])) :=
    .atEnd (by decide) (by simp; decide) (by simp; decide)
  exact ⟨by decide +kernel, by decide +kernel, inserted, by decide +kernel⟩

end Documentation
end RoutineGate
