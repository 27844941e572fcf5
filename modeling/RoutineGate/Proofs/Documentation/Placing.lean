import RoutineGate.Proofs.Documentation.Inertness

/-!
# A line of its own for a tag

A tag may stand on any line of a block, after blanks or a gutter.  If only empty lines follow it
until the next tag, it is read from the text on that line, and all other tags of the definition
are those that the definition has without the text.
-/

namespace RoutineGate

namespace Text

/-- A line end ends what is read of a line. -/
theorem linesFrom_of_ends
    {rest : List Char}
    (nonempty : rest ≠ [])
    (ends : ∀ char ∈ rest.head?, isLineEnd char = true)
    (read : List Char) :
    linesFrom read rest = read.reverse :: (lines rest).tail := by
  obtain ⟨char, rest, rfl⟩ := List.exists_cons_of_ne_nil nonempty
  have lineEnd := ends char rfl
  by_cases pair : char = '\r' ∧ rest.head? = some '\n'
  · obtain ⟨rfl, feed⟩ := pair
    obtain ⟨after, rfl⟩ := List.head?_eq_some_iff.mp feed
    rfl
  · rw [lines, linesFrom_cons_of_ends lineEnd pair, linesFrom_cons_of_ends lineEnd pair]
    rfl

/-- A line is the first one of a text in which its end follows. -/
theorem lines_unbroken_append
    {line rest : List Char}
    (unbroken : ∀ char ∈ line, isLineEnd char = false)
    (nonempty : line ≠ [])
    (ends : ∀ char ∈ rest.head?, isLineEnd char = true) :
    lines (line ++ rest) = line :: (lines rest).tail := by
  rw [lines, linesFrom_unbroken_append unbroken, List.append_nil]
  by_cases none : rest = []
  · subst none
    simp [linesFrom, lines, nonempty]
  · rw [linesFrom_of_ends none ends, List.reverse_reverse]

end Text

namespace Documentation

/-- A tag on one line that has no mark of a block. -/
structure IsTagText (text : List Char) : Prop where
  tagged : text.head? = some '@'
  unbroken : ∀ char ∈ text, Text.isLineEnd char = false
  unmarked : ∀ mark ∈ [openingMark, closingMark], ¬mark <:+: text

/-- What may stand before a tag on its line. -/
inductive IsLead : List Char → Prop
  | blank {pad : List Char}
      (blank : ∀ char ∈ pad, Text.isBlank char = true) :
      IsLead pad
  | gutter {pad space : List Char}
      (padBlank : ∀ char ∈ pad, Text.isBlank char = true)
      (spaceBlank : ∀ char ∈ space, Text.isBlank char = true) :
      IsLead (pad ++ '*' :: space)

/-- A place for a tag in a block, after the lead of a line. -/
structure IsPlace (above lead below : List Char) : Prop where
  isLead : IsLead lead
  unbroken : ∀ char ∈ lead, Text.isLineEnd char = false
  starts : ∀ last ∈ above.getLast?, Text.isLineEnd last = true
  ends : ∀ char ∈ below.head?, Text.isLineEnd char = true
  /-- Nothing that follows belongs to the tag. -/
  alone : ∀ line ∈ (contentLines below).takeWhile continuesTag, line = []

/-! ## The lead of a line -/

/-- Without its gutter a line has blanks before the tag at most. -/
theorem IsLead.exists_stripGutter
    {lead : List Char}
    (isLead : IsLead lead)
    (rest : List Char)
    (tagged : ∀ char ∈ rest.head?, char = '@') :
    ∃ pad, (∀ char ∈ pad, Text.isBlank char = true) ∧
      stripGutter (lead ++ rest) = pad ++ rest := by
  have start : Text.trimStart rest = rest := Text.trimStart_eq_self_iff.mpr fun char first => by
    rw [tagged char first]
    decide
  cases isLead with
  | blank blank =>
      have trimmed : Text.trimStart (lead ++ rest) = rest := by
        rw [Text.trimStart, List.dropWhile_append_of_pos blank, ← Text.trimStart, start]
      refine ⟨lead, blank, ?_⟩
      rw [stripGutter, trimmed]
      cases rest with
      | nil => rfl
      | cons char rest =>
          obtain rfl := tagged char rfl
          rfl
  | @gutter pad space padBlank spaceBlank =>
      have trimmed : Text.trimStart (pad ++ '*' :: space ++ rest) = '*' :: (space ++ rest) := by
        rw [List.append_assoc, Text.trimStart, List.dropWhile_append_of_pos padBlank]
        rfl
      rw [stripGutter, trimmed]
      cases space with
      | nil =>
          refine ⟨[], by simp, ?_⟩
          cases rest with
          | nil => rfl
          | cons char rest =>
              obtain rfl := tagged char rfl
              rfl
      | cons char space =>
          obtain ⟨charBlank, restBlank⟩ := List.forall_mem_cons.mp spaceBlank
          by_cases single : char = ' '
          · subst single
            exact ⟨space, restBlank, rfl⟩
          · have unslashed : char ≠ '/' := by
              rintro rfl
              exact absurd charBlank (by decide)
            refine ⟨char :: space, spaceBlank, ?_⟩
            simp [single, unslashed]

/-- The lead of a line alone is an empty line. -/
theorem IsLead.contentLine_eq_nil
    {lead : List Char}
    (isLead : IsLead lead) :
    contentLine lead = [] := by
  obtain ⟨pad, blank, stripped⟩ := isLead.exists_stripGutter [] (by simp)
  rw [List.append_nil, List.append_nil] at stripped
  rw [contentLine, stripped]
  exact Text.trimEnd_append_of_blank blank []

theorem trimEnd_tag (front rest : List Char) :
    Text.trimEnd (front ++ '@' :: rest) = front ++ '@' :: Text.trimEnd rest := by
  have kept : Text.trimEnd (front ++ ['@']) = front ++ ['@'] :=
    Text.trimEnd_append (by decide) (by simp) front
  have trimmed := Text.trimEnd_append_eq kept rest
  simpa using trimmed

/-- After its lead a line has the tag. -/
theorem IsLead.trimStart_contentLine
    {lead text : List Char}
    (isLead : IsLead lead)
    (tagged : text.head? = some '@') :
    Text.trimStart (contentLine (lead ++ text)) = Text.trimEnd text := by
  obtain ⟨rest, rfl⟩ := List.head?_eq_some_iff.mp tagged
  obtain ⟨pad, blank, stripped⟩ := isLead.exists_stripGutter ('@' :: rest) (by simp)
  have whole : Text.trimEnd ('@' :: rest) = '@' :: Text.trimEnd rest := trimEnd_tag [] rest
  rw [contentLine, stripped, trimEnd_tag, whole, Text.trimStart,
    List.dropWhile_append_of_pos blank]
  exact trimStart_tag _

/-! ## The texts of tags -/

/-- Lines from which only empty ones come before the next tag add their tags to others. -/
theorem tagSources_append_alone
    {second : List (List Char)}
    (alone : ∀ line ∈ second.takeWhile continuesTag, line = [])
    (first : List (List Char)) :
    tagSources (first ++ second) = tagSources first ++ tagSources second := by
  have starts : ∀ line ∈ (second.dropWhile continuesTag).head?, continuesTag line = false :=
    fun line member => by
      have stopped := List.head?_dropWhile_not continuesTag second
      rwa [Option.mem_def.mp member] at stopped
  have none : tagSources (second.takeWhile continuesTag) = [] :=
    tagSources_append_blanks alone []
  rw [← List.takeWhile_append_dropWhile (p := continuesTag) (l := second), ← List.append_assoc,
    tagSources_append starts, tagSources_append starts, tagSources_append_blanks alone, none,
    List.nil_append]

/-- A tag on a line that only empty ones follow has the text of the line. -/
theorem tagSources_cons_alone
    {line : List Char}
    {lines : List (List Char)}
    (starts : continuesTag line = false)
    (alone : ∀ line ∈ lines.takeWhile continuesTag, line = []) :
    tagSources (line :: lines) = Text.trim line :: tagSources lines := by
  have trimmed : Text.trim (Text.trimStart line) = Text.trim line :=
    congrArg Text.trimEnd (List.dropWhile_idempotent Text.isBlank line)
  have source : tagSource (Text.trimStart line :: lines.takeWhile continuesTag) =
      Text.trim line := by
    rw [← List.singleton_append, tagSource_append_blanks (List.cons_ne_nil _ _) alone]
    exact trimmed
  rw [tagSources, groupLines_cons, if_neg (by simp [starts]), List.map_cons, source, tagSources]

@[simp] theorem continuesTag_nil : continuesTag [] = true := rfl

theorem tagSources_nil_cons (lines : List (List Char)) :
    tagSources ([] :: lines) = tagSources lines := by
  rw [tagSources, groupLines_cons, if_pos continuesTag_nil, tagSources]

theorem tagSources_contentLines_feed (body : List Char) :
    tagSources (contentLines (body ++ ['\n'])) = tagSources (contentLines body) := by
  rw [contentLines_eq, contentLines_eq]
  obtain same | same := Text.lines_concat_feed body
  · rw [same]
  · rw [same, List.map_append]
    exact tagSources_append_blanks (by simp [contentLine_of_blank]) _

/-- Where a line ends, a body is cut into the tags before and after, if only empty lines follow. -/
theorem tagSources_contentLines_append
    {above below : List Char}
    (starts : ∀ last ∈ above.getLast?, Text.isLineEnd last = true)
    (alone : ∀ line ∈ (contentLines below).takeWhile continuesTag, line = []) :
    tagSources (contentLines (above ++ below)) =
      tagSources (contentLines above) ++ tagSources (contentLines below) := by
  by_cases apart : Text.StartsLine above below
  · rw [contentLines_append apart, tagSources_append_alone alone]
  · -- a carriage return and a line feed end one line
    obtain ⟨below, rfl⟩ : ∃ rest, below = '\n' :: rest := by
      simp only [Text.StartsLine, not_forall, not_and, not_not] at apart
      obtain ⟨last, member, pair⟩ := apart
      exact List.head?_eq_some_iff.mp (pair (starts last member)).2
    have feed : contentLines ('\n' :: below) = [] :: contentLines below := rfl
    have cut : Text.StartsLine (above ++ ['\n']) below := by
      intro last member
      rw [List.getLast?_concat, Option.mem_some_iff] at member
      subst member
      exact ⟨by decide, by simp⟩
    rw [feed, List.takeWhile_cons_of_pos continuesTag_nil] at alone
    rw [List.append_cons, contentLines_append cut,
      tagSources_append_alone (List.forall_mem_cons.mp alone).2, tagSources_contentLines_feed, feed,
      tagSources_nil_cons]

theorem isLineEnd_of_mem_mark :
    ∀ mark ∈ [openingMark, closingMark], ∀ char ∈ mark, Text.isLineEnd char = false := by
  simp only [openingMark, closingMark, List.mem_cons, List.not_mem_nil, or_false, forall_eq_or_imp,
    forall_eq]
  decide

/-! ## Putting a tag into its place -/

namespace IsPlace

variable {above lead below : List Char} (place : IsPlace above lead below)

include place

/-- What ends the line of the tag is no line by itself. -/
theorem tail_below :
    tagSources (contentLines below).tail = tagSources (contentLines below) ∧
      ∀ line ∈ (contentLines below).tail.takeWhile continuesTag, line = [] := by
  have alone := place.alone
  by_cases none : below = []
  · subst none
    exact ⟨rfl, by simp [contentLines_eq, Text.lines, Text.linesFrom]⟩
  · have first : contentLines below = [] :: (contentLines below).tail := by
      have lines := Text.linesFrom_of_ends none place.ends []
      rw [contentLines_eq, Text.lines, lines]
      rfl
    rw [first, List.takeWhile_cons_of_pos continuesTag_nil] at alone
    have same := tagSources_nil_cons (contentLines below).tail
    rw [← first] at same
    exact ⟨same.symm, (List.forall_mem_cons.mp alone).2⟩

theorem line_unbroken
    {text : List Char}
    (unbroken : ∀ char ∈ text, Text.isLineEnd char = false)
    {char : Char}
    (member : char ∈ lead ++ text) :
    Text.isLineEnd char = false :=
  (List.mem_append.mp member).elim (place.unbroken char) (unbroken char)

/-- The line of the place, with something after the lead or without. -/
theorem contentLines_append_below
    (text : List Char)
    (unbroken : ∀ char ∈ text, Text.isLineEnd char = false)
    (nonempty : lead ++ text ≠ []) :
    contentLines (lead ++ (text ++ below)) =
      contentLine (lead ++ text) :: (contentLines below).tail := by
  rw [← List.append_assoc, contentLines_eq, Text.lines_unbroken_append
    (fun _ => place.line_unbroken unbroken) nonempty place.ends, List.map_cons, List.map_tail]
  rfl

/-- Without the tag the body has the tags above and below. -/
theorem tagSources_without :
    tagSources (contentLines (above ++ (lead ++ below))) =
      tagSources (contentLines above) ++ tagSources (contentLines below) := by
  by_cases none : lead = []
  · rw [none, List.nil_append, tagSources_contentLines_append place.starts place.alone]
  · obtain ⟨same, alone⟩ := place.tail_below
    have lines := place.contentLines_append_below [] (by simp) (by simpa using none)
    rw [List.nil_append, List.append_nil, place.isLead.contentLine_eq_nil] at lines
    rw [tagSources_contentLines_append place.starts, lines, tagSources_nil_cons, same]
    rw [lines, List.takeWhile_cons_of_pos continuesTag_nil]
    exact List.forall_mem_cons.mpr ⟨rfl, alone⟩

/-- With the tag the body has it between the tags above and below. -/
theorem tagSources_with
    {text : List Char}
    (isText : IsTagText text) :
    tagSources (contentLines (above ++ (lead ++ (text ++ below)))) =
      tagSources (contentLines above) ++ Text.trimEnd text :: tagSources (contentLines below) := by
  obtain ⟨same, alone⟩ := place.tail_below
  have line := place.isLead.trimStart_contentLine isText.tagged
  have starts : continuesTag (contentLine (lead ++ text)) = false := by
    obtain ⟨rest, rfl⟩ := List.head?_eq_some_iff.mp isText.tagged
    have trimmed := trimEnd_tag [] rest
    rw [List.nil_append, List.nil_append] at trimmed
    rw [continuesTag, line, trimmed]
    rfl
  have nonempty : lead ++ text ≠ [] := by
    obtain ⟨rest, rfl⟩ := List.head?_eq_some_iff.mp isText.tagged
    simp
  have apart : Text.StartsLine above (lead ++ (text ++ below)) := by
    refine fun last member => ⟨place.starts last member, fun pair => ?_⟩
    rw [← List.append_assoc, List.head?_append_of_ne_nil _ nonempty] at pair
    have feed := place.line_unbroken isText.unbroken (List.mem_of_head? pair.2)
    exact absurd feed (by decide)
  have tag : Text.trim (contentLine (lead ++ text)) = Text.trimEnd text := by
    rw [Text.trim, line, Text.trimEnd_trimEnd]
  rw [contentLines_append apart, place.contentLines_append_below text isText.unbroken nonempty,
    tagSources_append (by simp [starts]), tagSources_cons_alone starts alone, tag, same]

/-- The text of a tag puts no mark into a body. -/
theorem isInfix
    {text mark : List Char}
    (isText : IsTagText text)
    (isMark : mark ∈ [openingMark, closingMark])
    (inside : mark <:+: above ++ (lead ++ (text ++ below))) :
    mark <:+: above ++ (lead ++ below) := by
  obtain ⟨rest, rfl⟩ := List.head?_eq_some_iff.mp isText.tagged
  have absent : ¬mark <:+: rest := not_isInfix_of_cons (isText.unmarked mark isMark)
  rw [← List.append_assoc, List.cons_append] at inside
  obtain inside | inside :=
    (Text.isInfix_append_cons_iff (notMem_mark mark isMark '@' (by simp))).mp inside
  · rw [← List.append_assoc]
    exact inside.trans (List.prefix_append _ below).isInfix
  · cases below with
    | nil => exact absurd (List.append_nil rest ▸ inside) absent
    | cons char below =>
        have apart : char ∉ mark := fun member => by
          have inside := isLineEnd_of_mem_mark mark isMark char member
          exact absurd (inside.symm.trans (place.ends char rfl)) Bool.false_ne_true
        obtain inside | inside := (Text.isInfix_append_cons_iff apart).mp inside
        · exact absurd inside absent
        · rw [← List.append_assoc]
          exact inside.trans
            ((List.suffix_cons char below).trans (List.suffix_append _ _)).isInfix

omit place in
theorem head?_ne_of_unbroken
    {first char : Char}
    {below : List Char}
    (place : IsPlace above lead (first :: below))
    (unbroken : Text.isLineEnd char = false)
    {rest : List Char} :
    (first :: below ++ rest).head? ≠ some char := by
  rintro same
  obtain rfl : first = char := Option.some.inj same
  exact absurd (unbroken.symm.trans (place.ends first rfl)) Bool.false_ne_true

/-- With the tag the body is one that is found. -/
theorem isBody
    {text : List Char}
    (isText : IsTagText text)
    (isBody : IsBody (above ++ (lead ++ below))) :
    IsBody (above ++ (lead ++ (text ++ below))) := by
  refine ⟨?_, fun inside => isBody.unclosed (place.isInfix isText (by simp) inside)⟩
  have opens := isBody.opens
  obtain ⟨rest, rfl⟩ := List.head?_eq_some_iff.mp isText.tagged
  rw [← List.append_assoc] at opens ⊢
  cases front : above ++ lead with
  | nil => simp
  | cons char front =>
      rw [front] at opens
      exact opens

/-- No opening comes into being around the tag. -/
theorem isQuiet
    {text after : List Char}
    (isText : IsTagText text)
    (quiet : IsQuiet (above ++ (lead ++ below) ++ closingMark) after) :
    IsQuiet (above ++ (lead ++ (text ++ below)) ++ closingMark) after := by
  have unopened : ¬openingMark <:+: text := isText.unmarked openingMark (by simp)
  rw [isQuiet_append_iff] at quiet ⊢
  obtain ⟨quietBody, quietClosing⟩ := quiet
  rw [← List.append_assoc, isQuiet_append_iff] at quietBody ⊢
  obtain ⟨quietFront, quietBelow⟩ := quietBody
  refine ⟨⟨?_, ?_⟩, quietClosing⟩
  · refine isQuiet_of_isQuiet quietFront (.inr ?_) ?_
    · cases below with
      | nil => simp [closingMark]
      | cons char below => exact place.head?_ne_of_unbroken (by decide)
    · obtain ⟨rest, rfl⟩ := List.head?_eq_some_iff.mp isText.tagged
      simp
  · rw [isQuiet_append_iff]
    refine ⟨?_, quietBelow⟩
    cases below with
    | nil => exact isQuiet_closingMark unopened after
    | cons char below =>
        exact isQuiet_of_not_isInfix unopened (place.head?_ne_of_unbroken (by decide))

end IsPlace

/-! ## Reading a definition -/

/-- What is accepted is read the same without strictness. -/
theorem tagsOf_of_strict
    {definition : String}
    {tags : List Tag}
    (accepted : tagsOf true (some definition) = .ok tags)
    (strict : Bool) :
    tagsOf strict (some definition) = .ok tags := by
  rw [tagsOf_strict] at accepted
  rw [tagsOf, Option.getD_some, accepted]

/--
A definition that is accepted without a tag in a place is accepted with it if the tag can be read,
and has the tag among those that it had.
-/
theorem exists_tagsOf_placed
    {before above lead below after : List Char}
    {tags : List Tag}
    (place : IsPlace above lead below)
    (isBody : IsBody (above ++ (lead ++ below)))
    (accepted : tagsOf true
      (some (String.ofList (withBlock before (above ++ (lead ++ below)) after))) = .ok tags) :
    ∃ first second, tags = first ++ second ∧
      ∀ text tag, IsTagText text → readTag (Text.trimEnd text) = .ok tag → ∀ strict,
        tagsOf strict (some (String.ofList
          (withBlock before (above ++ (lead ++ (text ++ below))) after))) =
          .ok (first ++ tag :: second) := by
  obtain ⟨quiet, front, back, read, exchange⟩ := exists_exchange isBody accepted
  obtain ⟨groups, traversed, rfl⟩ := map_eq_ok_iff.mp read
  obtain ⟨frontTags, others, rfl, frontRead, othersRead⟩ :=
    exists_append_of_forall₂ (mapM_eq_ok_iff.mp traversed)
  obtain ⟨bodyTags, backTags, bodyRead, backRead, rfl⟩ :=
    List.forall₂_cons_left_iff.mp othersRead
  -- the same within the block
  rw [readBlock_eq, place.tagSources_without] at bodyRead
  obtain ⟨aboveTags, belowTags, rfl, aboveRead, belowRead⟩ :=
    exists_append_of_forall₂ (mapM_eq_ok_iff.mp bodyRead)
  refine ⟨frontTags.flatten ++ aboveTags, belowTags ++ backTags.flatten, by simp, ?_⟩
  intro text tag isText tagRead
  refine tagsOf_of_strict ?_
  rw [exchange _ (place.isBody isText isBody) (place.isQuiet isText quiet), map_eq_ok_iff]
  have newRead : readBlock (above ++ (lead ++ (text ++ below))) =
      .ok (aboveTags ++ tag :: belowTags) := by
    rw [readBlock_eq, place.tagSources_with isText, mapM_eq_ok_iff]
    exact List.rel_append aboveRead (.cons tagRead belowRead)
  exact ⟨_, mapM_eq_ok_iff.mpr (List.rel_append frontRead (.cons newRead backRead)), by simp⟩

end Documentation
end RoutineGate
