import Mathlib.Data.List.Infix
import RoutineGate.Documentation.Tag
import RoutineGate.Proofs.Documentation.Blocks
import RoutineGate.Proofs.Text.Trimming
import RoutineGate.Proofs.Traversal

/-!
# Reading rendered tags

Tags are rendered as lines of a block, each with a star as its gutter; the line feeds of a
description start further lines.  Reading a text with such blocks in it restores the tags.
-/

namespace RoutineGate
namespace Documentation

/-! ## Rendering -/

/-- What a line of a rendered block starts with. -/
def gutter : List Char := [' ', '*', ' ']

/-- A part of a tag with a space before it, or nothing if the part is empty. -/
def spaced (part : List Char) : List Char :=
  if part.isEmpty then [] else ' ' :: part

/-- A type in braces, or nothing if the type is empty. -/
def braced (type : List Char) : List Char :=
  if type.isEmpty then [] else '\x7b' :: (type ++ ['\x7d'])

/-- A tag in a block. -/
def renderTag (tag : Tag) : List Char :=
  gutter ++ '@' :: tag.word.toList ++ spaced (braced tag.type.toList) ++ spaced tag.name.toList ++
    spaced (Text.replaceChar '\n' ('\n' :: gutter) tag.description.toList) ++ ['\n']

/-- What stands between the marks of a block with some tags. -/
def renderBody (tags : List Tag) : List Char :=
  '\n' :: tags.flatMap renderTag ++ [' ']

/-- Blocks with groups of tags, each of them followed by a text outside. -/
def render (before : List Char) (groups : List (List Tag × List Char)) : List Char :=
  before ++ groups.flatMap fun group =>
    openingMark ++ renderBody group.1 ++ closingMark ++ group.2

/-- A tag whose parts are read back as they are rendered. -/
@[mk_iff]
structure IsRenderable (tag : Tag) : Prop where
  wordGiven : tag.word ≠ ""
  wordChars : ∀ char ∈ tag.word.toList, isTagChar char = true
  typeTrimmed : Text.trim tag.type.toList = tag.type.toList
  typeUnbraced : ∀ brace ∈ ['\x7b', '\x7d'], brace ∉ tag.type.toList
  typeUnbroken : ∀ char ∈ tag.type.toList, Text.isLineEnd char = false
  nameUnbroken : ∀ char ∈ tag.name.toList, Text.isBlank char = false
  /-- A known tag has a name, and so has a tag with a description. -/
  nameGiven : tag.word ∈ namedWords ∨ tag.description ≠ "" → tag.name ≠ ""
  /-- Without a type the name is not taken for one. -/
  nameUnbraced : tag.type = "" → tag.name.toList.head? ≠ some '\x7b'
  descriptionTrimmed : Text.trim tag.description.toList = tag.description.toList
  /-- Only line feeds end the lines of a description. -/
  descriptionFeeds : ∀ char ∈ tag.description.toList, Text.isLineEnd char = true → char = '\n'
  descriptionLines : ∀ line ∈ Text.splitAt '\n' tag.description.toList, Text.trimEnd line = line
  /-- No later line of a description starts another tag. -/
  descriptionUntagged : ∀ line ∈ (Text.splitAt '\n' tag.description.toList).tail,
    (Text.trimStart line).head? ≠ some '@'
  /-- No part opens or closes a block. -/
  unmarked : ∀ part ∈ [tag.word, tag.type, tag.name, tag.description],
    ∀ mark ∈ [openingMark, closingMark], ¬mark <:+: part.toList

instance (tag : Tag) : Decidable (IsRenderable tag) :=
  -- what holds of all characters of a part is decided on the part
  haveI {test : Char → Prop} [DecidablePred test] (chars : List Char) :
      Decidable (∀ char ∈ chars, test char) :=
    List.decidableBAll test chars
  decidable_of_iff' _ (isRenderable_iff tag)

/-- A text between blocks: it starts with a line feed and opens no block. -/
@[mk_iff]
structure IsCode (chars : List Char) : Prop where
  starts : chars.head? = some '\n'
  unopened : ¬openingMark <:+: chars

instance (chars : List Char) : Decidable (IsCode chars) :=
  decidable_of_iff' _ (isCode_iff chars)

theorem IsCode.isOutside
    {chars : List Char}
    (code : IsCode chars) :
    IsOutside chars :=
  ⟨by simp [code.starts], code.unopened⟩

/-! ## Parts of a tag -/

section Parts

variable {part : List Char}

@[simp] theorem spaced_nil : spaced [] = [] := rfl

theorem spaced_of_ne_nil (nonempty : part ≠ []) : spaced part = ' ' :: part := by
  simp [spaced, nonempty]

theorem mem_spaced
    {char : Char}
    (member : char ∈ spaced part) :
    char = ' ' ∨ char ∈ part := by
  cases part with
  | nil => exact absurd member List.not_mem_nil
  | cons first part => exact List.mem_cons.mp member

theorem mem_braced
    {char : Char}
    (member : char ∈ braced part) :
    char ∈ ['\x7b', '\x7d'] ∨ char ∈ part := by
  cases part with
  | nil => exact absurd member List.not_mem_nil
  | cons first part =>
      rw [braced, List.isEmpty_cons, if_neg Bool.false_ne_true] at member
      simp only [List.mem_cons, List.mem_append, List.not_mem_nil, or_false] at member ⊢
      tauto

theorem trimStart_spaced (kept : Text.trimStart part = part) :
    Text.trimStart (spaced part) = part := by
  cases part with
  | nil => rfl
  | cons first part => exact kept

theorem trimEnd_braced (part : List Char) : Text.trimEnd (braced part) = braced part := by
  refine Text.trimEnd_eq_self_iff.mpr fun char last => ?_
  obtain rfl : char = '\x7d' := by
    rw [braced] at last
    split at last
    · simp at last
    · rw [← List.cons_append, List.getLast?_concat] at last
      exact (Option.some.inj last).symm
  decide

/-- Two parts of which the last given one is trimmed are trimmed together. -/
theorem trimEnd_append_spaced
    {front : List Char}
    (frontKept : Text.trimEnd front = front)
    (kept : Text.trimEnd part = part) :
    Text.trimEnd (front ++ spaced part) = front ++ spaced part := by
  cases part with
  | nil => simpa using frontKept
  | cons first part =>
      rw [spaced_of_ne_nil (List.cons_ne_nil first part)]
      have whole := Text.trimEnd_append kept (List.cons_ne_nil first part) (front ++ [' '])
      simpa using whole

/-- A mark without a space is in a part if it is in what is rendered of it. -/
theorem isInfix_append_spaced_iff
    {mark front : List Char}
    (apart : ' ' ∉ mark)
    (nonempty : mark ≠ []) :
    mark <:+: front ++ spaced part ↔ mark <:+: front ∨ mark <:+: part := by
  cases part with
  | nil => simp [nonempty]
  | cons first part => exact Text.isInfix_append_cons_iff apart

end Parts

/-! ## The text of a tag -/

/-- A tag without gutters, up to its description. -/
def tagHead (tag : Tag) : List Char :=
  '@' :: tag.word.toList ++ spaced (braced tag.type.toList) ++ spaced tag.name.toList

/-- A tag without gutters. -/
def tagText (tag : Tag) : List Char :=
  tagHead tag ++ spaced tag.description.toList

section Tag

variable {tag : Tag}

theorem trimStart_tag (rest : List Char) : Text.trimStart ('@' :: rest) = '@' :: rest :=
  List.dropWhile_cons_of_neg (by decide)

theorem isBlank_of_isTagChar
    {char : Char}
    (inWord : isTagChar char = true) :
    Text.isBlank char = false := by
  obtain isWord | same := Bool.or_eq_true _ _ ▸ inWord
  · exact Text.isBlank_eq_false_of_isWordChar isWord
  · obtain rfl : char = '-' := by simpa using same
    decide

theorem isLineEnd_of_isBlank
    {char : Char}
    (notBlank : Text.isBlank char = false) :
    Text.isLineEnd char = false := by
  rw [Bool.eq_false_iff] at notBlank ⊢
  exact fun ends => notBlank (Text.isBlank_of_isLineEnd ends)

/-- No line ends before the description. -/
theorem tagHead_unbroken
    (renderable : IsRenderable tag)
    {char : Char}
    (member : char ∈ tagHead tag) :
    Text.isLineEnd char = false := by
  rw [tagHead, List.mem_append, List.mem_append] at member
  obtain (member | member) | member := member
  · obtain rfl | member := List.mem_cons.mp member
    · decide
    · exact isLineEnd_of_isBlank (isBlank_of_isTagChar (renderable.wordChars char member))
  · obtain rfl | member := mem_spaced member
    · decide
    · obtain brace | member := mem_braced member
      · obtain rfl | rfl := List.mem_pair.mp brace <;> decide
      · exact renderable.typeUnbroken char member
  · obtain rfl | member := mem_spaced member
    · decide
    · exact isLineEnd_of_isBlank (renderable.nameUnbroken char member)

theorem trimEnd_tagHead (renderable : IsRenderable tag) :
    Text.trimEnd (tagHead tag) = tagHead tag := by
  have wordKept : Text.trimEnd ('@' :: tag.word.toList) = '@' :: tag.word.toList := by
    refine Text.trimEnd_of_forall fun char member => ?_
    obtain rfl | member := List.mem_cons.mp member
    · decide
    · exact isBlank_of_isTagChar (renderable.wordChars char member)
  have nameKept := Text.trimEnd_of_forall renderable.nameUnbroken
  exact trimEnd_append_spaced (trimEnd_append_spaced wordKept (trimEnd_braced _)) nameKept

theorem trimEnd_tagText (renderable : IsRenderable tag) :
    Text.trimEnd (tagText tag) = tagText tag :=
  trimEnd_append_spaced (trimEnd_tagHead renderable)
    (Text.trim_eq_self_iff.mp renderable.descriptionTrimmed).2

/-! ## The lines of a tag -/

/-- A rendered tag has the lines of its text, each with a gutter and a line feed. -/
theorem renderTag_eq (renderable : IsRenderable tag) :
    renderTag tag = (Text.splitAt '\n' (tagText tag)).flatMap
      fun line => gutter ++ line ++ ['\n'] := by
  have noFeed : '\n' ∉ tagHead tag := fun member =>
    absurd (tagHead_unbroken renderable member) (by decide)
  have headKept := Text.replaceChar_of_notMem noFeed ('\n' :: gutter)
  have described : Text.replaceChar '\n' ('\n' :: gutter) (spaced tag.description.toList) =
      spaced (Text.replaceChar '\n' ('\n' :: gutter) tag.description.toList) := by
    cases tag.description.toList with
    | nil => rfl
    | cons char rest => by_cases feed : char = '\n' <;> simp [spaced, Text.replaceChar, feed]
  rw [Text.flatMap_eq_joinWith (Text.splitAt_ne_nil '\n' (tagText tag)) gutter ['\n'],
    List.singleton_append, ← Text.replaceChar_eq_joinWith, tagText, Text.replaceChar_append,
    headKept, described]
  simp [renderTag, tagHead]

/-- Nothing but line feeds ends the lines of a tag. -/
theorem line_unbroken
    (renderable : IsRenderable tag)
    {line : List Char}
    (listed : line ∈ Text.splitAt '\n' (tagText tag))
    {char : Char}
    (member : char ∈ line) :
    Text.isLineEnd char = false := by
  obtain inHead | described := List.mem_append.mp
    ((Text.isInfix_of_mem_splitAt listed).subset member)
  · exact tagHead_unbroken renderable inHead
  · obtain rfl | inDescription := mem_spaced described
    · decide
    · by_contra ends
      obtain rfl := renderable.descriptionFeeds char inDescription (by simpa using ends)
      exact Text.notMem_of_mem_splitAt listed member

/-- The lines of a tag's text: only the first one starts a tag, and none ends with blanks. -/
theorem exists_lines (renderable : IsRenderable tag) :
    ∃ first more, Text.splitAt '\n' (tagText tag) = ('@' :: first) :: more ∧
      (∀ line ∈ ('@' :: first) :: more, Text.trimEnd line = line) ∧
      ∀ line ∈ more, (Text.trimStart line).head? ≠ some '@' := by
  have noFeed : '\n' ∉ tagHead tag := fun member =>
    absurd (tagHead_unbroken renderable member) (by decide)
  cases described : tag.description.toList with
  | nil =>
      have headKept := trimEnd_tagHead renderable
      rw [tagText, described, spaced_nil, List.append_nil, Text.splitAt_of_notMem noFeed]
      exact ⟨_, [], rfl, by simpa [tagHead] using headKept, by simp⟩
  | cons char rest =>
      obtain ⟨started, -⟩ := Text.trim_eq_self_iff.mp renderable.descriptionTrimmed
      have lines := renderable.descriptionLines
      have untagged := renderable.descriptionUntagged
      rw [described] at started lines untagged
      have notBlank := Text.trimStart_eq_self_iff.mp started char rfl
      have notFeed : char ≠ '\n' := by
        rintro rfl
        exact absurd notBlank (by decide)
      have front : tagText tag = tagHead tag ++ [' ', char] ++ rest := by
        simp [tagText, described, spaced]
      have noFeedFront : '\n' ∉ tagHead tag ++ [' ', char] := by
        simp [noFeed, Ne.symm notFeed]
      have noFeedFirst : '\n' ∉ [char] := by simpa using Ne.symm notFeed
      have cut : Text.splitAt '\n' (char :: rest) =
          (Text.splitAt '\n' rest).modifyHead (char :: ·) :=
        Text.splitAt_append noFeedFirst rest
      obtain ⟨piece, more, pieces⟩ :=
        List.exists_cons_of_ne_nil (Text.splitAt_ne_nil '\n' rest)
      rw [cut, pieces] at lines untagged
      rw [front, Text.splitAt_append noFeedFront, pieces]
      refine ⟨_, more, rfl, ?_, untagged⟩
      intro line member
      obtain rfl | member := List.mem_cons.mp member
      · have pieceKept := lines (char :: piece) List.mem_cons_self
        have whole := Text.trimEnd_append pieceKept (List.cons_ne_nil char piece)
          (tagHead tag ++ [' '])
        simpa [tagHead] using whole
      · exact lines line (List.mem_cons_of_mem _ member)

/-- The lines of a block are the lines of its tags between two empty ones. -/
theorem contentLines_renderBody
    {tags : List Tag}
    (renderable : ∀ tag ∈ tags, IsRenderable tag) :
    contentLines (renderBody tags) =
      [] :: (tags.flatMap fun tag => Text.splitAt '\n' (tagText tag)) ++ [[]] := by
  have body : renderBody tags =
      ([] :: (tags.flatMap fun tag => Text.splitAt '\n' (tagText tag)).map (gutter ++ ·)).flatMap
        (· ++ ['\n']) ++ [' '] := by
    have each : tags.flatMap renderTag = tags.flatMap fun tag =>
        (Text.splitAt '\n' (tagText tag)).flatMap fun line => gutter ++ line ++ ['\n'] :=
      List.flatMap_congr fun tag member => renderTag_eq (renderable tag member)
    simp [renderBody, each, List.flatMap_map, List.flatMap_assoc]
  have unbroken : ∀ line ∈ [] :: (tags.flatMap fun tag =>
      Text.splitAt '\n' (tagText tag)).map (gutter ++ ·),
      ∀ char ∈ line, Text.isLineEnd char = false := by
    intro line member
    obtain rfl | member := List.mem_cons.mp member
    · simp
    obtain ⟨content, listed, rfl⟩ := List.mem_map.mp member
    obtain ⟨tag, tagListed, inTag⟩ := List.mem_flatMap.mp listed
    intro char inLine
    obtain inGutter | inContent := List.mem_append.mp inLine
    · simp only [gutter, List.mem_cons, List.not_mem_nil, or_false] at inGutter
      obtain rfl | rfl | rfl := inGutter <;> decide
    · exact line_unbroken (renderable tag tagListed) inTag inContent
  have kept : ∀ line ∈ tags.flatMap fun tag => Text.splitAt '\n' (tagText tag),
      Text.trimEnd (stripGutter (gutter ++ line)) = line := by
    intro line member
    obtain ⟨tag, listed, inTag⟩ := List.mem_flatMap.mp member
    obtain ⟨first, more, pieces, trimmed, -⟩ := exists_lines (renderable tag listed)
    rw [pieces] at inTag
    exact trimmed line inTag
  rw [contentLines, body, Text.lines_flatMap_feed unbroken, List.map_append, List.map_cons,
    List.map_map]
  have contents := (List.map_congr_left kept).trans (List.map_id' _)
  exact congrArg (fun found => [] :: found ++ [[]]) contents

/-! ## Reading a tag -/

/-- The lines of a tag, with an empty one after them or not, give its text. -/
theorem tagSource_lines
    (renderable : IsRenderable tag)
    {blank : List (List Char)}
    (isBlank : blank = [] ∨ blank = [[]]) :
    tagSource (Text.splitAt '\n' (tagText tag) ++ blank) = tagText tag := by
  have starts : Text.trimStart (tagText tag) = tagText tag := trimStart_tag _
  obtain rfl | rfl := isBlank
  · rw [List.append_nil, tagSource, Text.joinWith_splitAt, Text.trim, starts,
      trimEnd_tagText renderable]
  · have startsFed : Text.trimStart (tagText tag ++ ['\n']) = tagText tag ++ ['\n'] :=
      Text.trimStart_append starts (by simp [tagText, tagHead]) ['\n']
    rw [tagSource, Text.joinWith_append _ (Text.splitAt_ne_nil _ _) (List.cons_ne_nil [] []),
      Text.joinWith_splitAt, Text.joinWith, List.append_nil, Text.trim, startsFed,
      Text.trimEnd_append_of_blank (List.forall_mem_singleton.mpr rfl), trimEnd_tagText renderable]

theorem description_eq_nil
    (renderable : IsRenderable tag)
    (unnamed : tag.name.toList = []) :
    tag.description.toList = [] := by
  by_contra given
  have described : tag.description ≠ "" := fun none => given (String.toList_eq_nil_iff.mpr none)
  exact renderable.nameGiven (.inr described) (String.toList_eq_nil_iff.mp unnamed)

/-- The name and the description are trimmed together. -/
theorem trim_name (renderable : IsRenderable tag) :
    Text.trim (spaced tag.name.toList ++ spaced tag.description.toList) =
      tag.name.toList ++ spaced tag.description.toList := by
  cases named : tag.name.toList with
  | nil => rw [description_eq_nil renderable named]; rfl
  | cons char name =>
      have unbroken := renderable.nameUnbroken
      rw [named] at unbroken
      have starts := Text.trimStart_append (Text.trimStart_of_forall unbroken)
        (List.cons_ne_nil char name) (spaced tag.description.toList)
      have ends := trimEnd_append_spaced (Text.trimEnd_of_forall unbroken)
        (Text.trim_eq_self_iff.mp renderable.descriptionTrimmed).2
      have skipped : Text.trimStart (' ' :: (char :: name ++ spaced tag.description.toList)) =
          Text.trimStart (char :: name ++ spaced tag.description.toList) := rfl
      rw [spaced_of_ne_nil (List.cons_ne_nil char name), Text.trim, List.cons_append, skipped,
        starts, ends]

/-- The type is taken from what follows the word of a tag. -/
theorem takeType_text (renderable : IsRenderable tag) :
    takeType tag.word (Text.trim
      (spaced (braced tag.type.toList) ++ spaced tag.name.toList ++
        spaced tag.description.toList)) =
      .ok (tag.type.toList, tag.name.toList ++ spaced tag.description.toList) := by
  rw [List.append_assoc]
  by_cases typed : tag.type = ""
  · have noType : tag.type.toList = [] := String.toList_eq_nil_iff.mpr typed
    have unbraced : (tag.name.toList ++ spaced tag.description.toList).head? ≠ some '\x7b' := by
      cases named : tag.name.toList with
      | nil => simp [description_eq_nil renderable named]
      | cons char name =>
          have notBrace := renderable.nameUnbraced typed
          rwa [named] at notBrace
    have taken : spaced (braced tag.type.toList) = [] := by rw [noType]; rfl
    rw [taken, List.nil_append, trim_name renderable, noType]
    unfold takeType
    split
    · next same => simp [same] at unbraced
    · rfl
  · have nonempty : tag.type.toList ≠ [] := fun none => typed (String.toList_eq_nil_iff.mp none)
    have bracedType : braced tag.type.toList = '\x7b' :: (tag.type.toList ++ ['\x7d']) := by
      simp [braced, nonempty]
    have trimmed : Text.trim (spaced (braced tag.type.toList) ++
        (spaced tag.name.toList ++ spaced tag.description.toList)) =
        '\x7b' :: (tag.type.toList ++ '\x7d' ::
          (spaced tag.name.toList ++ spaced tag.description.toList)) := by
      have ends := trimEnd_append_spaced
        (trimEnd_append_spaced (trimEnd_braced tag.type.toList)
          (Text.trimEnd_of_forall renderable.nameUnbroken))
        (Text.trim_eq_self_iff.mp renderable.descriptionTrimmed).2
      have skipped : ∀ rest, Text.trimStart (' ' :: '\x7b' :: rest) = '\x7b' :: rest :=
        fun _ => rfl
      rw [spaced_of_ne_nil (by simp [bracedType]), Text.trim, bracedType, List.cons_append,
        List.cons_append, skipped]
      rw [bracedType] at ends
      simpa using ends
    have plain : ∀ char ∈ tag.type.toList, (char != '\x7b' && char != '\x7d') = true := by
      intro char member
      have notOpening : char ≠ '\x7b' := fun same =>
        renderable.typeUnbraced '\x7b' (by simp) (same ▸ member)
      have notClosing : char ≠ '\x7d' := fun same =>
        renderable.typeUnbraced '\x7d' (by simp) (same ▸ member)
      simp [notOpening, notClosing]
    rw [trimmed]
    simp only [takeType, List.dropWhile_append_of_pos plain, List.takeWhile_append_of_pos plain]
    simp [renderable.typeTrimmed, trim_name renderable]

/-- What follows the type is the name and, after it, the description. -/
theorem firstWord_text (renderable : IsRenderable tag) :
    Text.firstWord (tag.name.toList ++ spaced tag.description.toList) =
      (tag.name.toList, tag.description.toList) := by
  cases named : tag.name.toList with
  | nil => rw [description_eq_nil renderable named]; rfl
  | cons char name =>
      have unbroken := renderable.nameUnbroken
      rw [named] at unbroken
      have starts := Text.trimStart_append (Text.trimStart_of_forall unbroken)
        (List.cons_ne_nil char name) (spaced tag.description.toList)
      have inWord : ∀ other ∈ char :: name, (!Text.isBlank other) = true := fun other member => by
        rw [unbroken other member]
        rfl
      have stops : (spaced tag.description.toList).takeWhile (!Text.isBlank ·) = [] ∧
          (spaced tag.description.toList).dropWhile (!Text.isBlank ·) =
            spaced tag.description.toList := by
        cases tag.description.toList <;> exact ⟨rfl, rfl⟩
      have described := trimStart_spaced
        (Text.trim_eq_self_iff.mp renderable.descriptionTrimmed).1
      rw [Text.firstWord, starts]
      simp only [List.takeWhile_append_of_pos inWord, List.dropWhile_append_of_pos inWord,
        stops.1, stops.2, described, List.append_nil]

/-- A tag is read from its text. -/
theorem readTag_tagText (renderable : IsRenderable tag) :
    readTag (tagText tag) = .ok tag := by
  have text : tagText tag = '@' :: (tag.word.toList ++ (spaced (braced tag.type.toList) ++
      spaced tag.name.toList ++ spaced tag.description.toList)) := by
    simp [tagText, tagHead]
  have stops : (spaced (braced tag.type.toList) ++ spaced tag.name.toList ++
      spaced tag.description.toList).takeWhile isTagChar = [] ∧
      (spaced (braced tag.type.toList) ++ spaced tag.name.toList ++
        spaced tag.description.toList).dropWhile isTagChar =
          spaced (braced tag.type.toList) ++ spaced tag.name.toList ++
            spaced tag.description.toList := by
    generalize braced tag.type.toList = type
    cases type <;> cases tag.name.toList <;> cases tag.description.toList <;> exact ⟨rfl, rfl⟩
  have kept := (Text.trim_eq_self_iff.mp renderable.descriptionTrimmed).2
  rw [text, readTag]
  simp only [List.drop_succ_cons, List.drop_zero, List.takeWhile_append_of_pos renderable.wordChars,
    List.dropWhile_append_of_pos renderable.wordChars, stops.1, stops.2, List.append_nil,
    String.ofList_toList, takeType_text renderable]
  have wordGiven : tag.word.isEmpty = false := by simpa using renderable.wordGiven
  have nameGiven : tag.word ∈ namedWords → tag.name ≠ "" := fun known =>
    renderable.nameGiven (.inl known)
  simpa [wordGiven, firstWord_text renderable, kept, bind, Except.bind, pure, Except.pure]
    using nameGiven

/-! ## Reading a block -/

theorem groupLines_append
    {others : List (List Char)}
    (untagged : ∀ line ∈ others, (Text.trimStart line).head? ≠ some '@')
    (rest : List (List Char)) :
    groupLines (others ++ rest) = groupLines rest := by
  induction others with
  | nil => rfl
  | cons line others inductionHypothesis =>
      rw [List.cons_append, groupLines, if_neg (untagged line List.mem_cons_self)]
      exact inductionHypothesis fun other member =>
        untagged other (List.mem_cons_of_mem line member)

/-- Whether a line goes on with the tag before it. -/
def continuesTag (line : List Char) : Bool :=
  (Text.trimStart line).head? != some '@'

/-- A line that starts a tag is grouped with the lines after it that start none. -/
theorem groupLines_tag
    {first : List Char}
    {more : List (List Char)}
    (untagged : ∀ line ∈ more, (Text.trimStart line).head? ≠ some '@')
    (rest : List (List Char)) :
    groupLines (('@' :: first) :: (more ++ rest)) =
      (('@' :: first) :: (more ++ rest.takeWhile continuesTag)) :: groupLines rest := by
  have continued : (more ++ rest).takeWhile continuesTag = more ++ rest.takeWhile continuesTag :=
    List.takeWhile_append_of_pos fun line member => by
      simpa [continuesTag] using untagged line member
  rw [groupLines, trimStart_tag, groupLines_append untagged rest, ← continued]
  rfl

/-- The tags of a block are read from its lines. -/
theorem mapM_groupLines
    {tags : List Tag}
    (renderable : ∀ tag ∈ tags, IsRenderable tag) :
    (groupLines ((tags.flatMap fun tag => Text.splitAt '\n' (tagText tag)) ++ [[]])).mapM
      (fun lines => readTag (tagSource lines)) = .ok tags := by
  induction tags with
  | nil => rfl
  | cons tag tags inductionHypothesis =>
      have others : ∀ other ∈ tags, IsRenderable other := fun other member =>
        renderable other (List.mem_cons_of_mem tag member)
      have tagRenderable := renderable tag List.mem_cons_self
      obtain ⟨first, more, pieces, -, untagged⟩ := exists_lines tagRenderable
      have blank : ∃ blank, List.takeWhile continuesTag
          ((tags.flatMap fun tag => Text.splitAt '\n' (tagText tag)) ++ [[]]) = blank ∧
          (blank = [] ∨ blank = [[]]) := by
        cases tags with
        | nil => exact ⟨[[]], rfl, .inr rfl⟩
        | cons next tags =>
            obtain ⟨start, lines, nextPieces, -, -⟩ := exists_lines (others next List.mem_cons_self)
            refine ⟨[], ?_, .inl rfl⟩
            rw [List.flatMap_cons, nextPieces]
            rfl
      obtain ⟨blank, taken, isBlank⟩ := blank
      have source := tagSource_lines tagRenderable isBlank
      rw [pieces] at source
      rw [List.flatMap_cons, pieces, List.append_assoc, List.cons_append,
        groupLines_tag untagged, taken, List.mapM_cons, ← List.cons_append, source,
        readTag_tagText tagRenderable, inductionHypothesis others]
      rfl

theorem readBlock_renderBody
    {tags : List Tag}
    (renderable : ∀ tag ∈ tags, IsRenderable tag) :
    readBlock (renderBody tags) = .ok tags := by
  rw [readBlock, contentLines_renderBody renderable, List.cons_append]
  exact mapM_groupLines renderable

end Tag

/-! ## Reading a text -/

/-- No character of a mark is one that stands between the parts of a tag. -/
theorem notMem_mark :
    ∀ mark ∈ [openingMark, closingMark], ∀ separator ∈ ['\n', ' ', '@', '\x7b', '\x7d'],
      separator ∉ mark := by
  simp [openingMark, closingMark]

section Marks

variable {mark : List Char} (isMark : mark ∈ [openingMark, closingMark])

include isMark

theorem mark_ne_nil : mark ≠ [] := by
  revert mark
  decide

theorem not_isInfix_gutter : ¬mark <:+: gutter := by
  revert mark
  decide

theorem isInfix_of_isInfix_braced
    {part : List Char}
    (inside : mark <:+: braced part) :
    mark <:+: part := by
  have nonempty := mark_ne_nil isMark
  have apart := notMem_mark mark isMark
  rw [braced] at inside
  split at inside
  · exact absurd (List.infix_nil.mp inside) nonempty
  · rw [← List.nil_append (_ :: _), Text.isInfix_append_cons_iff (apart '\x7b' (by simp))] at inside
    obtain inside | inside := inside
    · exact absurd (List.infix_nil.mp inside) nonempty
    · obtain inside | inside := (Text.isInfix_append_cons_iff (apart '\x7d' (by simp))).mp inside
      · exact inside
      · exact absurd (List.infix_nil.mp inside) nonempty

/-- A mark in lines with gutters is in one of the lines. -/
theorem exists_isInfix_of_joinWith
    {lines : List (List Char)}
    (inside : mark <:+: Text.joinWith ('\n' :: gutter) lines) :
    ∃ line ∈ lines, mark <:+: line := by
  have apart := notMem_mark mark isMark
  induction lines with
  | nil => exact absurd (List.infix_nil.mp inside) (mark_ne_nil isMark)
  | cons line lines inductionHypothesis =>
      cases lines with
      | nil => exact ⟨line, List.mem_cons_self, inside⟩
      | cons next lines =>
          rw [Text.joinWith, List.append_assoc, List.cons_append,
            Text.isInfix_append_cons_iff (apart '\n' (by simp))] at inside
          obtain inside | inside := inside
          · exact ⟨line, List.mem_cons_self, inside⟩
          · have starred : gutter ++ Text.joinWith ('\n' :: gutter) (next :: lines) =
                [' ', '*'] ++ ' ' :: Text.joinWith ('\n' :: gutter) (next :: lines) := rfl
            rw [starred, Text.isInfix_append_cons_iff (apart ' ' (by simp))] at inside
            obtain inside | inside := inside
            · exact absurd (inside.trans List.infix_append_left) (not_isInfix_gutter isMark)
            · obtain ⟨found, listed, inFound⟩ := inductionHypothesis inside
              exact ⟨found, List.mem_cons_of_mem line listed, inFound⟩

/-- No mark stands in rendered tags. -/
theorem not_isInfix_renderTags
    {tags : List Tag}
    (renderable : ∀ tag ∈ tags, IsRenderable tag) :
    ¬mark <:+: tags.flatMap renderTag := by
  have apart := notMem_mark mark isMark
  have nonempty := mark_ne_nil isMark
  induction tags with
  | nil => exact fun inside => nonempty (List.infix_nil.mp inside)
  | cons tag tags inductionHypothesis =>
      have others := inductionHypothesis fun other member =>
        renderable other (List.mem_cons_of_mem tag member)
      have unmarked := fun part listed =>
        (renderable tag List.mem_cons_self).unmarked part listed mark isMark
      rw [List.flatMap_cons, renderTag, List.append_assoc, List.singleton_append,
        Text.isInfix_append_cons_iff (apart '\n' (by simp)),
        isInfix_append_spaced_iff (apart ' ' (by simp)) nonempty,
        isInfix_append_spaced_iff (apart ' ' (by simp)) nonempty,
        isInfix_append_spaced_iff (apart ' ' (by simp)) nonempty,
        Text.isInfix_append_cons_iff (apart '@' (by simp)), Text.replaceChar_eq_joinWith]
      rintro (((((inside | inside) | inside) | inside) | inside) | inside)
      · exact not_isInfix_gutter isMark inside
      · exact unmarked tag.word (by simp) inside
      · exact unmarked tag.type (by simp) (isInfix_of_isInfix_braced isMark inside)
      · exact unmarked tag.name (by simp) inside
      · obtain ⟨line, listed, inLine⟩ := exists_isInfix_of_joinWith isMark inside
        exact unmarked tag.description (by simp)
          (inLine.trans (Text.isInfix_of_mem_splitAt listed))
      · exact others inside

end Marks

/-- Nothing in a rendered block opens another one or closes it early. -/
theorem isEnclosed_renderBody
    {tags : List Tag}
    (renderable : ∀ tag ∈ tags, IsRenderable tag) :
    IsEnclosed (renderBody tags) := by
  -- Between the line feed at the start and the space at the end there are only the tags.
  have unmarked : ∀ mark ∈ [openingMark, closingMark], ∀ rest, ¬mark <:+: rest →
      ¬mark <:+: renderBody tags ++ rest := by
    intro mark isMark rest absent
    have apart := notMem_mark mark isMark
    rw [renderBody, List.append_assoc, List.singleton_append,
      Text.isInfix_append_cons_iff (apart ' ' (by simp)), ← List.nil_append (_ :: _),
      Text.isInfix_append_cons_iff (apart '\n' (by simp))]
    rintro ((inside | inside) | inside)
    · exact mark_ne_nil isMark (List.infix_nil.mp inside)
    · exact not_isInfix_renderTags isMark renderable inside
    · exact absent inside
  refine ⟨by simp [renderBody], ?_, unmarked openingMark (by simp) closingMark (by decide)⟩
  have closing := unmarked closingMark (by simp) [] (by decide)
  rwa [List.append_nil] at closing

/-- Strict reading of a text with rendered blocks in it gives the tags of all of them, in order. -/
theorem tagsOf_render
    {before : List Char}
    {groups : List (List Tag × List Char)}
    (code : IsCode before)
    (codeAfter : ∀ group ∈ groups, IsCode group.2)
    (renderable : ∀ group ∈ groups, ∀ tag ∈ group.1, IsRenderable tag) :
    tagsOf true (some (String.ofList (render before groups))) =
      .ok (groups.flatMap Prod.fst) := by
  have text : render before groups =
      documented before (groups.map fun group => (renderBody group.1, group.2)) := by
    simp [render, documented, List.flatMap_map]
  have each : ∀ part ∈ groups.map fun group => (renderBody group.1, group.2),
      IsEnclosed part.1 ∧ IsOutside part.2 := by
    intro part member
    obtain ⟨group, listed, rfl⟩ := List.mem_map.mp member
    exact ⟨isEnclosed_renderBody (renderable group listed), (codeAfter group listed).isOutside⟩
  have found := blocks_documented code.isOutside each
  have read : (groups.map fun group => renderBody group.1).mapM readBlock =
      .ok (groups.map Prod.fst) := by
    rw [mapM_eq_ok_iff, List.forall₂_map_left_iff, List.forall₂_map_right_iff, List.forall₂_same]
    exact fun group listed => readBlock_renderBody (renderable group listed)
  rw [tagsOf, Option.getD_some, readTags, String.toList_ofList, text, found.1, found.2]
  simp [List.map_map, Function.comp_def, read, bind, Except.bind, pure, Except.pure,
    List.flatMap_def]

/-- Lines of a description may look like gutters, types and code, and a block may be empty. -/
theorem tagsOf_render_users :
    tagsOf true (some (String.ofList (render ['\n'] [
      ([⟨"param", "body", "user<id>", "z.object(\x7b\n\n  * @name: x, /* y\n\x7d)"⟩,
        ⟨"see-also", "", "\x7d", ""⟩], ['\n', '*']),
      ([], ['\n']),
      ([⟨"guard", "", "user", "*"⟩], ['\n', '/', '*'])]))) =
      .ok [⟨"param", "body", "user<id>", "z.object(\x7b\n\n  * @name: x, /* y\n\x7d)"⟩,
        ⟨"see-also", "", "\x7d", ""⟩, ⟨"guard", "", "user", "*"⟩] :=
  tagsOf_render (by decide) (by decide) (by decide +kernel)

end Documentation
end RoutineGate
