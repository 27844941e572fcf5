import RoutineGate.Proofs.Documentation.Placing

/-!
# The spellings of a tag with hooks

The phase of a tag with hooks may stand in braces or not.  In braces it is the type of the tag, and
the first name of the listing is the name of the tag; without them the phase is the name.  Either
way the tag directs the same: the names of the listing are the hooks of the phase.
-/

namespace RoutineGate
namespace Documentation

/-! ## The names of a listing -/

/-- The names between the marks of a listing. -/
def namesIn (listing : List Char) : List String :=
  ((listing.splitOnP isListMark).filter (!·.isEmpty)).map String.ofList

/-- Cutting at commas that stand for the marks is cutting at the marks. -/
theorem splitAt_map_listMark (listing : List Char) :
    Text.splitAt ',' (listing.map fun char => if isListMark char then ',' else char) =
      listing.splitOnP isListMark := by
  induction listing with
  | nil => rfl
  | cons char listing inductionHypothesis =>
      rw [List.map_cons, Text.splitAt, inductionHypothesis, List.splitOnP_cons_eq_if_modifyHead]
      cases marks : isListMark char with
      | true => simp
      | false =>
          have noComma : char ≠ ',' := by
            rintro rfl
            exact absurd marks (by decide)
          cases pieces : listing.splitOnP isListMark with
          | nil => exact absurd pieces (List.splitOnP_ne_nil _ _)
          | cons piece pieces => simp [noComma]

theorem splitNames_ofList (listing : List Char) :
    splitNames (String.ofList listing) = namesIn listing := by
  simp only [splitNames, String.toList_ofList, splitAt_map_listMark, namesIn]

@[simp] theorem namesIn_nil : namesIn [] = [] := rfl

theorem namesIn_append_cons
    {mark : Char}
    (isMark : isListMark mark = true)
    (front rest : List Char) :
    namesIn (front ++ mark :: rest) = namesIn front ++ namesIn rest := by
  simp only [namesIn, List.splitOnP_append_cons front rest isMark, List.filter_append,
    List.map_append]

theorem isListMark_of_isBlank
    {char : Char}
    (blank : Text.isBlank char = true) :
    isListMark char = true := by
  rw [isListMark, blank, Bool.true_or]

/-- Blanks have no names. -/
theorem namesIn_blank_append
    {blanks : List Char}
    (blank : ∀ char ∈ blanks, Text.isBlank char = true)
    (rest : List Char) :
    namesIn (blanks ++ rest) = namesIn rest := by
  induction blanks with
  | nil => rfl
  | cons char blanks inductionHypothesis =>
      obtain ⟨first, others⟩ := List.forall_mem_cons.mp blank
      have apart := namesIn_append_cons (isListMark_of_isBlank first) [] (blanks ++ rest)
      rw [List.cons_append]
      exact apart.trans (inductionHypothesis others)

theorem namesIn_trimStart (listing : List Char) :
    namesIn (Text.trimStart listing) = namesIn listing := by
  have blank : ∀ char ∈ listing.takeWhile Text.isBlank, Text.isBlank char = true :=
    fun _ => List.mem_takeWhile_imp
  have skipped := namesIn_blank_append blank (Text.trimStart listing)
  rwa [Text.trimStart, List.takeWhile_append_dropWhile, eq_comm] at skipped

theorem namesIn_trimEnd (listing : List Char) :
    namesIn (Text.trimEnd listing) = namesIn listing := by
  obtain ⟨after, whole, blank⟩ := Text.exists_trimEnd_append listing
  conv_rhs => rw [whole]
  cases after with
  | nil => rw [List.append_nil]
  | cons char after =>
      obtain ⟨first, others⟩ := List.forall_mem_cons.mp blank
      have none := namesIn_blank_append others []
      rw [List.append_nil] at none
      rw [namesIn_append_cons (isListMark_of_isBlank first), none, namesIn_nil, List.append_nil]

/-- A listing has the names of its first word and those of the rest. -/
theorem namesIn_firstWord (listing : List Char) :
    namesIn (Text.firstWord listing).1 ++ namesIn (Text.firstWord listing).2 =
      namesIn listing := by
  rw [← namesIn_trimStart listing, Text.firstWord, namesIn_trimStart]
  generalize Text.trimStart listing = start
  have whole : start.takeWhile (!Text.isBlank ·) ++ start.dropWhile (!Text.isBlank ·) = start :=
    List.takeWhile_append_dropWhile
  have stopped := List.head?_dropWhile_not (!Text.isBlank ·) start
  conv_rhs => rw [← whole]
  cases rest : start.dropWhile (!Text.isBlank ·) with
  | nil => simp only [namesIn_nil, List.append_nil]
  | cons char rest' =>
      rw [rest, List.head?_cons] at stopped
      have mark := isListMark_of_isBlank (by simpa using stopped)
      have later : namesIn (char :: rest') = namesIn rest' := namesIn_append_cons mark [] rest'
      rw [namesIn_append_cons mark, later]

/-! ## The two lines -/

/-- A text that may stand for the phase of hooks. -/
@[mk_iff]
structure IsPhase (phase : List Char) : Prop where
  given : phase ≠ []
  unbroken : ∀ char ∈ phase, Text.isBlank char = false
  unbraced : ∀ brace ∈ ['\x7b', '\x7d'], brace ∉ phase
  unmarked : ∀ mark ∈ [openingMark, closingMark], ¬mark <:+: phase

/-- A text on one line that may list the functions of a phase. -/
@[mk_iff]
structure IsListing (listing : List Char) : Prop where
  given : listing ≠ []
  starts : ∀ char ∈ listing.head?, Text.isBlank char = false
  unbroken : ∀ char ∈ listing, Text.isLineEnd char = false
  unmarked : ∀ mark ∈ [openingMark, closingMark], ¬mark <:+: listing

instance (phase : List Char) : Decidable (IsPhase phase) :=
  -- what holds of all characters of a text is decided on the text
  haveI {test : Char → Prop} [DecidablePred test] (chars : List Char) :
      Decidable (∀ char ∈ chars, test char) :=
    List.decidableBAll test chars
  decidable_of_iff' _ (isPhase_iff phase)

instance (listing : List Char) : Decidable (IsListing listing) :=
  haveI {test : Char → Prop} [DecidablePred test] (chars : List Char) :
      Decidable (∀ char ∈ chars, test char) :=
    List.decidableBAll test chars
  haveI {test : Char → Prop} [DecidablePred test] (char? : Option Char) :
      Decidable (∀ char ∈ char?, test char) :=
    Option.decidableForallMem char?
  decidable_of_iff' _ (isListing_iff listing)

/-- The start of a tag with hooks. -/
def hooksStart : List Char := "@hooks ".toList

/-- A phase and a listing after it. -/
def plainLine (phase listing : List Char) : List Char :=
  hooksStart ++ (phase ++ ' ' :: listing)

/-- A phase in braces and a listing after it. -/
def bracedLine (phase listing : List Char) : List Char :=
  hooksStart ++ '\x7b' :: (phase ++ '\x7d' :: ' ' :: listing)

section Lines

variable {phase listing : List Char}

theorem hooksStart_append (rest : List Char) :
    hooksStart ++ rest = '@' :: (hooksWord.toList ++ ' ' :: rest) := rfl

theorem hooksStart_unbroken : ∀ char ∈ hooksStart, Text.isLineEnd char = false := by
  have unbroken : hooksStart.all (!Text.isLineEnd ·) = true := by decide
  simpa using List.all_eq_true.mp unbroken

theorem not_isInfix_hooksStart_append
    {mark rest : List Char}
    (isMark : mark ∈ [openingMark, closingMark])
    (absent : ¬mark <:+: rest) :
    ¬mark <:+: hooksStart ++ rest := by
  have unmarked : ∀ mark ∈ [openingMark, closingMark], ¬mark <:+: '@' :: hooksWord.toList := by
    decide
  intro inside
  rw [hooksStart_append, ← List.cons_append] at inside
  obtain inside | inside :=
    (Text.isInfix_append_cons_iff (notMem_mark mark isMark ' ' (by simp))).mp inside
  · exact unmarked mark isMark inside
  · exact absent inside

theorem isTagText_plainLine
    (isPhase : IsPhase phase)
    (isListing : IsListing listing) :
    IsTagText (plainLine phase listing) := by
  refine ⟨rfl, fun char member => ?_, fun mark isMark => ?_⟩
  · simp only [plainLine, List.mem_append, List.mem_cons] at member
    obtain member | member | rfl | member := member
    · exact hooksStart_unbroken char member
    · exact isLineEnd_of_isBlank (isPhase.unbroken char member)
    · decide
    · exact isListing.unbroken char member
  · refine not_isInfix_hooksStart_append isMark fun inside => ?_
    obtain inside | inside :=
      (Text.isInfix_append_cons_iff (notMem_mark mark isMark ' ' (by simp))).mp inside
    · exact isPhase.unmarked mark isMark inside
    · exact isListing.unmarked mark isMark inside

theorem isTagText_bracedLine
    (isPhase : IsPhase phase)
    (isListing : IsListing listing) :
    IsTagText (bracedLine phase listing) := by
  refine ⟨rfl, fun char member => ?_, fun mark isMark => ?_⟩
  · simp only [bracedLine, List.mem_append, List.mem_cons] at member
    obtain member | rfl | member | rfl | rfl | member := member
    · exact hooksStart_unbroken char member
    · decide
    · exact isLineEnd_of_isBlank (isPhase.unbroken char member)
    · decide
    · decide
    · exact isListing.unbroken char member
  · have enclosed : '\x7b' :: (phase ++ '\x7d' :: ' ' :: listing) =
        braced phase ++ ' ' :: listing := by
      simp [braced, isPhase.given]
    rw [bracedLine, enclosed]
    refine not_isInfix_hooksStart_append isMark fun inside => ?_
    obtain inside | inside :=
      (Text.isInfix_append_cons_iff (notMem_mark mark isMark ' ' (by simp))).mp inside
    · exact isPhase.unmarked mark isMark (isInfix_of_isInfix_braced isMark inside)
    · exact isListing.unmarked mark isMark inside

/-! ## Reading the tags -/

/-- What follows the word of a tag with hooks is its type, its name and its description. -/
theorem readTag_hooks
    {rest type after : List Char}
    (trimmed : Text.trim rest = rest)
    (taken : takeType hooksWord rest = .ok (type, after))
    (named : (Text.firstWord after).1 ≠ []) :
    readTag (hooksStart ++ rest) = .ok {
      word := hooksWord
      type := String.ofList type
      name := String.ofList (Text.firstWord after).1
      description := String.ofList (Text.trimEnd (Text.firstWord after).2) } := by
  have word : (hooksWord.toList ++ ' ' :: rest).takeWhile isTagChar = hooksWord.toList := rfl
  have others : (hooksWord.toList ++ ' ' :: rest).dropWhile isTagChar = ' ' :: rest := rfl
  have trimmed : Text.trim (' ' :: rest) = rest := trimmed
  rw [hooksStart_append, readTag]
  simp only [List.drop_succ_cons, List.drop_zero, word, others, trimmed, String.ofList_toList,
    taken]
  have wordGiven : hooksWord.isEmpty = false := rfl
  simp [wordGiven, named, bind, Except.bind, pure, Except.pure]

section Trimmed

variable (isPhase : IsPhase phase) (nonempty : listing ≠ []) (trimmed : Text.trim listing = listing)

include isPhase nonempty trimmed

theorem readTag_plainLine :
    readTag (plainLine phase listing) = .ok {
      word := hooksWord
      type := ""
      name := String.ofList phase
      description := String.ofList listing } := by
  obtain ⟨started, ended⟩ := Text.trim_eq_self_iff.mp trimmed
  have start : Text.trimStart (phase ++ ' ' :: listing) = phase ++ ' ' :: listing :=
    Text.trimStart_append (Text.trimStart_of_forall isPhase.unbroken) isPhase.given _
  have whole : Text.trim (phase ++ ' ' :: listing) = phase ++ ' ' :: listing := by
    have kept := Text.trimEnd_append ended nonempty (phase ++ [' '])
    rw [← List.append_cons] at kept
    exact Text.trim_eq_self_iff.mpr ⟨start, kept⟩
  have taken : takeType hooksWord (phase ++ ' ' :: listing) =
      .ok ([], phase ++ ' ' :: listing) := by
    cases given : phase with
    | nil => exact absurd given isPhase.given
    | cons char rest =>
        have unbraced : char ≠ '\x7b' := by
          rintro rfl
          exact isPhase.unbraced '\x7b' (by simp) (by simp [given])
        simp [takeType, unbraced]
  have words : Text.firstWord (phase ++ ' ' :: listing) = (phase, listing) := by
    have inWord : ∀ char ∈ phase, (!Text.isBlank char) = true := fun char member => by
      rw [isPhase.unbroken char member]
      rfl
    have space : Text.trimStart (' ' :: listing) = listing := started
    have blank : Text.isBlank ' ' = true := by decide
    rw [Text.firstWord, start]
    simp only [List.takeWhile_append_of_pos inWord, List.dropWhile_append_of_pos inWord]
    simp [blank, space]
  have read := readTag_hooks whole taken (by simpa [words] using isPhase.given)
  rw [words, ended] at read
  exact read

theorem readTag_bracedLine :
    readTag (bracedLine phase listing) = .ok {
      word := hooksWord
      type := String.ofList phase
      name := String.ofList (Text.firstWord listing).1
      description := String.ofList (Text.trimEnd (Text.firstWord listing).2) } := by
  obtain ⟨started, ended⟩ := Text.trim_eq_self_iff.mp trimmed
  have whole : Text.trim ('\x7b' :: (phase ++ '\x7d' :: ' ' :: listing)) =
      '\x7b' :: (phase ++ '\x7d' :: ' ' :: listing) := by
    have kept := Text.trimEnd_append ended nonempty ('\x7b' :: (phase ++ ['\x7d', ' ']))
    exact Text.trim_eq_self_iff.mpr ⟨rfl, by simpa using kept⟩
  have taken : takeType hooksWord ('\x7b' :: (phase ++ '\x7d' :: ' ' :: listing)) =
      .ok (phase, listing) := by
    have plain : ∀ char ∈ phase, (char != '\x7b' && char != '\x7d') = true := by
      intro char member
      have unbraced := fun brace listed (same : char = brace) =>
        isPhase.unbraced brace listed (same ▸ member)
      simp only [Bool.and_eq_true, bne_iff_ne]
      exact ⟨unbraced '\x7b' (by simp), unbraced '\x7d' (by simp)⟩
    have phaseKept : Text.trim phase = phase := Text.trim_eq_self_iff.mpr
      ⟨Text.trimStart_of_forall isPhase.unbroken, Text.trimEnd_of_forall isPhase.unbroken⟩
    have space : Text.trim (' ' :: listing) = listing := trimmed
    simp only [takeType, List.dropWhile_append_of_pos plain, List.takeWhile_append_of_pos plain]
    simp [phaseKept, space]
  refine readTag_hooks whole taken ?_
  cases given : listing with
  | nil => exact absurd given nonempty
  | cons char rest =>
      subst given
      have notBlank := Text.trimStart_eq_self_iff.mp started char rfl
      rw [Text.firstWord, started]
      simp [notBlank]

end Trimmed

/-- A listing without the blanks at its end is trimmed, and so is each text that it ends. -/
theorem IsListing.trimEnd_facts (isListing : IsListing listing) :
    Text.trimEnd listing ≠ [] ∧ Text.trim (Text.trimEnd listing) = Text.trimEnd listing ∧
      ∀ front, Text.trimEnd (front ++ listing) = front ++ Text.trimEnd listing := by
  obtain ⟨after, whole, blank⟩ := Text.exists_trimEnd_append listing
  have nonempty : Text.trimEnd listing ≠ [] := fun none => by
    rw [none, List.nil_append] at whole
    obtain ⟨char, rest, same⟩ := List.exists_cons_of_ne_nil isListing.given
    have notBlank := isListing.starts char (by simp [same])
    have charBlank := blank char (by simp [← whole, same])
    exact absurd (notBlank.symm.trans charBlank) Bool.false_ne_true
  have started : Text.trimStart listing = listing :=
    Text.trimStart_eq_self_iff.mpr isListing.starts
  refine ⟨nonempty, ?_, fun front => ?_⟩
  · rw [Text.trim_trimEnd, Text.trim, started]
  · conv_lhs => rw [whole]
    rw [← List.append_assoc, Text.trimEnd_append_of_blank blank]
    exact Text.trimEnd_append (Text.trimEnd_trimEnd listing) nonempty front

theorem directive?_of_hooksWord
    {tag : Tag}
    (isHooks : tag.word = hooksWord) :
    tag.directive? = some (.hooks (hooksOf tag)) := by
  have others : hooksWord ≠ paramWord ∧ hooksWord ≠ guardWord := by decide
  rw [Tag.directive?, isHooks, if_neg others.1, if_neg others.2, if_pos rfl]

/-- A first name and the rest are glued together to the names that they are cut from. -/
theorem splitNames_firstWord (listing : List Char) :
    splitNames (String.ofList (Text.firstWord listing).1 ++ " " ++
      String.ofList (Text.trimEnd (Text.firstWord listing).2)) = namesIn listing := by
  have glued : String.ofList (Text.firstWord listing).1 ++ " " ++
      String.ofList (Text.trimEnd (Text.firstWord listing).2) =
      String.ofList ((Text.firstWord listing).1 ++ ' ' ::
        Text.trimEnd (Text.firstWord listing).2) := by
    rw [List.append_cons, String.ofList_append, String.ofList_append]
  have space : isListMark ' ' = true := by decide
  rw [glued, splitNames_ofList, namesIn_append_cons space, namesIn_trimEnd, namesIn_firstWord]

/-- The phase and the names are what a line directs, whichever way it spells the phase. -/
theorem exists_readTag_line
    (isPhase : IsPhase phase)
    (isListing : IsListing listing)
    {line : List Char}
    (isLine : line ∈ [plainLine phase listing, bracedLine phase listing]) :
    IsTagText line ∧ ∃ tag, readTag (Text.trimEnd line) = .ok tag ∧
      tag.directive? = some (.hooks ⟨String.ofList phase, namesIn listing⟩) := by
  obtain ⟨nonempty, trimmed, trimEnd_append⟩ := isListing.trimEnd_facts
  obtain rfl | rfl := List.mem_pair.mp isLine
  · have text : Text.trimEnd (plainLine phase listing) =
        plainLine phase (Text.trimEnd listing) := by
      simpa [plainLine] using trimEnd_append (hooksStart ++ (phase ++ [' ']))
    refine ⟨isTagText_plainLine isPhase isListing, _,
      text ▸ readTag_plainLine isPhase nonempty trimmed, ?_⟩
    have untyped : "".isEmpty = true := rfl
    rw [directive?_of_hooksWord rfl, hooksOf, if_pos untyped, splitNames_ofList, namesIn_trimEnd]
  · have text : Text.trimEnd (bracedLine phase listing) =
        bracedLine phase (Text.trimEnd listing) := by
      simpa [bracedLine] using trimEnd_append (hooksStart ++ '\x7b' :: (phase ++ ['\x7d', ' ']))
    have typed : (String.ofList phase).isEmpty = false := by simpa using isPhase.given
    refine ⟨isTagText_bracedLine isPhase isListing, _,
      text ▸ readTag_bracedLine isPhase nonempty trimmed, ?_⟩
    rw [directive?_of_hooksWord rfl, hooksOf, if_neg (by simp [typed]), splitNames_firstWord,
      namesIn_trimEnd]

end Lines

/--
Both spellings of a tag with hooks, on a line of its own in a definition that is accepted without
it, are read and add the same to what the definition directs: the names of the listing, in their
order, as the hooks of the phase.
-/
theorem interpret_hooks_line
    {phase listing before above lead below after : List Char}
    {tags : List Tag}
    (isPhase : IsPhase phase)
    (isListing : IsListing listing)
    (place : IsPlace above lead below)
    (isBody : IsBody (above ++ (lead ++ below)))
    (accepted : tagsOf true
      (some (String.ofList (withBlock before (above ++ (lead ++ below)) after))) = .ok tags) :
    ∃ first second, interpret tags = first ++ second ∧
      ∀ line ∈ [plainLine phase listing, bracedLine phase listing], ∃ others,
        (∀ strict, tagsOf strict (some (String.ofList
          (withBlock before (above ++ (lead ++ (line ++ below))) after))) = .ok others) ∧
        interpret others =
          first ++ .hooks ⟨String.ofList phase, namesIn listing⟩ :: second := by
  obtain ⟨first, second, rfl, placed⟩ := exists_tagsOf_placed place isBody accepted
  refine ⟨interpret first, interpret second, interpret_append first second, fun line isLine => ?_⟩
  obtain ⟨isText, tag, read, directed⟩ := exists_readTag_line isPhase isListing isLine
  refine ⟨first ++ tag :: second, placed line tag isText read, ?_⟩
  rw [interpret_append, interpret, interpret, interpret, List.filterMap_cons, directed]

/-- Two hooks, the first of them right after a comma, between a parameter and a guard. -/
theorem interpret_hooks_line_between :
    ∃ first second,
      interpret [⟨"param", "params", "id", ""⟩, ⟨"guard", "", "auth", ""⟩] = first ++ second ∧
      ∀ line ∈ ["@hooks on_send , tag_response,wrap_payload".toList,
          "@hooks \x7bon_send\x7d , tag_response,wrap_payload".toList], ∃ others,
        (∀ strict, tagsOf strict (some (String.ofList (withBlock []
          ("\n * @param \x7bparams\x7d id\n".toList ++
            (" * ".toList ++ (line ++ "\n *\n * @guard auth\n ".toList))) []))) = .ok others) ∧
        interpret others =
          first ++ .hooks ⟨"on_send", ["tag_response", "wrap_payload"]⟩ :: second := by
  have place : IsPlace "\n * @param \x7bparams\x7d id\n".toList " * ".toList
      "\n *\n * @guard auth\n ".toList := by
    refine ⟨@IsLead.gutter [' '] [' '] ?_ ?_, ?_, ?_, ?_, by decide⟩ <;> simp <;> decide
  have isPhase : IsPhase "on_send".toList := by decide
  have isListing : IsListing ", tag_response,wrap_payload".toList := by decide
  exact interpret_hooks_line isPhase isListing place (by decide) (by decide +kernel)

end Documentation
end RoutineGate
