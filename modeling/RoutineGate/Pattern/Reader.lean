import RoutineGate.Number.Reading
import RoutineGate.Pattern.Basic
import RoutineGate.Pattern.Error
import RoutineGate.Text.CharacterName
import RoutineGate.Text.Hexadecimal
import RoutineGate.Text.Identifier

/-!
# Reading patterns

The text is read lexeme by lexeme, a lexeme being a character or a backslash with the
character after it.  One lexeme is always looked at ahead, so that a backslash at the
end is found when the lexeme before it is taken.
-/

namespace RoutineGate
namespace Pattern

/-- A character, or a backslash with the character after it. -/
inductive Lexeme where
  /-- A character that stands alone. -/
  | plain (char : Char)
  /-- A character after a backslash. -/
  | escaped (char : Char)
  deriving DecidableEq, Repr

namespace Lexeme

/-- The characters of a lexeme. -/
def chars : Lexeme → List Char
  | .plain char => [char]
  | .escaped char => ['\\', char]

def text (lexeme : Lexeme) : String :=
  String.ofList lexeme.chars

/-- How many characters a lexeme has. -/
def length (lexeme : Lexeme) : Nat :=
  lexeme.chars.length

end Lexeme

/-- A place in the text with the lexeme after it. -/
structure Cursor where
  /-- The lexeme at the place, if the text does not end there. -/
  next : Option Lexeme
  rest : List Char
  position : Nat
  deriving Repr

/-- What is known while a pattern is read. -/
structure Reading where
  /-- The place reached. -/
  cursor : Cursor
  /-- The names of characters. -/
  characters : Text.CharacterNames
  /-- The flags for the whole pattern. -/
  flags : Flags := {}
  /-- The groups opened so far, in order, each with its width once it is closed. -/
  groups : List (Option Width) := []
  /-- The numbers of the groups that have names. -/
  names : List (String × Nat) := []
  /-- Inside a condition on what stands before, the groups opened before it, plus one. -/
  lookbehind : Option Nat := none
  /-- Where conditions first mention groups by number. -/
  mentions : List (Nat × Nat) := []

/-- A step of reading a pattern. -/
abbrev Reader := StateT Reading (Except Error)

namespace Reader

/-- Ends reading with a fault at a position. -/
def failAt {Result : Type} (fault : Fault) (position : Nat) : Reader Result :=
  throw (.malformed fault position)

/-- The position of the next lexeme. -/
def position : Reader Nat := do
  return (← get).cursor.position

/-- Ends reading with a fault so many characters before the next lexeme. -/
def failBefore {Result : Type} (fault : Fault) (offset : Nat) : Reader Result := do
  failAt fault ((← position) - offset)

/-- The cursor at a position, before the given characters. -/
def cursorAt (position : Nat) : List Char → Except Error Cursor
  | [] => .ok ⟨none, [], position⟩
  | ['\\'] => .error (.malformed .escapeAtEnd position)
  | '\\' :: char :: rest => .ok ⟨some (.escaped char), rest, position⟩
  | char :: rest => .ok ⟨some (.plain char), rest, position⟩

/-- The next lexeme, without taking it. -/
def peek : Reader (Option Lexeme) := do
  return (← get).cursor.next

/-- Takes the next lexeme. -/
def take : Reader (Option Lexeme) := do
  let reading ← get
  match reading.cursor.next with
  | none => return none
  | some lexeme =>
      let cursor ← cursorAt (reading.cursor.position + lexeme.length) reading.cursor.rest
      set { reading with cursor }
      return some lexeme

/-- Takes the next lexeme if it is a given character. -/
def accept (char : Char) : Reader Bool := do
  if (← peek) = some (.plain char) then
    let _ ← take
    return true
  return false

/-- Takes up to `limit` plain characters that pass a test. -/
def takeUpTo (test : Char → Bool) : Nat → Reader (List Char)
  | 0 => return []
  | limit + 1 => do
      match ← peek with
      | some (.plain char) =>
          if test char then
            let _ ← take
            return char :: (← takeUpTo test limit)
          return []
      | _ => return []

/-- How many characters are left, at least. -/
def remaining : Reader Nat := do
  return (← get).cursor.rest.length + 2

/-- Takes lexemes up to a terminator, which is taken too; `taken` is their text so far. -/
def takeUntil (terminator : Char) (what : String) (taken : List Char) : Nat → Reader String
  | 0 => failAt (.unterminatedName (String.singleton terminator)) 0
  | steps + 1 => do
      match ← take with
      | none =>
          if taken.isEmpty then failBefore (.missing what) 0
          else failBefore (.unterminatedName (String.singleton terminator)) taken.length
      | some lexeme =>
          if lexeme = .plain terminator then
            if taken.isEmpty then failBefore (.missing what) 1
            else return String.ofList taken
          else takeUntil terminator what (taken ++ lexeme.chars) steps

/-- Takes a name up to its terminator. -/
def name (terminator : Char) (what : String) : Reader String := do
  takeUntil terminator what [] (← remaining)

end Reader

/-- Whether a character is an octal digit. -/
def isOctal (char : Char) : Bool :=
  '0' ≤ char && char ≤ '7'

/-- Whether a character is an ASCII digit. -/
def isAsciiDigit (char : Char) : Bool :=
  '0' ≤ char && char ≤ '9'

/-- Whether a character is an ASCII letter. -/
def isAsciiLetter (char : Char) : Bool :=
  ('a' ≤ char && char ≤ 'z') || ('A' ≤ char && char ≤ 'Z')

/-- A member of a set or an item outside of sets. -/
inductive EscapeMeaning where
  | code (code : Nat)
  /-- A class of characters. -/
  | category (category : Category) (negated : Bool)
  | anchor (anchor : Anchor)
  | reference (group : Nat)

namespace Reader

/-- The class that a letter after a backslash stands for. -/
def categoryOf? : Char → Option EscapeMeaning
  | 'd' => some (.category .digit false)
  | 'D' => some (.category .digit true)
  | 's' => some (.category .blank false)
  | 'S' => some (.category .blank true)
  | 'w' => some (.category .word false)
  | 'W' => some (.category .word true)
  | _ => none

/-- The place that a letter after a backslash stands for. -/
def anchorOf? : Char → Option EscapeMeaning
  | 'A' => some (.anchor .textStart)
  | 'b' => some (.anchor .wordBoundary)
  | 'B' => some (.anchor .insideWord)
  | 'Z' => some (.anchor .textEnd)
  | _ => none

/-- The control character that a letter after a backslash stands for. -/
def controlOf? : Char → Option EscapeMeaning
  | 'a' => some (.code 7)
  | 'b' => some (.code 8)
  | 'f' => some (.code 12)
  | 'n' => some (.code 10)
  | 'r' => some (.code 13)
  | 't' => some (.code 9)
  | 'v' => some (.code 11)
  | '\\' => some (.code 92)
  | _ => none

/-- Reads the digits of a code point after its letter, exactly as many as given. -/
def hexEscape (letter : Char) (count : Nat) : Reader EscapeMeaning := do
  let digits ← takeUpTo (fun char => (Text.hexValue? char).isSome) count
  let escape := '\\' :: letter :: digits
  if digits.length < count then
    failBefore (.incompleteEscape (String.ofList escape)) escape.length
  let code := Text.ofDigitChars 16 digits
  if 0x10FFFF < code then
    failBefore (.badEscape (String.ofList escape)) escape.length
  return .code code

/-- Reads the name of a character. -/
def namedEscape : Reader EscapeMeaning := do
  if !(← accept '\x7b') then failBefore (.missing "\x7b") 0
  let name ← name '\x7d' "character name"
  match (← get).characters.character? name with
  | some char => return .code char.toNat
  | none => failBefore (.unknownCharacter name) (name.length + 4)

/-- What remains of an escape that is no class, place or control character. -/
def plainEscape (char : Char) : Reader EscapeMeaning := do
  if isAsciiLetter char || isAsciiDigit char then
    failBefore (.badEscape (String.ofList ['\\', char])) 2
  return .code char.toNat

/-- The code point of an octal escape, which is below that of one byte. -/
def octal (digits : List Char) : Reader EscapeMeaning := do
  let code := Text.ofDigitChars 8 digits
  if 0o377 < code then
    failBefore (.largeOctal (String.ofList ('\\' :: digits))) (digits.length + 1)
  return .code code

/-- Reads the rest of an escape inside a character set. -/
def setEscape (char : Char) : Reader EscapeMeaning := do
  if let some meaning := (controlOf? char).or (categoryOf? char) then return meaning
  if char = 'x' then hexEscape char 2
  else if char = 'u' then hexEscape char 4
  else if char = 'U' then hexEscape char 8
  else if char = 'N' then namedEscape
  else if isOctal char then octal (char :: (← takeUpTo isOctal 2))
  else plainEscape char

/-- Checks that a group may be referred to from here. -/
def checkLookbehind (group : Nat) : Reader Unit := do
  let reading ← get
  if let some limit := reading.lookbehind then
    if ((reading.groups[group - 1]?).join).isNone then failBefore .openGroup 0
    if limit ≤ group then failBefore .groupOfLookbehind 0

/-- The item that refers to a group, whose mention takes so many characters. -/
def reference (group mention : Nat) : Reader EscapeMeaning := do
  let reading ← get
  if ((reading.groups[group - 1]?).join).isNone then failBefore .openGroup mention
  checkLookbehind group
  return .reference group

/-- Reads the rest of an escape that starts with a digit from one to nine. -/
def digitEscape (first : Char) : Reader EscapeMeaning := do
  let second ← takeUpTo isAsciiDigit 1
  if let [next] := second then
    if isOctal first && isOctal next then
      if let [last] ← takeUpTo isOctal 1 then
        return ← octal [first, next, last]
  let digits := first :: second
  let group := Text.ofDigitChars 10 digits
  if group ≤ (← get).groups.length then
    reference group (digits.length + 1)
  else failBefore (.unknownGroup group) digits.length

/-- Reads the rest of an escape outside of character sets. -/
def itemEscape (char : Char) : Reader EscapeMeaning := do
  if let some meaning := (categoryOf? char).or ((anchorOf? char).or (controlOf? char)) then
    return meaning
  if char = 'x' then hexEscape char 2
  else if char = 'u' then hexEscape char 4
  else if char = 'U' then hexEscape char 8
  else if char = 'N' then namedEscape
  else if char = '0' then octal (char :: (← takeUpTo isOctal 2))
  else if isAsciiDigit char then digitEscape char
  else plainEscape char

/-- The meaning of a lexeme inside a character set. -/
def setMember (lexeme : Lexeme) : Reader EscapeMeaning :=
  match lexeme with
  | .plain char => return .code char.toNat
  | .escaped char => setEscape char

def memberOf : EscapeMeaning → SetItem
  | .code code => .single code
  | .category category negated => .category category negated
  | .anchor _ => .single 0
  | .reference group => .single group

/-- Reads the members of a character set that starts at a position. -/
def setMembers (start : Nat) (members : List SetItem) : Nat → Reader (List SetItem)
  | 0 => failAt .unterminatedSet start
  | steps + 1 => do
      let some this ← take | failAt .unterminatedSet start
      if this = .plain ']' && !members.isEmpty then return members
      let first ← setMember this
      if ← accept '-' then
        let some that ← take | failAt .unterminatedSet start
        if that = .plain ']' then return members ++ [memberOf first, .single '-'.toNat]
        let last ← setMember that
        let fault := Fault.badRange this.text that.text
        let mention := this.length + 1 + that.length
        match first, last with
        | .code first, .code last =>
            if last < first then failBefore fault mention
            else setMembers start (members ++ [.range first last]) steps
        | _, _ => failBefore fault mention
      else setMembers start (members ++ [memberOf first]) steps

/-- The item for a set; a set of one character is written without one. -/
def setItem (negated : Bool) (members : List SetItem) : Item :=
  match members.eraseDups with
  | [.single code] => if negated then .other code else .literal code
  | distinct => .set negated distinct

/-- Whether an item matches a place only. -/
def isAnchor : Item → Bool
  | .anchor _ => true
  | _ => false

def isRepetition : Item → Bool
  | .repetition .. => true
  | _ => false

/-- The body of a repetition of an item; a group that does nothing else is dropped. -/
def repeatedBody : Item → List Item
  | .group none added removed body =>
      if added.isEmpty && removed.isEmpty then body else [.group none added removed body]
  | item => [item]

/-- The bound from which repetitions are not counted. -/
def repetitionLimit : Nat := 4294967295

/-- A bound of a repetition. -/
def bound (digits : List Char) : Reader Nat := do
  match Number.readInteger (String.ofList digits) with
  | .error error => throw (.integer error)
  | .ok number =>
      if repetitionLimit ≤ number.toNat then throw .largeRepetition
      return number.toNat

/--
Reads the bounds of a repetition after its opening brace.  If there are none, the
brace stands for itself and the place is what it was.
-/
def bounds : Reader (Option (Nat × Option Nat)) := do
  let before ← get
  let start := before.cursor.position
  if before.cursor.next = some (.plain '\x7d') then return none
  let limit ← remaining
  let least ← takeUpTo isAsciiDigit limit
  let most ← if ← accept ',' then takeUpTo isAsciiDigit limit else pure least
  if !(← accept '\x7d') then
    set before
    return none
  let lower ← if least.isEmpty then pure 0 else bound least
  if most.isEmpty then return some (lower, none)
  let upper ← bound most
  if upper < lower then failAt .reversedBounds start
  return some (lower, some upper)

/-- Reads the mark that says how greedy a repetition is; at most one is taken. -/
def greed : Reader Greed := do
  if ← accept '?' then return .reluctant
  if ← accept '+' then return .possessive
  return .greedy

/-- Repeats the last of the items read so far; `start` is the place of the repetition. -/
def repeatLast (items : List Item) (start least : Nat) (most : Option Nat) :
    Reader (List Item) := do
  match items.getLast? with
  | none => failAt .nothingToRepeat start
  | some item =>
      if isAnchor item then failAt .nothingToRepeat start
      if isRepetition item then failAt .multipleRepeat start
      return items.dropLast ++ [.repetition (← greed) least most (repeatedBody item)]

/-- The flag that a letter stands for. -/
def flagOf? : Char → Option Flags
  | 'i' => some { ignoreCase := true }
  | 'm' => some { multiline := true }
  | 's' => some { dotAll := true }
  | 'x' => some { verbose := true }
  | 'a' => some { ascii := true }
  | 'u' => some { unicode := true }
  | 't' => some { template := true }
  | 'L' => some {}
  | _ => none

/-- The flag of a lexeme, or the fault that there is none. -/
def flag (what : String) (lexeme : Lexeme) : Reader (Char × Flags) := do
  let letter? :=
    match lexeme with
    | .plain char => (flagOf? char).map fun flags => (char, flags)
    | .escaped _ => none
  match letter? with
  | some found => return found
  | none =>
      let isLetter :=
        match lexeme with
        | .plain char => Text.isLetter char
        | .escaped _ => false
      failBefore (if isLetter then .unknownFlag else .missing what) lexeme.length

/-- Reads the flags that a group sets, from the given one on, and the lexeme after them. -/
def addedFlags (letter : Char) (added flags : Flags) : Nat → Reader (Flags × Char)
  | 0 => failBefore (.missing "-, : or )") 0
  | steps + 1 => do
      if letter = 'L' then failBefore .localeFlag 0
      let added := added.union flags
      if added.ascii && added.unicode then failBefore .incompatibleFlags 0
      let some lexeme ← take | failBefore (.missing "-, : or )") 0
      match lexeme with
      | .plain ')' => return (added, ')')
      | .plain '-' => return (added, '-')
      | .plain ':' => return (added, ':')
      | _ =>
          let (letter, flags) ← flag "-, : or )" lexeme
          addedFlags letter added flags steps

/-- Reads the flags that a group clears, from the given one on. -/
def removedFlags (letter : Char) (removed flags : Flags) : Nat → Reader Flags
  | 0 => failBefore (.missing ":") 0
  | steps + 1 => do
      if letter = 'L' || letter = 'a' || letter = 'u' then failBefore .permanentFlag 0
      let removed := removed.union flags
      let some lexeme ← take | failBefore (.missing ":") 0
      if lexeme = .plain ':' then return removed
      let (letter, flags) ← flag ":" lexeme
      removedFlags letter removed flags steps

/--
Reads flags, from the given character on.  Flags for the whole pattern are recorded
and nothing is returned.
-/
def groupFlags (first : Char) : Reader (Option (Flags × Flags)) := do
  let limit ← remaining
  let (added, mark) ←
    match flagOf? first with
    | some flags => addedFlags first {} flags limit
    | none => pure ({}, first)
  if mark = ')' then
    modify fun reading => { reading with flags := reading.flags.union added }
    return none
  if added.template then failBefore (.globalFlag true) 1
  if mark = ':' then return some (added, {})
  let some lexeme ← take | failBefore (.missing "flag") 0
  let (letter, flags) ← flag "flag" lexeme
  let removed ← removedFlags letter {} flags limit
  if removed.template then failBefore (.globalFlag false) 1
  if added.without removed != added then failBefore .contradictoryFlag 1
  return some (added, removed)

/-- Opens a group, with a name if it has one, and gives its number. -/
def openGroup (name? : Option String) : Reader Nat := do
  let reading ← get
  let group := reading.groups.length + 1
  if let some name := name? then
    if let some earlier := reading.names.lookup name then
      failBefore (.repeatedName name group earlier) (name.length + 1)
  let names := (name?.map fun name => (name, group)).toList
  set { reading with
    groups := reading.groups ++ [none]
    names := reading.names ++ names }
  return group

def closeGroup (group : Nat) (body : List Item) : Reader Unit :=
  modify fun reading =>
    { reading with
      groups := reading.groups.set (group - 1) (some (sequenceWidth reading.groups body)) }

/-- Takes the end of a group that starts at a position. -/
def closing (start : Nat) : Reader Unit := do
  if !(← accept ')') then failAt .unterminatedGroup start

/-- Takes a comment up to its end. -/
def comment (start : Nat) : Nat → Reader Unit
  | 0 => failAt .unterminatedComment start
  | steps + 1 => do
      match ← take with
      | none => failAt .unterminatedComment start
      | some (.plain ')') => return
      | some _ => comment start steps

/-- Takes a comment up to the end of its line. -/
def lineComment : Nat → Reader Unit
  | 0 => return
  | steps + 1 => do
      match ← take with
      | none => return
      | some (.plain '\n') => return
      | some _ => lineComment steps

/-- Checks the name of a group that has just been taken with its terminator. -/
def checkName (name : String) : Reader Unit := do
  if !Text.isIdentifier name then failBefore (.badName name) (name.length + 1)

/-- The number of the group with a name that has just been taken. -/
def groupNamed (name : String) : Reader Nat := do
  match (← get).names.lookup name with
  | some group => return group
  | none => failBefore (.unknownName name) (name.length + 1)

/-- The group that a condition is about. -/
def conditionGroup : Reader Nat := do
  let name ← name ')' "group name"
  if Text.isIdentifier name then groupNamed name
  else
    let mention := name.length + 1
    match Number.readInteger name with
    | .error _ => failBefore (.badName name) mention
    | .ok number =>
        if number < 0 then failBefore (.badName name) mention
        let group := number.toNat
        if group = 0 then failBefore .badNumber mention
        if 1073741823 ≤ group then failBefore (.unknownGroup group) mention
        let reading ← get
        if (reading.mentions.lookup group).isNone then
          set { reading with
            mentions := reading.mentions ++ [(group, reading.cursor.position - mention)] }
        return group

/-- The start of a group: everything up to its body. -/
inductive Opening where
  /-- A group with a body to read. -/
  | body (name? : Option String) (captures isAtomic : Bool) (added removed : Flags)
  /-- A condition on what follows. -/
  | ahead (negated : Bool)
  /-- A condition on what stands before. -/
  | behind (negated : Bool)
  /-- A condition on a group. -/
  | conditional (group : Nat)
  /-- An item without a body. -/
  | item (item : Item)
  /-- Nothing that is matched. -/
  | nothing
  /-- Flags for the whole pattern. -/
  | flags

/-- Reads what follows the letter of named groups. -/
def namedOpening : Reader Opening := do
  if ← accept '<' then
    let name ← name '>' "group name"
    checkName name
    return .body (some name) true false {} {}
  if ← accept '=' then
    let name ← name ')' "group name"
    checkName name
    let group ← groupNamed name
    match ← reference group (name.length + 1) with
    | .reference group => return .item (.reference group)
    | _ => return .nothing
  let some lexeme ← take | failBefore .unexpectedEnd 0
  failBefore (.unknownExtension ("P" ++ lexeme.text)) (lexeme.length + 2)

/-- Reads the start of a group at a position, after its parenthesis. -/
def opening (start : Nat) : Reader Opening := do
  if !(← accept '?') then return .body none true false {} {}
  let some lexeme ← take | failBefore .unexpectedEnd 0
  match lexeme with
  | .plain 'P' => namedOpening
  | .plain ':' => return .body none false false {} {}
  | .plain '>' => return .body none false true {} {}
  | .plain '#' => do
      comment start (← remaining)
      return .nothing
  | .plain '=' => return .ahead false
  | .plain '!' => return .ahead true
  | .plain '<' => do
      let some lexeme ← take | failBefore .unexpectedEnd 0
      match lexeme with
      | .plain '=' => return .behind false
      | .plain '!' => return .behind true
      | _ => failBefore (.unknownExtension ("<" ++ lexeme.text)) (lexeme.length + 2)
  | .plain '(' => return .conditional (← conditionGroup)
  | _ =>
      let first? :=
        match lexeme with
        | .plain char => if char = '-' || (flagOf? char).isSome then some char else none
        | .escaped _ => none
      match first? with
      | some first =>
          match ← groupFlags first with
          | some (added, removed) => return .body none false false added removed
          | none => return .flags
      | none => failBefore (.unknownExtension lexeme.text) (lexeme.length + 1)

/-- Whether a character is skipped in a verbose pattern. -/
def isSkipped (char : Char) : Bool :=
  char = ' ' || char = '\t' || char = '\n' || char = '\r' || char.toNat = 11 || char.toNat = 12

/-- The items for one of several bodies. -/
def choiceOf : List (List Item) → List Item
  | [items] => items
  | options => [.choice options]

mutual

/-- Reads bodies separated by bars, after those read so far. -/
def options (verbose outermost : Bool) (read : List (List Item)) :
    Nat → Reader (List Item)
  | 0 => throw .largeRepetition
  | steps + 1 => do
      let items ← sequence verbose (outermost && read.isEmpty) [] steps
      if ← accept '|' then
        let global := (← get).flags.verbose
        let verbose := if outermost then global else verbose
        options verbose outermost (read ++ [items]) steps
      else return choiceOf (read ++ [items])

/-- Reads items up to a bar, a closing parenthesis or the end, after those read so far. -/
def sequence (verbose first : Bool) (items : List Item) : Nat → Reader (List Item)
  | 0 => throw .largeRepetition
  | steps + 1 => do
      let start ← position
      match ← peek with
      | none => return items
      | some (.plain '|') => return items
      | some (.plain ')') => return items
      | some (.escaped char) =>
          let _ ← take
          let item :=
            match ← itemEscape char with
            | .code code => Item.literal code
            | .category category negated => .set false [.category category negated]
            | .anchor anchor => .anchor anchor
            | .reference group => .reference group
          sequence verbose first (items ++ [item]) steps
      | some (.plain char) =>
          let _ ← take
          if verbose && isSkipped char then sequence verbose first items steps
          else if verbose && char = '#' then
            lineComment (← remaining)
            sequence verbose first items steps
          else
            match char with
            | '.' => sequence verbose first (items ++ [.dot]) steps
            | '^' => sequence verbose first (items ++ [.anchor .lineStart]) steps
            | '$' => sequence verbose first (items ++ [.anchor .lineEnd]) steps
            | '[' =>
                let negated ← accept '^'
                let members ← setMembers start [] (← remaining)
                sequence verbose first (items ++ [setItem negated members]) steps
            | '*' => sequence verbose first (← repeatLast items start 0 none) steps
            | '+' => sequence verbose first (← repeatLast items start 1 none) steps
            | '?' => sequence verbose first (← repeatLast items start 0 (some 1)) steps
            | '\x7b' =>
                match ← bounds with
                | some (least, most) =>
                    sequence verbose first (← repeatLast items start least most) steps
                | none => sequence verbose first (items ++ [.literal char.toNat]) steps
            | '(' =>
                match ← opening start with
                | .nothing => sequence verbose first items steps
                | .item item => sequence verbose first (items ++ [item]) steps
                | .flags =>
                    if !first || !items.isEmpty then failAt .lateFlags start
                    let global := (← get).flags.verbose
                    sequence global first items steps
                | .ahead negated =>
                    let body ← options verbose false [] steps
                    closing start
                    sequence verbose first (items ++ [.ahead negated body]) steps
                | .behind negated =>
                    let outer := (← get).lookbehind
                    if outer.isNone then
                      modify fun reading =>
                        { reading with lookbehind := some (reading.groups.length + 1) }
                    let body ← options verbose false [] steps
                    modify fun reading => { reading with lookbehind := outer }
                    closing start
                    let width := sequenceWidth (← get).groups body
                    sequence verbose first (items ++ [.behind negated width.least body]) steps
                | .conditional group =>
                    checkLookbehind group
                    let present ← sequence verbose false [] steps
                    let absent ← if ← accept '|' then sequence verbose false [] steps else pure []
                    if (← peek) = some (.plain '|') then failBefore .manyBranches 0
                    closing start
                    sequence verbose first (items ++ [.conditional group present absent]) steps
                | .body name? captures isAtomic added removed =>
                    let group? ← if captures then some <$> openGroup name? else pure none
                    let inner := (verbose || added.verbose) && !removed.verbose
                    let body ← options inner false [] steps
                    closing start
                    if let some group := group? then closeGroup group body
                    let item := if isAtomic then Item.atomic body
                      else .group group? added removed body
                    sequence verbose first (items ++ [item]) steps
            | _ => sequence verbose first (items ++ [.literal char.toNat]) steps

end

/-- The greatest width of a condition on what stands before. -/
def widestLookbehind : Nat := 4294967295

mutual

/-- Why an item that has been read cannot be used, given the widths of groups. -/
def itemProblem? (template : Bool) (groups : List (Option Width)) : Item → Option Error
  | .group _ _ _ body => sequenceProblem? template groups body
  | .atomic body => sequenceProblem? template groups body
  | .repetition greed _ _ body =>
      if template then some (.refusedRepetition greed) else sequenceProblem? template groups body
  | .ahead _ body => sequenceProblem? template groups body
  | .behind _ _ body =>
      let width := sequenceWidth groups body
      if widestLookbehind < width.least then some .longLookbehind
      else if width.least != width.most then some .variableLookbehind
      else sequenceProblem? template groups body
  | .conditional _ present absent =>
      (sequenceProblem? template groups present).or (sequenceProblem? template groups absent)
  | .choice options => optionsProblem? template groups options
  | _ => none

/-- The first problem of items after each other. -/
def sequenceProblem? (template : Bool) (groups : List (Option Width)) : List Item → Option Error
  | [] => none
  | item :: items => (itemProblem? template groups item).or (sequenceProblem? template groups items)

/-- The first problem of several bodies. -/
def optionsProblem? (template : Bool) (groups : List (Option Width)) :
    List (List Item) → Option Error
  | [] => none
  | option :: options =>
      (sequenceProblem? template groups option).or (optionsProblem? template groups options)

end

/-- Reads a whole pattern of so many characters. -/
def pattern (length : Nat) : Reader (Flags × List Item) := do
  let items ← options false true [] (2 * length + 4)
  let reading ← get
  if reading.flags.ascii && reading.flags.unicode then throw .exclusiveFlags
  if reading.cursor.next.isSome then failBefore .unbalanced 0
  for (group, mention) in reading.mentions do
    if reading.groups.length < group then failAt (.unknownGroup group) mention
  match sequenceProblem? reading.flags.template reading.groups items with
  | some problem => throw problem
  | none => return (reading.flags, items)

end Reader

/-- Reads a pattern, with what the names of characters in it stand for. -/
def read (source : String) (characters : Text.CharacterNames := .ascii) :
    Except Error Pattern := do
  let chars := source.toList
  let cursor ← Reader.cursorAt 0 chars
  let ((flags, items), _) ← (Reader.pattern chars.length).run { cursor, characters }
  return { source, flags, items }

theorem source_of_read
    {source : String}
    {characters : Text.CharacterNames}
    {pattern : Pattern}
    (isRead : read source characters = .ok pattern) :
    pattern.source = source := by
  simp only [read, bind, Except.bind] at isRead
  split at isRead
  · contradiction
  · split at isRead
    · contradiction
    · exact (Except.ok.inj isRead) ▸ rfl

/-- The pattern of a text that can be read as one. -/
def ofSource (source : String) (isRead : (read source).toOption.isSome) : Pattern :=
  (read source).toOption.get isRead

theorem read_ofSource
    {source : String}
    (isRead : (read source).toOption.isSome) :
    read source = .ok (ofSource source isRead) := by
  obtain ⟨pattern, found⟩ := Option.isSome_iff_exists.mp isRead
  rw [ofSource, Option.get_of_eq_some isRead found]
  cases outcome : read source with
  | ok _ => simpa [outcome, Except.toOption] using found
  | error _ => simp [outcome, Except.toOption] at found

end Pattern
end RoutineGate
