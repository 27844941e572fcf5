import RoutineGate.Pattern.Basic
import RoutineGate.Text.Blank
import RoutineGate.Text.Digit
import RoutineGate.Text.LetterCase
import RoutineGate.Text.WordChar

/-!
# Searching a text for a pattern

Items are tried in order, and each is given what has to match after it, so that an
item can be tried again when the rest fails.  A repetition needs no more rounds than
there are characters, because a round that takes nothing ends it.
-/

namespace RoutineGate
namespace Pattern

/-- Small letters that differ and are the same letter all the same. -/
def relatedLetters : List (Nat × List Nat) :=
  [(0x69, [0x131]), (0x73, [0x17F]), (0xB5, [0x3BC]), (0x131, [0x69]), (0x17F, [0x73]),
   (0x345, [0x3B9, 0x1FBE]), (0x390, [0x1FD3]), (0x3B0, [0x1FE3]), (0x3B2, [0x3D0]),
   (0x3B5, [0x3F5]), (0x3B8, [0x3D1]), (0x3B9, [0x345, 0x1FBE]), (0x3BA, [0x3F0]),
   (0x3BC, [0xB5]), (0x3C0, [0x3D6]), (0x3C1, [0x3F1]), (0x3C2, [0x3C3]), (0x3C3, [0x3C2]),
   (0x3C6, [0x3D5]), (0x3D0, [0x3B2]), (0x3D1, [0x3B8]), (0x3D5, [0x3C6]), (0x3D6, [0x3C0]),
   (0x3F0, [0x3BA]), (0x3F1, [0x3C1]), (0x3F5, [0x3B5]), (0x432, [0x1C80]), (0x434, [0x1C81]),
   (0x43E, [0x1C82]), (0x441, [0x1C83]), (0x442, [0x1C84, 0x1C85]), (0x44A, [0x1C86]),
   (0x463, [0x1C87]), (0x1C80, [0x432]), (0x1C81, [0x434]), (0x1C82, [0x43E]), (0x1C83, [0x441]),
   (0x1C84, [0x442, 0x1C85]), (0x1C85, [0x442, 0x1C84]), (0x1C86, [0x44A]), (0x1C87, [0x463]),
   (0x1C88, [0xA64B]), (0x1E61, [0x1E9B]), (0x1E9B, [0x1E61]), (0x1FBE, [0x345, 0x3B9]),
   (0x1FD3, [0x390]), (0x1FE3, [0x3B0]), (0xA64B, [0x1C88]), (0xFB05, [0xFB06]),
   (0xFB06, [0xFB05])]

/-- The code points whose small form is the given one. -/
def capitalsOf (small : Nat) : List Nat :=
  let moved := Text.lowerRuns.filterMap fun run =>
    let source := ((small : Int) - run.shift).toNat
    if run.covers source then some source else none
  let itself := if (Text.smallForm (Char.ofNat small)).toNat = small then [small] else []
  let dotted := if small = 'i'.toNat then [0x130] else []
  itself ++ moved ++ dotted

/-- The small form of an ASCII letter. -/
def asciiSmall (code : Nat) : Nat :=
  if 65 ≤ code ∧ code ≤ 90 then code + 32 else code

/-- All code points that are the same letter as a character. -/
def sameLetters (flags : Flags) (char : Char) : List Nat :=
  if flags.ascii then
    let small := asciiSmall char.toNat
    if 97 ≤ small ∧ small ≤ 122 then [small, small - 32] else [small]
  else
    let small := (Text.smallForm char).toNat
    let related := relatedLetters.filterMap fun (letter, letters) =>
      if letters.contains small then some letter else none
    (small :: related).flatMap capitalsOf

/-- Whether a character belongs to a class. -/
def Category.contains (flags : Flags) (category : Category) (char : Char) : Bool :=
  if flags.ascii then
    match category with
    | .digit => '0' ≤ char && char ≤ '9'
    | .blank => char = ' ' || (9 ≤ char.toNat && char.toNat ≤ 13)
    | .word => char.isAlphanum || char = '_'
  else
    match category with
    | .digit => Text.isDecimal char
    | .blank => Text.isBlank char
    | .word => Text.isWordChar char

/-- Whether a character matches a code point. -/
def matchesCode (flags : Flags) (code : Nat) (char : Char) : Bool :=
  if flags.ignoreCase then (sameLetters flags char).contains code else char.toNat = code

/-- Whether a character matches a member of a set. -/
def SetItem.contains (flags : Flags) (member : SetItem) (char : Char) : Bool :=
  match member with
  | .single code => matchesCode flags code char
  | .range first last =>
      if flags.ignoreCase then
        (sameLetters flags char).any fun code => first ≤ code && code ≤ last
      else first ≤ char.toNat && char.toNat ≤ last
  | .category kind negated => kind.contains flags char != negated

/-- A place in a text, with the groups captured on the way to it. -/
structure Place where
  /-- The characters before the place, in reverse. -/
  before : List Char
  /-- The characters after the place. -/
  after : List Char
  /-- How many characters are before the place. -/
  position : Nat
  /-- The texts of groups, the latest first. -/
  captures : List (Nat × List Char)

namespace Place

/-- The start of a text. -/
def start (chars : List Char) : Place :=
  ⟨[], chars, 0, []⟩

/-- The place after the next character, if that passes a test. -/
def step (place : Place) (test : Char → Bool) : Option Place :=
  match place.after with
  | [] => none
  | char :: rest =>
      if test char then
        some { place with
          before := char :: place.before
          after := rest
          position := place.position + 1 }
      else none

/-- The place so many characters earlier. -/
def back (place : Place) : Nat → Option Place
  | 0 => some place
  | count + 1 =>
      match place.before with
      | [] => none
      | char :: before =>
          back { place with before, after := char :: place.after, position := place.position - 1 }
            count

/-- Records what a group matched from an earlier place on. -/
def capture (place : Place) (group : Nat) (origin : Place) : Place :=
  { place with
    captures := (group, origin.after.take (place.position - origin.position)) :: place.captures }

/-- Whether a word character stands before the place, and whether one stands after it. -/
def words (place : Place) (flags : Flags) : Bool × Bool :=
  let isWord (chars : List Char) : Bool :=
    match chars with
    | [] => false
    | char :: _ => Category.word.contains flags char
  (isWord place.before, isWord place.after)

def holds (place : Place) (flags : Flags) (anchor : Anchor) : Bool :=
  match anchor with
  | .textStart => place.before.isEmpty
  | .textEnd => place.after.isEmpty
  | .lineStart =>
      match place.before with
      | [] => true
      | char :: _ => flags.multiline && char = '\n'
  | .lineEnd =>
      match place.after with
      | [] => true
      | ['\n'] => true
      | char :: _ => flags.multiline && char = '\n'
  | .wordBoundary =>
      let (before, after) := place.words flags
      before != after
  | .insideWord =>
      let (before, after) := place.words flags
      before = after && !(place.before.isEmpty && place.after.isEmpty)

/-- The place after a given text, letter case being ignored if the flags say so. -/
def follow (flags : Flags) : List Char → Place → Option Place
  | [], place => some place
  | char :: chars, place =>
      match place.step (matchesCode flags char.toNat) with
      | some next => follow flags chars next
      | none => none

end Place

/-- What remains to be matched: from a place to the final one. -/
abbrev Continuation :=
  Place → Option Place

/-- A way to match something with what remains after it. -/
abbrev Matcher :=
  Place → Continuation → Option Place

/-- Whether one more round is allowed after so many. -/
def roundAllowed (most : Option Nat) (count : Nat) : Bool :=
  match most with
  | none => true
  | some most => count < most

/--
Repeats a matcher.  `last` is where the previous optional round started; a round
that starts at the same place again is the last one.
-/
def repeatRounds (greed : Greed) (least : Nat) (most : Option Nat) (body : Matcher) :
    Nat → Nat → Option Nat → Matcher
  | 0, _, _, place, continuation => continuation place
  | rounds + 1, count, last, place, continuation =>
      if count < least then
        body place fun next =>
          repeatRounds greed least most body rounds (count + 1) last next continuation
      else
        let again (_ : Unit) : Option Place :=
          if roundAllowed most count && last != some place.position then
            body place fun next =>
              repeatRounds greed least most body rounds (count + 1) (some place.position) next
                continuation
          else none
        match greed with
        | .reluctant =>
            match continuation place with
            | some found => some found
            | none => again ()
        | _ =>
            match again () with
            | some found => some found
            | none => continuation place

/-- Repeats a matcher as often as possible without ever taking a round back. -/
def repeatPossessively (least : Nat) (most : Option Nat) (body : Matcher) :
    Nat → Nat → Option Nat → Place → Option Place
  | 0, _, _, place => some place
  | rounds + 1, count, last, place =>
      if count < least then
        match body place some with
        | some next => repeatPossessively least most body rounds (count + 1) last next
        | none => none
      else if roundAllowed most count && last != some place.position then
        match body place some with
        | some next =>
            repeatPossessively least most body rounds (count + 1) (some place.position) next
        | none => some place
      else some place

mutual

/-- Matches an item. -/
def Item.run (flags : Flags) : Item → Matcher
  | .literal code, place, continuation =>
      (place.step (matchesCode flags code)).bind continuation
  | .other code, place, continuation =>
      (place.step fun char => !matchesCode flags code char).bind continuation
  | .dot, place, continuation =>
      (place.step fun char => flags.dotAll || char != '\n').bind continuation
  | .set negated members, place, continuation =>
      (place.step fun char =>
        (members.any fun member => member.contains flags char) != negated).bind continuation
  | .anchor anchor, place, continuation =>
      if place.holds flags anchor then continuation place else none
  | .group number added removed body, place, continuation =>
      runSequence (flags.refine added removed) body place fun next =>
        match number with
        | some group => continuation (next.capture group place)
        | none => continuation next
  | .atomic body, place, continuation =>
      (runSequence flags body place some).bind continuation
  | .repetition greed least most body, place, continuation =>
      let rounds := least + place.after.length + 2
      match greed with
      | .possessive =>
          (repeatPossessively least most (runSequence flags body) rounds 0 none place).bind
            continuation
      | _ =>
          repeatRounds greed least most (runSequence flags body) rounds 0 none place continuation
  | .ahead negated body, place, continuation =>
      match runSequence flags body place some with
      | some found =>
          if negated then none else continuation { place with captures := found.captures }
      | none => if negated then continuation place else none
  | .behind negated width body, place, continuation =>
      match (place.back width).bind fun earlier => runSequence flags body earlier some with
      | some found =>
          if negated then none else continuation { place with captures := found.captures }
      | none => if negated then continuation place else none
  | .reference group, place, continuation =>
      match place.captures.lookup group with
      | some chars => (Place.follow flags chars place).bind continuation
      | none => none
  | .conditional group present absent, place, continuation =>
      if (place.captures.lookup group).isSome then runSequence flags present place continuation
      else runSequence flags absent place continuation
  | .choice options, place, continuation => runOptions flags options place continuation

/-- Matches items after each other. -/
def runSequence (flags : Flags) : List Item → Matcher
  | [], place, continuation => continuation place
  | item :: items, place, continuation =>
      item.run flags place fun next => runSequence flags items next continuation

/-- Matches the first of several bodies that can be matched. -/
def runOptions (flags : Flags) : List (List Item) → Matcher
  | [], _, _ => none
  | option :: options, place, continuation =>
      match runSequence flags option place continuation with
      | some found => some found
      | none => runOptions flags options place continuation

end

/-- Tries to match at a place and at all places after it. -/
def searchFrom (pattern : Pattern) (before : List Char) (position : Nat) : List Char → Bool
  | [] => (runSequence pattern.flags pattern.items ⟨before, [], position, []⟩ some).isSome
  | char :: rest =>
      (runSequence pattern.flags pattern.items ⟨before, char :: rest, position, []⟩ some).isSome ||
        searchFrom pattern (char :: before) (position + 1) rest

/-- Whether a pattern is found somewhere in a text. -/
def isFoundIn (pattern : Pattern) (content : String) : Bool :=
  pattern.searchFrom [] 0 content.toList

end Pattern
end RoutineGate
