/-!
# Text patterns

A pattern is a sequence of items: characters, classes, positions, groups, repetitions,
references to groups, conditions and assertions on what surrounds a place.
-/

namespace RoutineGate
namespace Pattern

/-- How characters and places are compared. -/
structure Flags where
  /-- Whether letters match in either case. -/
  ignoreCase : Bool := false
  /-- Whether the positions of line starts and ends match inside the text. -/
  multiline : Bool := false
  /-- Whether the dot matches a line feed. -/
  dotAll : Bool := false
  /-- Whether blanks and comments in the pattern are skipped. -/
  verbose : Bool := false
  /-- Whether classes and cases know ASCII only. -/
  ascii : Bool := false
  /-- Whether all of Unicode is asked for. -/
  unicode : Bool := false
  /-- Whether repetitions are refused. -/
  template : Bool := false
  deriving DecidableEq, Repr, Inhabited

namespace Flags

/-- The flags that are set in either operand. -/
def union (left right : Flags) : Flags :=
  { ignoreCase := left.ignoreCase || right.ignoreCase
    multiline := left.multiline || right.multiline
    dotAll := left.dotAll || right.dotAll
    verbose := left.verbose || right.verbose
    ascii := left.ascii || right.ascii
    unicode := left.unicode || right.unicode
    template := left.template || right.template }

/-- The flags that are set in the first operand and not in the second. -/
def without (left right : Flags) : Flags :=
  { ignoreCase := left.ignoreCase && !right.ignoreCase
    multiline := left.multiline && !right.multiline
    dotAll := left.dotAll && !right.dotAll
    verbose := left.verbose && !right.verbose
    ascii := left.ascii && !right.ascii
    unicode := left.unicode && !right.unicode
    template := left.template && !right.template }

/-- Whether no flag is set. -/
def isEmpty (flags : Flags) : Bool :=
  flags = {}

/-- The flags inside a group that sets some and clears others. -/
def refine (flags added removed : Flags) : Flags :=
  let base :=
    if added.ascii || added.unicode then { flags with ascii := false, unicode := false } else flags
  (base.union added).without removed

@[simp] theorem union_empty (flags : Flags) : flags.union {} = flags := by
  simp [union]

@[simp] theorem without_empty (flags : Flags) : flags.without {} = flags := by
  simp [without]

end Flags

/-- Classes of characters. -/
inductive Category where
  | digit
  | blank
  /-- Letters, numbers and the low line. -/
  | word
  deriving DecidableEq, Repr

/-- A member of a character set, by code points. -/
inductive SetItem where
  /-- One code point. -/
  | single (code : Nat)
  /-- All code points between two, inclusive. -/
  | range (first last : Nat)
  /-- The characters of a class, or those outside of it. -/
  | category (category : Category) (negated : Bool)
  deriving DecidableEq, Repr

/-- Places between characters. -/
inductive Anchor where
  /-- The start of the text or, with multiple lines, of a line. -/
  | lineStart
  /-- The end of the text or before its last line feed or, with multiple lines, of a line. -/
  | lineEnd
  /-- The start of the text. -/
  | textStart
  /-- The end of the text. -/
  | textEnd
  /-- Between a word character and another one. -/
  | wordBoundary
  /-- Between two characters that are both word characters or both are not. -/
  | insideWord
  deriving DecidableEq, Repr

/-- How a repetition chooses the number of rounds. -/
inductive Greed where
  /-- As many as possible. -/
  | greedy
  /-- As few as possible. -/
  | reluctant
  /-- As many as possible, once and for all. -/
  | possessive
  deriving DecidableEq, Repr

def Greed.name : Greed → String
  | .greedy => "MAX_REPEAT"
  | .reluctant => "MIN_REPEAT"
  | .possessive => "POSSESSIVE_REPEAT"

/-- One item of a pattern. -/
inductive Item where
  /-- One code point. -/
  | literal (code : Nat)
  /-- Any character but one. -/
  | other (code : Nat)
  /-- Any character. -/
  | dot
  /-- A character in a set, or outside of it. -/
  | set (negated : Bool) (members : List SetItem)
  /-- A place. -/
  | anchor (anchor : Anchor)
  /-- A group, with its number if it captures, and the flags it sets and clears. -/
  | group (number : Option Nat) (added removed : Flags) (body : List Item)
  /-- A group that is matched once and for all. -/
  | atomic (body : List Item)
  /-- Rounds of a body, at least `least` and at most `most`. -/
  | repetition (greed : Greed) (least : Nat) (most : Option Nat) (body : List Item)
  /-- A condition on what follows. -/
  | ahead (negated : Bool) (body : List Item)
  /-- A condition on the characters just before, as many as given. -/
  | behind (negated : Bool) (width : Nat) (body : List Item)
  /-- The text that a group captured. -/
  | reference (group : Nat)
  /-- One of two bodies, as a group has captured or not. -/
  | conditional (group : Nat) (present absent : List Item)
  /-- One of several bodies. -/
  | choice (options : List (List Item))

/-- The least and the greatest number of characters that something matches. -/
structure Width where
  least : Nat
  /-- The greatest number, up to a bound. -/
  most : Nat
  deriving DecidableEq, Repr

namespace Width

def bound : Nat := 0x10000000000000000

/-- The width of nothing. -/
def none : Width := ⟨0, 0⟩

/-- The width of one character. -/
def one : Width := ⟨1, 1⟩

/-- The width of two things after each other. -/
def append (left right : Width) : Width :=
  ⟨left.least + right.least, left.most + right.most⟩

/-- The width of either of two things. -/
def either (left right : Width) : Width :=
  ⟨min left.least right.least, max left.most right.most⟩

/-- A width with both numbers kept within the bound. -/
def clip (width : Width) : Width :=
  ⟨min width.least bound, min width.most bound⟩

/-- The width of repeated rounds. -/
def rounds (width : Width) (least : Nat) (most : Option Nat) : Width :=
  match most with
  | some most => ⟨width.least * least, width.most * most⟩
  | .none => ⟨width.least * least, if width.most = 0 then 0 else bound⟩

end Width

mutual

/-- The width of an item, given the widths of the groups before it. -/
def Item.width (groups : List (Option Width)) : Item → Width
  | .literal _ => .one
  | .other _ => .one
  | .dot => .one
  | .set .. => .one
  | .anchor _ => .none
  | .group _ _ _ body => sequenceWidth groups body
  | .atomic body => sequenceWidth groups body
  | .repetition _ least most body => (sequenceWidth groups body).rounds least most
  | .ahead .. => .none
  | .behind .. => .none
  | .reference group => ((groups[group - 1]?).join).getD .none
  | .conditional _ present absent =>
      (sequenceWidth groups present).either (sequenceWidth groups absent)
  | .choice options =>
      match options with
      | [] => .none
      | option :: rest => optionsWidth groups (sequenceWidth groups option) rest

/-- The width of items after each other. -/
def sequenceWidth (groups : List (Option Width)) : List Item → Width
  | [] => .none
  | item :: items => ((item.width groups).append (sequenceWidth groups items)).clip

/-- The width of one of several bodies, beyond those seen already. -/
def optionsWidth (groups : List (Option Width)) (seen : Width) : List (List Item) → Width
  | [] => seen
  | option :: options =>
      optionsWidth groups (seen.either (sequenceWidth groups option)) options

end

end Pattern

/-- A pattern: the text it was read from, its items and the flags for all of them. -/
structure Pattern where
  source : String
  /-- The flags that hold outside of groups that change them. -/
  flags : Pattern.Flags
  items : List Pattern.Item

end RoutineGate
