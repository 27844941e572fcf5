import RoutineGate.Documentation.Block
import RoutineGate.Text.Split
import RoutineGate.Text.WordChar

/-!
# Tags

A line of a block that starts with an at sign starts a tag, which runs until the next
such line.  A tag has a word, a type in braces, a name and a description; the last three
may be empty, but for the tags that the library knows the name may not.
-/

namespace RoutineGate
namespace Documentation

/-- A tag as it is written. -/
structure Tag where
  /-- The word after the at sign. -/
  word : String
  /-- The text in braces. -/
  type : String
  /-- The first word after the type. -/
  name : String
  /-- All that follows the name. -/
  description : String
  deriving DecidableEq, Repr

/-- Why documentation cannot be read. -/
inductive Problem where
  /-- A block is not closed. -/
  | unterminated
  /-- A tag of so many characters has no word. -/
  | malformed (length : Nat)
  /-- The type of a tag is not closed. -/
  | unclosedType (word : String)
  /-- A tag has no name. -/
  | missingName (word : String)
  deriving DecidableEq, Repr

namespace Problem

def message : Problem → String
  | .unterminated => "unterminated documentation comment"
  | .malformed length => s!"malformed tag ({length} chars)"
  | .unclosedType word => "unclosed type braces on @" ++ word
  | .missingName word => "@" ++ word ++ " is missing a name"

end Problem

/-- The tag that binds a parameter. -/
def paramWord : String := "param"

/-- The tag that adds a guard. -/
def guardWord : String := "guard"

/-- The tag that adds hooks. -/
def hooksWord : String := "hooks"

/-- The words of the tags that need a name. -/
def namedWords : List String := [paramWord, guardWord, hooksWord]

/--
Groups lines into those of one tag each.  Lines before the first tag are left out.
-/
def groupLines : List (List Char) → List (List (List Char))
  | [] => []
  | line :: lines =>
      let start := Text.trimStart line
      let follows (other : List Char) : Bool := (Text.trimStart other).head? != some '@'
      if start.head? = some '@' then (start :: lines.takeWhile follows) :: groupLines lines
      else groupLines lines

/-- The text of a tag from its lines. -/
def tagSource (lines : List (List Char)) : List Char :=
  Text.trim (Text.joinWith ['\n'] lines)

/-- Whether a character may stand in the word of a tag. -/
def isTagChar (char : Char) : Bool :=
  Text.isWordChar char || char = '-'

/-- Splits a type in braces from a text that starts with one; the type holds no braces. -/
def takeType (word : String) (chars : List Char) : Except Problem (List Char × List Char) :=
  match chars with
  | '\x7b' :: rest =>
      let isPlain (char : Char) : Bool := char != '\x7b' && char != '\x7d'
      match rest.dropWhile isPlain with
      | '\x7d' :: after => .ok (Text.trim (rest.takeWhile isPlain), Text.trim after)
      | _ => .error (.unclosedType word)
  | _ => .ok ([], chars)

def readTag (source : List Char) : Except Problem Tag := do
  let content := source.drop 1
  let word := String.ofList (content.takeWhile isTagChar)
  if source.head? ≠ some '@' ∨ word.isEmpty then throw (.malformed source.length)
  let (type, rest) ← takeType word (Text.trim (content.dropWhile isTagChar))
  let (name, description) := Text.firstWord rest
  if namedWords.contains word && name.isEmpty then throw (.missingName word)
  return {
    word
    type := String.ofList type
    name := String.ofList name
    description := String.ofList (Text.trimEnd description)
  }

/-- Reads the tags of a block. -/
def readBlock (block : List Char) : Except Problem (List Tag) :=
  (groupLines (contentLines block)).mapM fun lines => readTag (tagSource lines)

/-- Reads the tags of a definition. -/
def readTags (definition : String) : Except Problem (List Tag) := do
  let chars := definition.toList
  let found := blocks chars
  if found.length ≠ countOpenings chars then throw .unterminated
  return (← found.mapM readBlock).flatten

/-- The tags of a definition; unless reading is strict, documentation with problems has none. -/
def tagsOf (strict : Bool) (definition : Option String) : Except Problem (List Tag) :=
  match readTags (definition.getD "") with
  | .ok tags => .ok tags
  | .error problem => if strict then .error problem else .ok []

/-- Without strictness reading never fails. -/
theorem tagsOf_lenient (definition : Option String) :
    ∃ tags, tagsOf false definition = .ok tags := by
  simp only [tagsOf]
  split
  · exact ⟨_, rfl⟩
  · exact ⟨[], rfl⟩

end Documentation
end RoutineGate
