import RoutineGate.Text.Hexadecimal
import RoutineGate.Text.Split
import RoutineGate.Value.Integer

/-!
# Path patterns

A pattern has literal parts and parameters, which stand in braces.  A parameter without a
kind takes one or more characters other than the slash; each parameter takes as much as it
can.
-/

namespace RoutineGate
namespace Http

/-- What a parameter of a pattern can take. -/
inductive ParameterKind where
  /-- Some characters other than the slash. -/
  | segment
  /-- Any characters on one line. -/
  | rest
  /-- Some digits. -/
  | integer
  /-- Some digits, with or without a point and further digits. -/
  | decimal
  /-- Thirty-two hexadecimal digits, with or without the usual hyphens. -/
  | identifier
  deriving DecidableEq, Repr

namespace ParameterKind

def name : ParameterKind → String
  | .segment => "str"
  | .rest => "path"
  | .integer => "int"
  | .decimal => "float"
  | .identifier => "uuid"

def ofName? (content : String) : Option ParameterKind :=
  [ParameterKind.segment, .rest, .integer, .decimal, .identifier].find? fun kind =>
    kind.name = content

/-- Whether a character is one of the ten basic digits. -/
def isBasicDigit (char : Char) : Bool :=
  '0' ≤ char && char ≤ '9'

/-- The numbers from one bound down to another. -/
def downFrom (greatest least : Nat) : List Nat :=
  ((List.range (greatest + 1)).drop least).reverse

/-- How many characters at the start pass a test. -/
def countWhile (test : Char → Bool) (chars : List Char) : Nat :=
  (chars.takeWhile test).length

/-- The number of characters that groups of hexadecimal digits take, with hyphens between. -/
def groupsLength? : List Nat → List Char → Option Nat
  | [], _ => some 0
  | size :: sizes, chars =>
      if (chars.take size).length = size && (chars.take size).all Text.isHexDigit then
        match chars.drop size with
        | '-' :: after =>
            if sizes.isEmpty then some size
            else (groupsLength? sizes after).map (size + 1 + ·)
        | after => (groupsLength? sizes after).map (size + ·)
      else none

/-- The sizes of the groups of an identifier. -/
def groupSizes : List Nat := [8, 4, 4, 4, 12]

/-- How many characters of a text a parameter can take, in order of preference. -/
def lengths (kind : ParameterKind) (chars : List Char) : List Nat :=
  match kind with
  | .segment => downFrom (countWhile (· != '/') chars) 1
  | .rest => downFrom (countWhile (· != '\n') chars) 0
  | .integer => downFrom (countWhile isBasicDigit chars) 1
  | .decimal =>
      let whole := countWhile isBasicDigit chars
      match chars.drop whole with
      | '.' :: fraction =>
          if whole = 0 then []
          else
            (downFrom (countWhile isBasicDigit fraction) 1).map (whole + 1 + ·) ++
              downFrom whole 1
      | _ => downFrom whole 1
  | .identifier => (groupsLength? groupSizes chars).toList

/-- The value of the characters that a parameter takes. -/
def valueOf (kind : ParameterKind) (chars : List Char) : Value :=
  let content := String.ofList chars
  match kind with
  | .integer =>
      match (Value.text content).toInteger with
      | .ok number => .int number
      | .error _ => .text content
  | .decimal => ((Number.readFloat? content).map Value.float).getD (.text content)
  | _ => .text content

end ParameterKind

/-- A part of a pattern. -/
inductive PathPart where
  /-- Fixed characters. -/
  | literal (content : List Char)
  | parameter (name : String) (kind : ParameterKind)
  deriving DecidableEq, Repr

/-- A pattern of paths. -/
abbrev PathPattern := List PathPart

/-- Why a pattern cannot be used. -/
inductive PatternProblem where
  | duplicate (names : List String) (path : String)
  | unknownKind (kind : String)
  deriving DecidableEq, Repr

namespace PatternProblem

def message : PatternProblem → String
  | .duplicate names path =>
      "Duplicated param name" ++ (if names.length > 1 then "s" else "") ++ " " ++
        ", ".intercalate names ++ " at path " ++ path
  | .unknownKind kind => "Unknown path convertor '" ++ kind ++ "'"

end PatternProblem

namespace PathPattern

/-- Whether a character can start the name of a parameter. -/
def isNameStart (char : Char) : Bool :=
  char.isAlpha || char = '_'

/-- Whether a character can continue the name of a parameter. -/
def isNamePart (char : Char) : Bool :=
  char.isAlphanum || char = '_'

/-- The name at the start of a text, and what follows it. -/
def takeName? (chars : List Char) : Option (String × List Char) :=
  match chars.span isNamePart with
  | ([], _) => none
  | (start :: word, rest) =>
      if isNameStart start then some (String.ofList (start :: word), rest) else none

/-- A parameter without its opening brace, its kind if it has one, and what follows it. -/
def takeParameter? (chars : List Char) : Option (String × Option String × List Char) :=
  match takeName? chars with
  | some (name, '\x7d' :: rest) => some (name, none, rest)
  | some (name, ':' :: rest) =>
      match takeName? rest with
      | some (kind, '\x7d' :: rest) => some (name, some kind, rest)
      | _ => none
  | _ => none

/-- Puts characters in front of a pattern. -/
def consLiteral (content : List Char) (parts : PathPattern) : PathPattern :=
  if content.isEmpty then parts else .literal content :: parts

/--
Reads the parts of a pattern.  `literal` holds what is read of a literal part, in reverse,
and `fuel` bounds the number of characters.
-/
def readParts (literal : List Char) : Nat → List Char → Except PatternProblem PathPattern
  | 0, _ => .ok (consLiteral literal.reverse [])
  | _ + 1, [] => .ok (consLiteral literal.reverse [])
  | fuel + 1, char :: rest =>
      if char = '\x7b' then
        match takeParameter? rest with
        | some (name, kindName, after) =>
            match ParameterKind.ofName? (kindName.getD ParameterKind.segment.name) with
            | some kind => do
                let parts ← readParts [] fuel after
                return consLiteral literal.reverse (.parameter name kind :: parts)
            | none => .error (.unknownKind (kindName.getD ""))
        | none => readParts (char :: literal) fuel rest
      else readParts (char :: literal) fuel rest

/-- The names of the parameters of a pattern, in order. -/
def names (parts : PathPattern) : List String :=
  parts.filterMap fun part =>
    match part with
    | .parameter name _ => some name
    | .literal _ => none

/-- The names that occur more than once, sorted. -/
def repeatedNames (names : List String) : List String :=
  (names.eraseDups.filter fun name => 1 < names.count name).mergeSort
    fun left right => left ≤ right

/-- The pattern that a text writes. -/
def ofText (content : String) : Except PatternProblem PathPattern :=
  match readParts [] content.length content.toList with
  | .error problem => .error problem
  | .ok parts =>
      match repeatedNames (names parts) with
      | [] => .ok parts
      | repeated => .error (.duplicate repeated content)

/-- The rest of a text after a start, if it has it. -/
def dropStart? : List Char → List Char → Option (List Char)
  | [], chars => some chars
  | expected :: start, char :: chars =>
      if expected = char then dropStart? start chars else none
  | _ :: _, [] => none

/-- Whether a path may end here: one line end does not count. -/
def isAtEnd : List Char → Bool
  | [] => true
  | [char] => char = '\n'
  | _ => false

def match? : PathPattern → List Char → Option (List (String × Value))
  | [], chars => if isAtEnd chars then some [] else none
  | .literal content :: parts, chars => (dropStart? content chars).bind (match? parts)
  | .parameter name kind :: parts, chars =>
      (kind.lengths chars).findSome? fun length =>
        (match? parts (chars.drop length)).map fun parameters =>
          (name, kind.valueOf (chars.take length)) :: parameters

/-- Exactly the paths that write a literal pattern have it, up to one line end. -/
theorem match?_literal_isSome
    (content chars : List Char) :
    (match? [.literal content] chars).isSome ↔
      chars = content ∨ chars = content ++ ['\n'] := by
  have dropped : ∀ start text : List Char,
      ((dropStart? start text).bind (match? [])).isSome ↔
        text = start ∨ text = start ++ ['\n'] := by
    intro start
    induction start with
    | nil =>
        intro text
        match text with
        | [] => simp [dropStart?, match?, isAtEnd]
        | [char] => by_cases same : char = '\n' <;> simp [dropStart?, match?, isAtEnd, same]
        | _ :: _ :: _ => simp [dropStart?, match?, isAtEnd]
    | cons expected start inductionHypothesis =>
        intro text
        match text with
        | [] => simp [dropStart?]
        | char :: text =>
            by_cases same : expected = char
            · subst same
              simpa [dropStart?] using inductionHypothesis text
            · have different : ¬char = expected := fun equal => same equal.symm
              simp [dropStart?, same, different]
  simpa [match?] using dropped content chars

end PathPattern
end Http
end RoutineGate
