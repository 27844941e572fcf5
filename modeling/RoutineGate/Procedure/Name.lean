import RoutineGate.Text.LetterCase
import RoutineGate.Text.Split
import RoutineGate.Text.WordChar

/-!
# Procedure names

The name of a procedure says how it is served: after a prefix follow a method, a low line
and the path.  Two low lines separate segments, a single one is a hyphen, and a word
between two dots is a parameter.
-/

namespace RoutineGate

/-- A method of a request. -/
inductive Method where
  /-- Reads a resource. -/
  | get
  /-- Adds a resource. -/
  | post
  /-- Replaces a resource. -/
  | put
  /-- Changes a resource. -/
  | patch
  /-- Removes a resource. -/
  | delete
  /-- Reads the headers of a resource. -/
  | head
  /-- Asks for what is possible. -/
  | options
  deriving DecidableEq, Repr

namespace Method

def name : Method → String
  | .get => "GET"
  | .post => "POST"
  | .put => "PUT"
  | .patch => "PATCH"
  | .delete => "DELETE"
  | .head => "HEAD"
  | .options => "OPTIONS"

def all : List Method :=
  [.get, .post, .put, .patch, .delete, .head, .options]

def ofName? (content : String) : Option Method :=
  all.find? fun method => method.name = content

@[simp] theorem ofName?_name (method : Method) : ofName? method.name = some method := by
  cases method <;> decide

end Method

/-- A part of a path. -/
inductive Segment where
  /-- A fixed text. -/
  | literal (content : String)
  /-- A part that a request chooses. -/
  | parameter (name : String)
  deriving DecidableEq, Repr

namespace Segment

def text : Segment → String
  | .literal content => content
  | .parameter name => ":" ++ name

end Segment

def pathText (segments : List Segment) : String :=
  "/" ++ "/".intercalate (segments.map Segment.text)

/-- The segments of the text of a path. -/
def pathPieces (path : String) : List (List Char) :=
  Text.splitAt '/' path.toList

/-- The names of the parameters in the text of a path, in order. -/
def pathParameters (path : String) : List String :=
  (pathPieces path).filterMap fun piece =>
    match piece with
    | ':' :: name => some (String.ofList name)
    | _ => none

/-- The pattern of a path: each parameter stands in braces. -/
def pathPattern (path : String) : String :=
  String.ofList <| Text.joinWith ['/'] <| (pathPieces path).map fun piece =>
    match piece with
    | ':' :: name => '\x7b' :: name ++ ['\x7d']
    | _ => piece

/-- Why the name of a procedure says no method and path. -/
inductive NameProblem where
  | missingPrefix (start : String)
  | unknownMethod (content : String)
  deriving DecidableEq, Repr

namespace NameProblem

def message : NameProblem → String
  | .missingPrefix start => "name does not start with '" ++ start ++ "'"
  | .unknownMethod content =>
      "'" ++ content ++ "' is not an HTTP method (expected one of: " ++
        ", ".intercalate (Method.all.map Method.name) ++ ")"

end NameProblem

/-- Splits a text at pairs of low lines.  `piece` holds what is read of a piece, in reverse. -/
def splitAtLowLines (piece : List Char) : List Char → List (List Char)
  | '_' :: '_' :: rest => piece.reverse :: splitAtLowLines [] rest
  | char :: rest => splitAtLowLines (char :: piece) rest
  | [] => [piece.reverse]

/-- The literal with some characters, if there are any. -/
def literalOf (chars : List Char) : List Segment :=
  if chars.isEmpty then []
  else [.literal (String.ofList (Text.replaceChar '_' ['-'] chars))]

/-- The word before the next dot, and what follows the dot. -/
def takeParameter? (chars : List Char) : Option (List Char × List Char) :=
  let word := chars.takeWhile Text.isWordChar
  match chars.dropWhile Text.isWordChar with
  | '.' :: rest => if word.isEmpty then none else some (word, rest)
  | _ => none

/-- What follows a parameter is shorter than the text. -/
theorem length_of_takeParameter?
    {chars word after : List Char}
    (taken : takeParameter? chars = some (word, after)) :
    after.length < chars.length := by
  simp only [takeParameter?] at taken
  split at taken
  · next rest found =>
      have shorter : (chars.dropWhile Text.isWordChar).length ≤ chars.length :=
        (List.dropWhile_sublist _).length_le
      rw [found, List.length_cons] at shorter
      split at taken
      · simp at taken
      · obtain ⟨-, rfl⟩ : _ ∧ rest = after := by simpa using taken
        omega
  · simp at taken

/--
The segments of a piece between pairs of low lines.  `literal` holds what is read of a
literal, in reverse.
-/
def pieceSegments (literal : List Char) : List Char → List Segment
  | [] => literalOf literal.reverse
  | char :: rest =>
      if char = '.' then
        match _taken : takeParameter? rest with
        | some (word, after) =>
            literalOf literal.reverse ++
              .parameter (String.ofList word) :: pieceSegments [] after
        | none => pieceSegments (char :: literal) rest
      else pieceSegments (char :: literal) rest
termination_by chars => chars.length
decreasing_by
  · have := length_of_takeParameter? _taken
    simp only [List.length_cons]
    omega
  all_goals simp

/-- The segments of the path in a name. -/
def routeSegments (chars : List Char) : List Segment :=
  (splitAtLowLines [] chars).flatMap (pieceSegments [])

/-- The method and the segments that the name of a procedure says. -/
def parseName (start name : String) : Except NameProblem (Method × List Segment) :=
  if start.toList.isPrefixOf name.toList then
    let (word, route) := Text.partitionAt '_' (name.toList.drop start.toList.length)
    let method := String.ofList word
    match Method.ofName? (Text.upper method) with
    | some known => .ok (known, routeSegments route)
    | none => .error (.unknownMethod method)
  else .error (.missingPrefix start)

end RoutineGate
