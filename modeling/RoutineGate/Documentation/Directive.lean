import RoutineGate.Documentation.Tag

/-!
# Directives

Three kinds of tags direct how a procedure is served: they bind parameters, add guards
and add hooks.  All other tags are inert.
-/

namespace RoutineGate
namespace Documentation

/-- A parameter and where its value comes from. -/
structure ParamDirective where
  /-- The name of the parameter. -/
  name : String
  /-- The key under which a request carries the value. -/
  key : String
  /-- The part of a request that carries the value. -/
  source : String
  /-- The schema expression of the value. -/
  expression : String
  deriving DecidableEq, Repr

/-- A guard with its arguments. -/
structure GuardDirective where
  name : String
  arguments : List String
  deriving DecidableEq, Repr

/-- The hooks of a phase. -/
structure HooksDirective where
  phase : String
  functions : List String
  deriving DecidableEq, Repr

/-- What a tag directs. -/
inductive Directive where
  /-- Binds a parameter. -/
  | param (directive : ParamDirective)
  /-- Adds a guard. -/
  | guard (directive : GuardDirective)
  /-- Adds hooks to a phase. -/
  | hooks (directive : HooksDirective)
  deriving DecidableEq, Repr

namespace Directive

/-- The bound parameter, if there is one. -/
def param? : Directive → Option ParamDirective
  | .param directive => some directive
  | _ => none

/-- The added guard, if there is one. -/
def guard? : Directive → Option GuardDirective
  | .guard directive => some directive
  | _ => none

/-- The added hooks, if there are some. -/
def hooks? : Directive → Option HooksDirective
  | .hooks directive => some directive
  | _ => none

end Directive

/-- Removes a line feed at the end of a text. -/
def dropFinalFeed (chars : List Char) : List Char :=
  if chars.getLast? = some '\n' then chars.dropLast else chars

/--
The name and the key of a parameter: the key follows the name in angle brackets, and
without one the name is the key.
-/
def splitKey (content : String) : String × String :=
  let chars := content.toList
  let name := chars.takeWhile Text.isWordChar
  match dropFinalFeed (chars.dropWhile Text.isWordChar) with
  | '<' :: rest =>
      let key := rest.takeWhile isTagChar
      if !name.isEmpty && !key.isEmpty && rest.dropWhile isTagChar = ['>'] then
        (String.ofList name, String.ofList key)
      else (content, content)
  | _ => (content, content)

/-- The items of a text between commas, without blanks around them; empty ones do not count. -/
def splitList (content : String) : List String :=
  ((Text.splitAt ',' content.toList).map fun piece => String.ofList (Text.trim piece)).filter
    (!·.isEmpty)

/-- Whether a character separates the names of functions. -/
def isListMark (char : Char) : Bool :=
  Text.isBlank char || char = ','

/-- The names in a text between commas and blanks. -/
def splitNames (content : String) : List String :=
  let joined := content.toList.map fun char => if isListMark char then ',' else char
  ((Text.splitAt ',' joined).filter (!·.isEmpty)).map String.ofList

/-- The hooks that a tag adds; the phase is its type, or else its name. -/
def hooksOf (tag : Tag) : HooksDirective :=
  if tag.type.isEmpty then { phase := tag.name, functions := splitNames tag.description }
  else { phase := tag.type, functions := splitNames (tag.name ++ " " ++ tag.description) }

/-- What a tag directs, if anything. -/
def Tag.directive? (tag : Tag) : Option Directive :=
  if tag.word = paramWord then
    let (name, key) := splitKey tag.name
    some (.param { name, key, source := tag.type, expression := tag.description })
  else if tag.word = guardWord then
    some (.guard { name := tag.name, arguments := splitList tag.description })
  else if tag.word = hooksWord then some (.hooks (hooksOf tag))
  else none

/-- What tags direct, in order. -/
def interpret (tags : List Tag) : List Directive :=
  tags.filterMap Tag.directive?

@[simp] theorem interpret_nil : interpret [] = [] := rfl

/-- Tags are interpreted one by one. -/
theorem interpret_append
    (first second : List Tag) :
    interpret (first ++ second) = interpret first ++ interpret second := by
  simp [interpret]

/-- A tag with another word directs nothing. -/
theorem directive?_of_unknown
    {tag : Tag}
    (unknown : tag.word ∉ namedWords) :
    tag.directive? = none := by
  simp only [namedWords, List.mem_cons, List.not_mem_nil, or_false, not_or] at unknown
  simp [Tag.directive?, unknown.1, unknown.2.1, unknown.2.2]

end Documentation
end RoutineGate
