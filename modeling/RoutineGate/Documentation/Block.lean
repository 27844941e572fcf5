import RoutineGate.Text.Blank
import RoutineGate.Text.Lines

/-!
# Documentation blocks

A block opens with a slash and two stars, unless another slash follows, and ends before
the next star and slash.  The lines of a block may start with a star as a gutter, which
does not belong to them.
-/

namespace RoutineGate
namespace Documentation

/--
Collects the blocks of a text.  Within a block `body` holds the characters that are read,
in reverse.  A block that is not closed is left out.
-/
def collectBlocks (body : Option (List Char)) : List Char → List (List Char)
  | '/' :: '*' :: '*' :: rest =>
      match body with
      | none =>
          if rest.head? = some '/' then collectBlocks none rest
          else collectBlocks (some []) rest
      | some read => collectBlocks (some ('/' :: read)) ('*' :: '*' :: rest)
  | '*' :: '/' :: rest =>
      match body with
      | none => collectBlocks none ('/' :: rest)
      | some read => read.reverse :: collectBlocks none rest
  | char :: rest => collectBlocks (body.map (char :: ·)) rest
  | [] => []

/-- The blocks of a text, without their marks. -/
def blocks (chars : List Char) : List (List Char) :=
  collectBlocks none chars

/-- How often a text has the mark that opens a block. -/
def countOpenings : List Char → Nat
  | '/' :: '*' :: '*' :: rest =>
      (if rest.head? = some '/' then 0 else 1) + countOpenings rest
  | _ :: rest => countOpenings rest
  | [] => 0

/-- Removes a gutter from a line: blanks, a star that no slash follows, and a space. -/
def stripGutter (line : List Char) : List Char :=
  match Text.trimStart line with
  | '*' :: ' ' :: rest => rest
  | '*' :: '/' :: _ => line
  | '*' :: rest => rest
  | _ => line

/-- The lines of a block without gutters and without blanks at their ends. -/
def contentLines (block : List Char) : List (List Char) :=
  (Text.lines block).map fun line => Text.trimEnd (stripGutter line)

end Documentation
end RoutineGate
