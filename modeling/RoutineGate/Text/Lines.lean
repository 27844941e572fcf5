/-!
# Lines of a text

A line ends at a line feed, a carriage return, the pair of both, a vertical tab,
a form feed, one of the three information separators, the next-line character, or
one of the two Unicode separators.  The end of the text ends the last line unless
that line is empty.
-/

namespace RoutineGate
namespace Text

/-- Whether a character ends a line. -/
def isLineEnd (char : Char) : Bool :=
  let code := char.toNat
  (0xA ≤ code && code ≤ 0xD) || (0x1C ≤ code && code ≤ 0x1E) || code == 0x85 ||
    code == 0x2028 || code == 0x2029

/--
Collects the lines of a text.  `line` holds the characters of the current line
in reverse.
-/
def linesFrom (line : List Char) : List Char → List (List Char)
  | [] => if line.isEmpty then [] else [line.reverse]
  | '\r' :: '\n' :: rest => line.reverse :: linesFrom [] rest
  | char :: rest =>
      if isLineEnd char then line.reverse :: linesFrom [] rest
      else linesFrom (char :: line) rest

/-- The lines of a text, without their ends. -/
def lines (chars : List Char) : List (List Char) :=
  linesFrom [] chars

end Text
end RoutineGate
