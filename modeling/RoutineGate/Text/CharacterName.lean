/-!
# Names of characters

Characters have names, which are written in letters of either case.  The names of all
characters are more than a table here could hold, so what reads a name takes the look-up
that it uses.  The names of the printable ASCII characters serve where none is given.
-/

namespace RoutineGate
namespace Text

/-- The characters that names stand for. -/
structure CharacterNames where
  character? : String → Option Char

namespace CharacterNames

/-- The names of the ASCII characters that are neither letters nor controls. -/
def asciiMarks : List (String × Char) :=
  [("SPACE", ' '), ("EXCLAMATION MARK", '!'), ("QUOTATION MARK", '"'), ("NUMBER SIGN", '#'),
   ("DOLLAR SIGN", '$'), ("PERCENT SIGN", '%'), ("AMPERSAND", '&'), ("APOSTROPHE", '\''),
   ("LEFT PARENTHESIS", '('), ("RIGHT PARENTHESIS", ')'), ("ASTERISK", '*'), ("PLUS SIGN", '+'),
   ("COMMA", ','), ("HYPHEN-MINUS", '-'), ("FULL STOP", '.'), ("SOLIDUS", '/'),
   ("DIGIT ZERO", '0'), ("DIGIT ONE", '1'), ("DIGIT TWO", '2'), ("DIGIT THREE", '3'),
   ("DIGIT FOUR", '4'), ("DIGIT FIVE", '5'), ("DIGIT SIX", '6'), ("DIGIT SEVEN", '7'),
   ("DIGIT EIGHT", '8'), ("DIGIT NINE", '9'), ("COLON", ':'), ("SEMICOLON", ';'),
   ("LESS-THAN SIGN", '<'), ("EQUALS SIGN", '='), ("GREATER-THAN SIGN", '>'),
   ("QUESTION MARK", '?'), ("COMMERCIAL AT", '@'), ("LEFT SQUARE BRACKET", '['),
   ("REVERSE SOLIDUS", '\\'), ("RIGHT SQUARE BRACKET", ']'), ("CIRCUMFLEX ACCENT", '^'),
   ("LOW LINE", '_'), ("GRAVE ACCENT", '\x60'), ("LEFT CURLY BRACKET", '\x7b'),
   ("VERTICAL LINE", '|'), ("RIGHT CURLY BRACKET", '\x7d'), ("TILDE", '~')]

/-- The names of the ASCII letters. -/
def asciiLetters : List (String × Char) :=
  (List.range 26).flatMap fun index =>
    let capital := Char.ofNat ('A'.toNat + index)
    [("LATIN CAPITAL LETTER " ++ String.singleton capital, capital),
      ("LATIN SMALL LETTER " ++ String.singleton capital, capital.toLower)]

/-- The names of the printable ASCII characters. -/
def ascii : CharacterNames where
  character? name := (asciiMarks ++ asciiLetters).lookup (name.map Char.toUpper)

end CharacterNames
end Text
end RoutineGate
