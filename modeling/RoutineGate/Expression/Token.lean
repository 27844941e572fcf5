import RoutineGate.Expression.Error
import RoutineGate.Number.Shortest
import RoutineGate.Pattern.Reader
import RoutineGate.Schema.Basic
import RoutineGate.Text.Blank

/-!
# Tokens of schema expressions

An expression consists of numbers, texts in either kind of quotes, pattern literals
between slashes, names and marks, with blanks anywhere between them.  The token at a
place is the first of these kinds that matches there, and it is as long as possible.
-/

namespace RoutineGate
namespace Expression

/-- What a token is. -/
inductive Symbol where
  | number (value : Numeral)
  /-- A text, without quotes and escapes. -/
  | text (content : String)
  /-- The source of a pattern, with its flags. -/
  | pattern (source : String)
  | name (name : String)
  | mark (char : Char)
  | finish
  deriving DecidableEq, Repr

/-- A symbol with its position. -/
structure Token where
  symbol : Symbol
  /-- The position of its first character. -/
  position : Nat
  deriving DecidableEq, Repr

namespace Symbol

/-- A symbol in a message. -/
def display : Symbol → String
  | .number (.int value) => toString value
  | .number (.float value) => value.text
  | .text content => Text.quoted content
  | .pattern source => Text.quoted source
  | .name content => Text.quoted content
  | .mark char => Text.quoted (String.singleton char)
  | .finish => "end of expression"

end Symbol

namespace Token

/-- Whether a character may start a name. -/
def isNameStart (char : Char) : Bool :=
  ('a' ≤ char && char ≤ 'z') || ('A' ≤ char && char ≤ 'Z') || char = '_' || char = '$'

/-- Whether a character may continue a name. -/
def isNamePart (char : Char) : Bool :=
  Text.isWordChar char || char = '$'

/-- Whether a character is a mark. -/
def isMark (char : Char) : Bool :=
  ['.', '(', ')', '[', ']', '\x7b', '\x7d', ',', ':', '-'].contains char

/-- Whether a character is a flag letter or may be taken for one. -/
def isFlagLetter (char : Char) : Bool :=
  'a' ≤ char && char ≤ 'z'

/-- How many characters at the start pass a test. -/
def runLength (test : Char → Bool) : List Char → Nat
  | [] => 0
  | char :: rest => if test char then runLength test rest + 1 else 0

/-- The length of a point and the digits after it, or nothing. -/
def fractionLength : List Char → Nat
  | '.' :: rest =>
      match runLength Text.isDecimal rest with
      | 0 => 0
      | count + 1 => count + 2
  | _ => 0

/-- The length of an exponent, or nothing. -/
def exponentLength : List Char → Nat
  | mark :: rest =>
      if mark = 'e' ∨ mark = 'E' then
        let signLength :=
          match rest with
          | '+' :: _ => 1
          | '-' :: _ => 1
          | _ => 0
        match runLength Text.isDecimal (rest.drop signLength) with
        | 0 => 0
        | count + 1 => count + 2 + signLength
      else 0
  | [] => 0

/-- The length of a number, given that a digit comes first. -/
def numberLength (chars : List Char) : Nat :=
  let whole := runLength Text.isDecimal chars
  let fraction := fractionLength (chars.drop whole)
  whole + fraction + exponentLength (chars.drop (whole + fraction))

/-- The length of a text after its opening quote, with the closing one. -/
def textLength? (quote : Char) : List Char → Option Nat
  | [] => none
  | '\\' :: char :: rest =>
      if char = '\n' then none else (textLength? quote rest).map (· + 2)
  | char :: rest =>
      if char = quote then some 1
      else if char = '\\' then none
      else (textLength? quote rest).map (· + 1)

/-- The length of a pattern after its opening slash, with the closing one. -/
def patternLength? (isEmpty : Bool) : List Char → Option Nat
  | [] => none
  | '\\' :: char :: rest =>
      if char = '\n' then none else (patternLength? false rest).map (· + 2)
  | char :: rest =>
      if char = '/' then (if isEmpty then none else some 1)
      else if char = '\\' || char = '\n' then none
      else (patternLength? false rest).map (· + 1)

/-- The kinds of what can stand at a place. -/
inductive Kind where
  | blank
  | number
  | text
  /-- A pattern with so many characters between the slashes. -/
  | pattern (bodyLength : Nat)
  | name
  | mark
  deriving DecidableEq, Repr

/-- The kind and the length of what stands at the start of a text. -/
def kindAt? : List Char → Option (Kind × Nat)
  | [] => none
  | char :: rest =>
      if Text.isBlank char then some (.blank, runLength Text.isBlank rest + 1)
      else if Text.isDecimal char then some (.number, numberLength (char :: rest))
      else if char = '\'' || char = '"' then
        (textLength? char rest).map fun length => (.text, length + 1)
      else if char = '/' then
        (patternLength? true rest).map fun length =>
          (.pattern (length - 1), length + 1 + runLength isFlagLetter (rest.drop length))
      else if isNameStart char then some (.name, runLength isNamePart rest + 1)
      else if isMark char then some (.mark, 1)
      else none

/-- The character that an escape in a text stands for. -/
def escaped? : Char → Option Char
  | 'n' => some '\n'
  | 't' => some '\t'
  | 'r' => some '\r'
  | '\\' => some '\\'
  | '\'' => some '\''
  | '"' => some '"'
  | '/' => some '/'
  | _ => none

/-- Resolves the escapes of a text whose first character has a position. -/
def unescape (position : Nat) : List Char → Except Error (List Char)
  | '\\' :: char :: rest =>
      match escaped? char with
      | none => .error (.located (.unsupportedEscape char) (position + 1))
      | some meaning => (unescape (position + 2) rest).map (meaning :: ·)
  | char :: rest => (unescape (position + 1) rest).map (char :: ·)
  | [] => .ok []

/-- The flags that a pattern literal may have. -/
def patternFlags : List Char := ['i', 'm', 's']

/-- The different letters of a text, sorted. -/
def sortedLetters (letters : List Char) : List Char :=
  letters.eraseDups.mergeSort fun left right => left ≤ right

/-- The error for a pattern that cannot be read, at the position of its literal. -/
def patternError (source : String) (position : Nat) : Pattern.Error → Error
  | .largeRepetition => .fault .largeRepetition
  | .integer error => .fault (.integer error)
  | .exclusiveFlags => .fault .exclusiveFlags
  | error => .located (.invalidPattern (error.message source)) position

/-- A pattern that starts with the flags that apply to all of it. -/
def flagged (body flags : List Char) : String :=
  let opening := if flags.isEmpty then [] else '(' :: '?' :: sortedLetters flags ++ [')']
  String.ofList (opening ++ body)

/-- The source of a pattern literal with the given body and flags. -/
def patternSource (characters : Text.CharacterNames) (position : Nat) (body flags : List Char) :
    Except Error String := do
  let unknown := flags.filter fun flag => !patternFlags.contains flag
  if !unknown.isEmpty then
    throw (.located (.unsupportedFlags (String.ofList (sortedLetters unknown))) position)
  let source := flagged body flags
  match Pattern.read source characters with
  | .ok _ => return source
  | .error error => throw (patternError source position error)

/-- The number that a literal writes. -/
def numeral (chars : List Char) : Except Error Numeral :=
  let content := String.ofList chars
  if chars.any fun char => char = '.' || char = 'e' || char = 'E' then
    .ok (.float ((Number.readFloat? content).getD .undefined))
  else
    match Number.readInteger content with
    | .ok whole => .ok (.int whole)
    | .error error => .error (.fault (.integer error))

/-- The symbol that characters of a kind write, if it is not a blank. -/
def symbolOf (characters : Text.CharacterNames) (kind : Kind) (position : Nat)
    (chars : List Char) : Except Error (Option Symbol) := do
  match kind with
  | .blank => return none
  | .number => return some (.number (← numeral chars))
  | .text =>
      let body := chars.tail.dropLast
      return some (.text (String.ofList (← unescape position body)))
  | .pattern bodyLength =>
      let body := chars.tail.take bodyLength
      let flags := chars.drop (bodyLength + 2)
      return some (.pattern (← patternSource characters position body flags))
  | .name => return some (.name (String.ofList chars))
  | .mark => return chars.head?.map .mark

/-- The tokens of a text from a position on; at most so many are read. -/
def scanFrom (characters : Text.CharacterNames) (position : Nat) (chars : List Char) :
    Nat → Except Error (List Token)
  | 0 => .ok [⟨.finish, position⟩]
  | steps + 1 =>
      match chars with
      | [] => .ok [⟨.finish, position⟩]
      | char :: _ =>
          match kindAt? chars with
          | none => .error (.located (.unexpectedCharacter char) position)
          | some (kind, length) => do
              let symbol ← symbolOf characters kind position (chars.take length)
              let tokens ← scanFrom characters (position + length) (chars.drop length) steps
              return (symbol.map fun symbol => ⟨symbol, position⟩).toList ++ tokens

/-- The tokens of an expression, the last of them its end. -/
def scan (source : String) (characters : Text.CharacterNames := .ascii) :
    Except Error (List Token) :=
  let chars := source.toList
  scanFrom characters 0 chars (chars.length + 1)

end Token
end Expression
end RoutineGate
