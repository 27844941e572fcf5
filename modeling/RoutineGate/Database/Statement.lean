import RoutineGate.Digest.Sha2
import RoutineGate.Fault
import RoutineGate.Text.Split
import RoutineGate.Text.Utf8

/-!
# Statements

A procedure is called by a statement with its quoted name and one placeholder per
argument.  A pattern that selects names by their start takes each of its characters
literally.
-/

namespace RoutineGate
namespace Database

/-- The quote around an identifier. -/
def identifierQuote : Char := '\x60'

/-- An identifier in quotes; a quote inside of it is written twice. -/
def quoteIdentifier (name : List Char) : List Char :=
  identifierQuote ::
    Text.replaceChar identifierQuote [identifierQuote, identifierQuote] name ++
      [identifierQuote]

/-- The placeholder of an argument. -/
def placeholder : String := "%s"

/-- The statement that calls a procedure with some number of arguments. -/
def callStatement (name : String) (count : Nat) : String :=
  "CALL " ++ String.ofList (quoteIdentifier name.toList) ++ "(" ++
    ", ".intercalate (List.replicate count placeholder) ++ ")"

/-- The statement that calls a procedure, unless the number of arguments is negative. -/
def callStatement? (name : String) (count : Int) : Except Fault String :=
  if count < 0 then .error .negativeCount else .ok (callStatement name count.toNat)

/-- What stands for any text in a pattern. -/
def anyText : Char := '%'

/-- What stands for any character in a pattern. -/
def anyChar : Char := '_'

/-- What makes a pattern take the next character literally. -/
def patternEscape : Char := '\\'

/-- A character as a pattern that only this character matches. -/
def literalPattern (char : Char) : List Char :=
  if char = patternEscape ∨ char = anyText ∨ char = anyChar then [patternEscape, char]
  else [char]

/-- Escapes a character wherever it stands. -/
def escapeMark (mark : Char) (chars : List Char) : List Char :=
  Text.replaceChar mark [patternEscape, mark] chars

/--
The pattern of the texts that start in a given way.  The escape itself is escaped first, so
that those of the wild cards stay as they are.
-/
def startPattern (start : List Char) : List Char :=
  escapeMark anyChar (escapeMark anyText (escapeMark patternEscape start)) ++ [anyText]

/-- What may be told about a text without showing it. -/
structure Summary where
  /-- The number of characters. -/
  length : Nat
  /-- The first digits of the digest. -/
  digest : String
  deriving DecidableEq, Repr

/-- How many digits of a digest are told. -/
def toldDigits : Nat := 8

/-- The summary of a text. -/
def summarize (content : String) : Summary where
  length := content.length
  digest :=
    String.ofList <|
      (Digest.hexDigits (Digest.sha256 (Text.encodeUtf8 content.toList))).toList.take toldDigits

/-- Escaping one mark after the other comes to taking each character literally. -/
theorem startPattern_eq_flatMap (start : List Char) :
    startPattern start = start.flatMap literalPattern ++ [anyText] := by
  rw [startPattern]
  congr 1
  induction start with
  | nil => rfl
  | cons char start inductionHypothesis =>
      simp only [escapeMark, Text.replaceChar, List.flatMap_cons, List.flatMap_append] at *
      rw [inductionHypothesis]
      congr 1
      by_cases isEscape : char = patternEscape
      · subst isEscape
        rfl
      · by_cases isText : char = anyText
        · subst isText
          rfl
        · by_cases isChar : char = anyChar
          · subst isChar
            rfl
          · simp [literalPattern, isEscape, isText, isChar]

@[simp] theorem startPattern_nil : startPattern [] = [anyText] := rfl

@[simp] theorem startPattern_cons
    (char : Char)
    (start : List Char) :
    startPattern (char :: start) = literalPattern char ++ startPattern start := by
  simp [startPattern_eq_flatMap]

end Database
end RoutineGate
