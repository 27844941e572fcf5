import RoutineGate.Text.Hexadecimal
import RoutineGate.Text.Quoted

/-!
# Templates

A template is filled with texts: a percent sign starts a conversion, which asks for the next
text and tells how to write it.  Two percent signs write one.  All texts must be asked for.
-/

namespace RoutineGate
namespace Database

/-- Why a template is not filled. -/
inductive FillError where
  /-- The template ends within a conversion. -/
  | incomplete
  /-- A conversion asks for a text by a name. -/
  | namedText
  /-- A width or a precision is left to a text. -/
  | fieldFromText
  /-- A width or a precision is beyond the largest one. -/
  | fieldTooLarge
  | unsupported (kind : Char)
  | numberExpected (kind : Char)
  | characterExpected
  | missingText
  | unusedText
  deriving DecidableEq, Repr

/-- What a template asks for. -/
structure Conversion where
  alignsLeft : Bool
  width : Nat
  /-- How many characters of the text are written at most. -/
  precision : Option Nat
  /-- The character that ends the conversion and tells how to write the text. -/
  kind : Char
  deriving DecidableEq, Repr

/-- What starts a conversion. -/
def conversionMark : Char := '%'

/-- Whether a character may stand at the start of a conversion. -/
def isFlag (char : Char) : Bool :=
  ['-', '+', ' ', '#', '0'].contains char

/-- Whether a character tells a size, which does not matter. -/
def isSize (char : Char) : Bool :=
  ['h', 'l', 'L'].contains char

def largestWidth : Nat := 0x7FFFFFFFFFFFFFFF

def largestPrecision : Nat := 0x7FFFFFFF

namespace Conversion

/-- Reads a width or a precision; an asterisk leaves it to the next text, if there is one. -/
def readField (largest : Nat) (hasNext : Bool) (chars : List Char) :
    Except FillError (Nat × List Char) :=
  if chars.head? = some '*' then .error (if hasNext then .fieldFromText else .missingText)
  else
    let number := Text.ofDigitChars 10 (chars.takeWhile Char.isDigit)
    if largest < number then .error .fieldTooLarge
    else .ok (number, chars.dropWhile Char.isDigit)

/-- Reads a precision, if there is one. -/
def readPrecision (hasNext : Bool) (chars : List Char) :
    Except FillError (Option Nat × List Char) :=
  if chars.head? = some '.' then
    (readField largestPrecision hasNext chars.tail).map fun (number, rest) => (some number, rest)
  else .ok (none, chars)

/-- Leaves out a size. -/
def skipSize (chars : List Char) : List Char :=
  if chars.head?.any isSize then chars.tail else chars

/-- Reads a conversion after its mark. -/
def read (hasNext : Bool) (chars : List Char) : Except FillError (Conversion × List Char) := do
  if chars.head? = some '(' then throw .namedText
  let (width, rest) ← readField largestWidth hasNext (chars.dropWhile isFlag)
  let (precision, rest) ← readPrecision hasNext rest
  match skipSize rest with
  | [] => throw .incomplete
  | kind :: rest =>
      return ({ alignsLeft := (chars.takeWhile isFlag).contains '-', width, precision, kind }, rest)

/-- The part of a text that the precision leaves. -/
def cut (conversion : Conversion) (content : List Char) : List Char :=
  match conversion.precision with
  | some precision => content.take precision
  | none => content

/-- A text with blanks up to the width. -/
def pad (conversion : Conversion) (content : List Char) : List Char :=
  let blanks := List.replicate (conversion.width - content.length) ' '
  if conversion.alignsLeft then content ++ blanks else blanks ++ content

/-- A character in basic Latin; any other one by its code. -/
def basicLatin (char : Char) : List Char :=
  let code := char.toNat
  if code < 0x80 then [char]
  else if code < 0x100 then '\\' :: 'x' :: Text.hexadecimal 2 code
  else if code < 0x10000 then '\\' :: 'u' :: Text.hexadecimal 4 code
  else '\\' :: 'U' :: Text.hexadecimal 8 code

/-- The kinds of conversions that write numbers. -/
def numberKinds : List Char :=
  ['d', 'i', 'u', 'o', 'x', 'X', 'e', 'E', 'f', 'F', 'g', 'G']

/-- What a conversion writes of a text. -/
def write (conversion : Conversion) (content : List Char) : Except FillError (List Char) :=
  let quoted := (Text.quoted (String.ofList content)).toList
  match conversion.kind with
  | 's' => .ok (conversion.pad (conversion.cut content))
  | 'r' => .ok (conversion.pad (conversion.cut quoted))
  | 'a' => .ok (conversion.pad (conversion.cut (quoted.flatMap basicLatin)))
  | 'c' =>
      match content with
      | [char] => .ok (conversion.pad [char])
      | _ => .error .characterExpected
  | kind =>
      .error (if numberKinds.contains kind then .numberExpected kind else .unsupported kind)

end Conversion

/-- Fills a template with texts. -/
def fill (template : List Char) (texts : List (List Char)) : Except FillError (List Char) :=
  match template with
  | [] => if texts.isEmpty then .ok [] else .error .unusedText
  | char :: rest =>
      if char ≠ conversionMark then (fill rest texts).map (char :: ·)
      else if rest.head? = some conversionMark then
        (fill rest.tail texts).map (conversionMark :: ·)
      else
        match Conversion.read (!texts.isEmpty) rest with
        | .error error => .error error
        | .ok (conversion, after) =>
            match texts with
            | [] => .error .missingText
            | content :: others =>
                match conversion.write content with
                | .error error => .error error
                | .ok written => (fill after others).map (written ++ ·)
termination_by (texts.length, template.length)

end Database
end RoutineGate
