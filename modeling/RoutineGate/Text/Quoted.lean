import RoutineGate.Text.Printable

/-!
# Quoted texts

A text is quoted with single quotes, or with double quotes if it holds a single
quote and no double quote.  The quote in use, the backslash and every unprintable
character are escaped.
-/

namespace RoutineGate
namespace Text

/-- A number in hexadecimal digits, padded with zeros to a width. -/
def hexadecimal (width number : Nat) : List Char :=
  let digits := Nat.toDigits 16 number
  List.replicate (width - digits.length) '0' ++ digits

/-- A character as it stands between quotes of the given kind. -/
def quoteChar (quote char : Char) : List Char :=
  if char = quote || char = '\\' then ['\\', char]
  else if char = '\n' then ['\\', 'n']
  else if char = '\r' then ['\\', 'r']
  else if char = '\t' then ['\\', 't']
  else if isPrintable char then [char]
  else
    let code := char.toNat
    if code < 0x100 then '\\' :: 'x' :: hexadecimal 2 code
    else if code < 0x10000 then '\\' :: 'u' :: hexadecimal 4 code
    else '\\' :: 'U' :: hexadecimal 8 code

/-- The kind of quote that a text is written with. -/
def quoteFor (chars : List Char) : Char :=
  if chars.contains '\'' && !chars.contains '"' then '"' else '\''

/-- A text in quotes, with escapes. -/
def quoted (content : String) : String :=
  let chars := content.toList
  let quote := quoteFor chars
  String.ofList (quote :: chars.flatMap (quoteChar quote) ++ [quote])

end Text
end RoutineGate
