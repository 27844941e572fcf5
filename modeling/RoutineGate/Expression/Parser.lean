import RoutineGate.Expression.Basic
import RoutineGate.Expression.Token

/-!
# Reading expressions from tokens

An expression is a primary followed by attributes and calls.  How deep expressions
may be nested in one another is what the recursion runs over; what repeats at one
level is bounded by the number of tokens left.
-/

namespace RoutineGate
namespace Expression

/-- Reads something from the front of tokens, and gives what is left. -/
abbrev Parse (Result : Type) :=
  List Token → Except Error (Result × List Token)

namespace Parse

/-- The next token; the end is never passed. -/
def peek : List Token → Token
  | [] => ⟨.finish, 0⟩
  | token :: _ => token

/-- The tokens after the next one; the end is never passed. -/
def advance : List Token → List Token
  | [] => []
  | token :: rest => if token.symbol = .finish then token :: rest else rest

/-- The tokens after a mark, if that is what comes next. -/
def accept? (mark : Char) (tokens : List Token) : Option (List Token) :=
  if (peek tokens).symbol = .mark mark then some (advance tokens) else none

/-- The tokens after a mark that has to come next. -/
def expect (mark : Char) (tokens : List Token) : Except Error (List Token) :=
  let token := peek tokens
  if token.symbol = .mark mark then .ok (advance tokens)
  else .error (.located (.expected mark token.symbol.display) token.position)

/--
Reads items separated by commas up to a closing mark; a comma may stand before the
closing mark too.
-/
def sequence (item : Parse Expression) (closing : Char) : Nat → Parse (List Expression)
  | 0, tokens => .error (.located (.unexpected (peek tokens).symbol.display) (peek tokens).position)
  | steps + 1, tokens =>
      match accept? closing tokens with
      | some rest => .ok ([], rest)
      | none => do
          let (first, rest) ← item tokens
          match accept? ',' rest with
          | some rest =>
              let (items, rest) ← sequence item closing steps rest
              return (first :: items, rest)
          | none => return ([first], ← expect closing rest)

/-- The name or text that a key is. -/
def key? : Symbol → Option String
  | .name word => some word
  | .text content => some content
  | _ => none

/--
Reads keys with their expressions up to a closing brace; a comma may stand before the
closing brace too.
-/
def entries (item : Parse Expression) : Nat → Parse (List (String × Expression))
  | 0, tokens => .error (.located (.unexpected (peek tokens).symbol.display) (peek tokens).position)
  | steps + 1, tokens =>
      match accept? '\x7d' tokens with
      | some rest => .ok ([], rest)
      | none => do
          let token := peek tokens
          let some key := key? token.symbol | throw (.located .keyExpected token.position)
          let rest ← expect ':' (advance tokens)
          let (value, rest) ← item rest
          match accept? ',' rest with
          | some rest =>
              let (entries, rest) ← entries item steps rest
              return ((key, value) :: entries, rest)
          | none => return ([(key, value)], ← expect '\x7d' rest)

/-- A numeral with the opposite sign. -/
def negate : Numeral → Numeral
  | .int value => .int (-value)
  | .float value => .float value.negate

/-- Reads what attributes and calls may follow. -/
def primary (item : Parse Expression) : Parse Expression := fun tokens =>
  let token := peek tokens
  let rest := advance tokens
  match token.symbol with
  | .number numeral => .ok (.number numeral token.position, rest)
  | .text content => .ok (.text content token.position, rest)
  | .pattern source => .ok (.text source token.position, rest)
  | .name word => .ok (.identifier word token.position, rest)
  | .mark '-' =>
      let operand := peek rest
      match operand.symbol with
      | .number numeral => .ok (.number (negate numeral) token.position, advance rest)
      | _ => .error (.located .numberExpected operand.position)
  | .mark '(' => do
      let (inner, rest) ← item rest
      return (inner, ← expect ')' rest)
  | .mark '[' => do
      let (items, rest) ← sequence item ']' (rest.length + 1) rest
      return (.list items token.position, rest)
  | .mark '\x7b' => do
      let (entries, rest) ← entries item (rest.length + 1) rest
      return (.record entries token.position, rest)
  | symbol => .error (.located (.unexpected symbol.display) token.position)

/-- Reads the attributes and calls after an expression. -/
def suffixes (item : Parse Expression) : Nat → Expression → Parse Expression
  | 0, target, tokens => .ok (target, tokens)
  | steps + 1, target, tokens =>
      let token := peek tokens
      match token.symbol with
      | .mark '.' =>
          let operand := peek (advance tokens)
          match operand.symbol with
          | .name word =>
              suffixes item steps (.attribute target word operand.position)
                (advance (advance tokens))
          | _ => .error (.located .nameExpected operand.position)
      | .mark '(' => do
          let (arguments, rest) ← sequence item ')' (tokens.length + 1) (advance tokens)
          suffixes item steps (.call target arguments token.position) rest
      | _ => .ok (target, tokens)

/-- Reads an expression with at most so many expressions nested in one another. -/
def expression : Nat → Parse Expression
  | 0, tokens => .error (.located .deepNesting (peek tokens).position)
  | levels + 1, tokens => do
      let (target, rest) ← primary (expression levels) tokens
      suffixes (expression levels) (rest.length + 1) target rest

end Parse

/-- The expression that tokens write, all of them. -/
def ofTokens (tokens : List Token) : Except Error Expression := do
  let (expression, rest) ← Parse.expression maxNesting tokens
  let token := Parse.peek rest
  if token.symbol = .finish then return expression
  else throw (.located (.unexpected token.symbol.display) token.position)

end Expression
end RoutineGate
