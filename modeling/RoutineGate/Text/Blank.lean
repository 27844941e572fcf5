import RoutineGate.Text.Ranges

/-!
# Blank characters

Blanks are the space separators together with the characters whose
bidirectional class is a paragraph, segment or white space separator.  They are
what trimming removes and what separates words.
-/

namespace RoutineGate
namespace Text

/-- The code points of blank characters. -/
def blankRanges : Ranges :=
  [(0x9, 0xD), (0x1C, 0x20), (0x85, 0x85), (0xA0, 0xA0), (0x1680, 0x1680), (0x2000, 0x200A),
   (0x2028, 0x2029), (0x202F, 0x202F), (0x205F, 0x205F), (0x3000, 0x3000)]

/-- Whether a character is blank. -/
def isBlank (char : Char) : Bool :=
  blankRanges.contains char.toNat

/-- Removes the blanks that a text starts with. -/
def trimStart (chars : List Char) : List Char :=
  chars.dropWhile isBlank

/-- Removes the longest suffix of elements that pass a test. -/
def dropWhileEnd {α : Type}
    (test : α → Bool) : List α → List α
  | [] => []
  | head :: tail =>
      match dropWhileEnd test tail with
      | [] => if test head then [] else [head]
      | kept => head :: kept

/-- Removes the blanks that a text ends with. -/
def trimEnd (chars : List Char) : List Char :=
  dropWhileEnd isBlank chars

/-- Removes the blanks around a text. -/
def trim (chars : List Char) : List Char :=
  trimEnd (trimStart chars)

/-- Removes the blanks around a string. -/
def trimmed (content : String) : String :=
  String.ofList (trim content.toList)

/-- The first word of a text and what follows the blanks after it. -/
def firstWord (chars : List Char) : List Char × List Char :=
  let start := trimStart chars
  (start.takeWhile (!isBlank ·), trimStart (start.dropWhile (!isBlank ·)))

/-- The words between blanks.  `word` holds what is read of a word, in reverse. -/
def wordsFrom (word : List Char) : List Char → List (List Char)
  | [] => if word.isEmpty then [] else [word.reverse]
  | char :: rest =>
      if isBlank char then
        if word.isEmpty then wordsFrom [] rest else word.reverse :: wordsFrom [] rest
      else wordsFrom (char :: word) rest

/-- The words of a text, which stand between blanks. -/
def words (chars : List Char) : List (List Char) :=
  wordsFrom [] chars

@[simp] theorem trimStart_nil : trimStart [] = [] := rfl

@[simp] theorem dropWhileEnd_nil {α : Type}
    (test : α → Bool) : dropWhileEnd test [] = [] := rfl

/-- What is kept is a prefix of the list. -/
theorem dropWhileEnd_isPrefix {α : Type}
    (test : α → Bool)
    (elements : List α) :
    dropWhileEnd test elements <+: elements := by
  induction elements with
  | nil => exact List.prefix_rfl
  | cons head tail inductionHypothesis =>
      simp only [dropWhileEnd]
      split
      · split
        · exact List.nil_prefix
        · exact List.cons_prefix_cons.2 ⟨rfl, List.nil_prefix⟩
      · next kept _ =>
          exact List.cons_prefix_cons.2 ⟨rfl, inductionHypothesis⟩

/-- Every white space character of the core library is blank. -/
theorem isBlank_of_isWhitespace
    {char : Char}
    (white : char.isWhitespace) :
    isBlank char := by
  simp only [Char.isWhitespace, Bool.or_eq_true, decide_eq_true_eq] at white
  rcases white with ((rfl | rfl) | rfl) | rfl <;> decide

end Text
end RoutineGate
