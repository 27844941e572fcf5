import RoutineGate.Proofs.Text.Splitting

/-!
# Lines of texts in a row

Where a line starts, a text may be cut without changing its lines.  A line feed at the end of a
text ends its last line or adds an empty one.
-/

namespace RoutineGate
namespace Text

/-- A line starts between two texts: nothing comes before it, or what ends a line. -/
def StartsLine (front rest : List Char) : Prop :=
  ∀ last ∈ front.getLast?, isLineEnd last = true ∧ ¬(last = '\r' ∧ rest.head? = some '\n')

instance (front rest : List Char) : Decidable (StartsLine front rest) :=
  Option.decidableForallMem front.getLast?

section Lines

variable {front rest line tail : List Char}

/-- Where a line starts within a text, it starts within the rest of the text. -/
theorem StartsLine.of_append
    (chars : List Char)
    (starts : StartsLine (chars ++ front) rest) :
    StartsLine front rest := by
  intro last member
  refine starts last ?_
  rw [List.getLast?_append, member]
  rfl

theorem linesFrom_append
    (starts : StartsLine front rest)
    (read : front = [] → line = []) :
    linesFrom line (front ++ rest) = linesFrom line front ++ lines rest := by
  fun_induction linesFrom line front with
  | case1 line empty =>
      obtain rfl := read rfl
      rfl
  | case2 line given => exact absurd (read rfl) (by simpa using given)
  | case3 line front inductionHypothesis =>
      have others := inductionHypothesis (starts.of_append ['\r', '\n']) fun _ => rfl
      exact congrArg (line.reverse :: ·) others
  | case4 line char front apart ends inductionHypothesis =>
      have others := inductionHypothesis (starts.of_append [char]) fun _ => rfl
      have single : ¬(char = '\r' ∧ (front ++ rest).head? = some '\n') := by
        rintro ⟨rfl, first⟩
        cases front with
        | nil => exact (starts '\r' rfl).2 ⟨rfl, first⟩
        | cons next front =>
            obtain rfl := Option.some.inj first
            exact apart front rfl rfl
      rw [List.cons_append, linesFrom_cons_of_ends ends single, lines, others, List.cons_append]
  | case5 line char front apart goesOn inductionHypothesis =>
      have more : front ≠ [] := by
        rintro rfl
        exact goesOn (starts char rfl).1
      rw [List.cons_append, linesFrom_cons_of_goesOn goesOn]
      exact inductionHypothesis (starts.of_append [char]) fun none => absurd none more

/-- The lines of a text are those before and after the start of a line. -/
theorem lines_append (starts : StartsLine front rest) :
    lines (front ++ rest) = lines front ++ lines rest :=
  linesFrom_append starts fun _ => rfl

/-- A line feed after a text ends its last line, or adds an empty one. -/
theorem lines_concat_feed (chars : List Char) :
    lines (chars ++ ['\n']) = lines chars ∨ lines (chars ++ ['\n']) = lines chars ++ [[]] := by
  suffices ∀ line, linesFrom line (chars ++ ['\n']) = linesFrom line chars ∨
      linesFrom line (chars ++ ['\n']) = linesFrom line chars ++ [[]] from this []
  intro line
  fun_induction linesFrom line chars with
  | case1 line empty =>
      obtain rfl : line = [] := by simpa using empty
      exact .inr rfl
  | case2 line given => exact .inl (by simp [linesFrom, isLineEnd])
  | case3 line chars inductionHypothesis => simpa [linesFrom] using inductionHypothesis
  | case4 line char chars apart ends inductionHypothesis =>
      by_cases pair : char = '\r' ∧ chars = []
      · obtain ⟨rfl, rfl⟩ := pair
        exact .inl (by simp [linesFrom])
      · have single : ¬(char = '\r' ∧ (chars ++ ['\n']).head? = some '\n') := by
          rintro ⟨rfl, first⟩
          cases chars with
          | nil => exact pair ⟨rfl, rfl⟩
          | cons next chars =>
              obtain rfl := Option.some.inj first
              exact apart chars rfl rfl
        rw [List.cons_append, linesFrom_cons_of_ends ends single]
        simpa [lines] using inductionHypothesis
  | case5 line char chars apart goesOn inductionHypothesis =>
      rw [List.cons_append, linesFrom_cons_of_goesOn goesOn]
      exact inductionHypothesis

/-- Lines have the characters of the text. -/
theorem mem_of_mem_linesFrom
    {read chars found : List Char}
    (listed : found ∈ linesFrom read chars)
    {char : Char}
    (member : char ∈ found) :
    char ∈ read ∨ char ∈ chars := by
  fun_induction linesFrom read chars with
  | case1 read empty => exact absurd listed List.not_mem_nil
  | case2 read given =>
      obtain rfl := List.mem_singleton.mp listed
      exact .inl (List.mem_reverse.mp member)
  | case3 read chars inductionHypothesis | case4 read _ chars _ _ inductionHypothesis =>
      obtain rfl | listed := List.mem_cons.mp listed
      · exact .inl (List.mem_reverse.mp member)
      · have inRest := (inductionHypothesis listed).resolve_left List.not_mem_nil
        exact .inr (by simp [inRest])
  | case5 read first chars _ _ inductionHypothesis =>
      obtain inRead | inRest := inductionHypothesis listed
      · obtain rfl | inRead := List.mem_cons.mp inRead
        · exact .inr List.mem_cons_self
        · exact .inl inRead
      · exact .inr (List.mem_cons_of_mem first inRest)

/-- What is read of a line begins the first line; the text gives the rest of it and the others. -/
theorem exists_linesFrom_cons
    {read : List Char}
    (nonempty : read ≠ [])
    (chars : List Char) :
    ∃ pad others, linesFrom read chars = (read.reverse ++ pad) :: others ∧
      ∀ found ∈ pad :: others, ∀ char ∈ found, char ∈ chars := by
  have given : ∀ rest, ∀ found ∈ lines rest, ∀ char ∈ found, char ∈ rest := by
    intro rest found listed char member
    exact (mem_of_mem_linesFrom listed member).resolve_left List.not_mem_nil
  fun_induction linesFrom read chars with
  | case1 read empty => exact absurd (by simpa using empty) nonempty
  | case2 read => exact ⟨[], [], by rw [List.append_nil], by simp⟩
  | case3 read chars | case4 read first chars =>
      refine ⟨[], lines chars, by rw [List.append_nil]; rfl, ?_⟩
      rintro found (_ | ⟨_, listed⟩) char member
      · exact absurd member List.not_mem_nil
      · simp [given chars found listed char member]
  | case5 read first chars _ _ inductionHypothesis =>
      obtain ⟨pad, others, same, members⟩ := inductionHypothesis (List.cons_ne_nil first read)
      obtain ⟨inPad, inOthers⟩ := List.forall_mem_cons.mp members
      refine ⟨first :: pad, others, by rw [same, List.reverse_cons, List.append_assoc]; rfl, ?_⟩
      refine List.forall_mem_cons.mpr ⟨fun char member => ?_, fun found listed char member =>
        List.mem_cons_of_mem first (inOthers found listed char member)⟩
      obtain rfl | member := List.mem_cons.mp member
      · exact List.mem_cons_self
      · exact List.mem_cons_of_mem first (inPad char member)

end Lines

end Text
end RoutineGate
