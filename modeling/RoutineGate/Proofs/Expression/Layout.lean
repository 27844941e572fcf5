import RoutineGate.Proofs.Expression.Lexemes

/-!
# The layout of an expression

Scanning divides an expression into lexemes with blanks between them, its layout.  The symbols
depend on the lexemes alone: each lexeme stands for the same symbol by itself, and in every
layout that keeps the lexemes apart that were apart.
-/

namespace RoutineGate
namespace Expression
namespace Token

variable {characters : Text.CharacterNames}

/-! ## Symbols and positions -/

theorem unescape_eq_ok
    {position : Nat}
    {body content : List Char}
    (resolved : unescape position body = .ok content)
    (other : Nat) :
    unescape other body = .ok content := by
  fun_induction unescape position body generalizing other content with
  | case1 => simp at resolved
  | case2 position char rest meaning found inductionHypothesis =>
      obtain ⟨inner, foundInner, rfl⟩ := map_eq_ok_iff.mp resolved
      simp [unescape, found, inductionHypothesis foundInner, Except.map]
  | case3 position char rest notEscape inductionHypothesis =>
      obtain ⟨inner, foundInner, rfl⟩ := map_eq_ok_iff.mp resolved
      rw [unescape, inductionHypothesis foundInner]
      · rfl
      · exact notEscape
  | case4 => exact resolved

/-- A pattern literal is read if its flags are known and its pattern is one. -/
theorem patternSource_eq_ok_iff
    {position : Nat}
    {body flags : List Char}
    {source : String} :
    patternSource characters position body flags = .ok source ↔
      (flags.filter fun flag => !patternFlags.contains flag).isEmpty = true ∧
        (∃ pattern, Pattern.read (flagged body flags) characters = .ok pattern) ∧
          source = flagged body flags := by
  rw [patternSource]
  cases known : (flags.filter fun flag => !patternFlags.contains flag).isEmpty with
  | false => simp [throw, throwThe, MonadExceptOf.throw, bind, Except.bind]
  | true =>
      cases read : Pattern.read (flagged body flags) characters with
      | ok pattern => simp [read, pure, Except.pure, eq_comm]
      | error error => simp [read, throw, throwThe, MonadExceptOf.throw]

/-- The symbol of a lexeme is the same at every position. -/
theorem symbolOf_eq_ok
    {kind : Kind}
    {position : Nat}
    {chars : List Char}
    {symbol : Option Symbol}
    (isSymbol : symbolOf characters kind position chars = .ok symbol)
    (other : Nat) :
    symbolOf characters kind other chars = .ok symbol := by
  cases kind with
  | blank => exact isSymbol
  | number => exact isSymbol
  | name => exact isSymbol
  | mark => exact isSymbol
  | text =>
      obtain ⟨content, resolved, same⟩ := bind_eq_ok_iff.mp isSymbol
      exact bind_eq_ok_iff.mpr ⟨content, unescape_eq_ok resolved _, same⟩
  | pattern bodyLength =>
      obtain ⟨source, read, same⟩ := bind_eq_ok_iff.mp isSymbol
      exact bind_eq_ok_iff.mpr
        ⟨source, patternSource_eq_ok_iff.mpr (patternSource_eq_ok_iff.mp read), same⟩

/-- Only blanks write no symbol. -/
theorem exists_symbol
    {kind : Kind}
    (notBlank : kind ≠ .blank)
    {position : Nat}
    {chars : List Char}
    (nonempty : chars ≠ [])
    {symbol : Option Symbol}
    (isSymbol : symbolOf characters kind position chars = .ok symbol) :
    ∃ written, symbol = some written := by
  cases kind with
  | blank => exact absurd rfl notBlank
  | number | text | pattern =>
      obtain ⟨_, _, same⟩ := bind_eq_ok_iff.mp isSymbol
      exact ⟨_, (Except.ok.inj same).symm⟩
  | name => exact ⟨_, (Except.ok.inj isSymbol).symm⟩
  | mark =>
      obtain ⟨char, rest, rfl⟩ := List.exists_cons_of_ne_nil nonempty
      exact ⟨_, (Except.ok.inj isSymbol).symm⟩

/-! ## Scanning step by step -/

/-- A bound on the steps that is high enough is as good as another one. -/
theorem scanFrom_congr
    {position steps others : Nat}
    {chars : List Char}
    (enough : chars.length < steps)
    (also : chars.length < others) :
    scanFrom characters position chars steps = scanFrom characters position chars others := by
  induction steps generalizing position chars others with
  | zero => exact absurd enough (Nat.not_lt_zero _)
  | succ steps inductionHypothesis =>
      obtain ⟨others, rfl⟩ := Nat.exists_eq_succ_of_ne_zero (Nat.ne_zero_of_lt also)
      cases chars with
      | nil => rfl
      | cons char rest =>
          cases isKind : kindAt? (char :: rest) with
          | none => simp only [scanFrom, isKind]
          | some found =>
              obtain ⟨kind, length⟩ := found
              obtain ⟨positive, -⟩ := cases_of_kindAt? isKind
              have shorter : ((char :: rest).drop length).length < (char :: rest).length := by
                rw [List.length_drop]
                rw [List.length_cons] at enough ⊢
                omega
              simp only [scanFrom, isKind]
              rw [@inductionHypothesis _ others _ (by omega) (by omega)]

/-- Scanning reads what stands at a place and goes on after it. -/
theorem scanFrom_of_kindAt?
    {position steps : Nat}
    {chars : List Char}
    (enough : chars.length < steps)
    {kind : Kind}
    {length : Nat}
    (isKind : kindAt? chars = some (kind, length)) :
    scanFrom characters position chars steps = (do
      let symbol ← symbolOf characters kind position (chars.take length)
      let tokens ← scanFrom characters (position + length) (chars.drop length) steps
      return (symbol.map fun symbol => ⟨symbol, position⟩).toList ++ tokens) := by
  obtain ⟨steps, rfl⟩ := Nat.exists_eq_succ_of_ne_zero (Nat.ne_zero_of_lt enough)
  obtain ⟨positive, -⟩ := cases_of_kindAt? isKind
  cases chars with
  | nil => exact absurd isKind (by simp [kindAt?])
  | cons char rest =>
      have shorter : ((char :: rest).drop length).length < steps := by
        rw [List.length_drop]
        rw [List.length_cons] at enough ⊢
        omega
      rw [← scanFrom_congr shorter (Nat.lt_succ_of_lt shorter)]
      simp only [scanFrom, isKind]

theorem runLength_append
    {test : Char → Bool}
    {front rest : List Char}
    (passes : ∀ char ∈ front, test char = true)
    (ends : ∀ char ∈ rest.head?, test char = false) :
    runLength test (front ++ rest) = front.length := by
  induction front with
  | nil =>
      cases rest with
      | nil => rfl
      | cons char rest => simp [runLength, ends char rfl]
  | cons char front inductionHypothesis =>
      obtain ⟨charPasses, others⟩ := List.forall_mem_cons.mp passes
      simp [runLength, charPasses, inductionHypothesis others]

/-- Blanks are skipped. -/
theorem scanFrom_gap
    {gap rest : List Char}
    (blank : ∀ char ∈ gap, Text.isBlank char = true)
    (ends : ∀ char ∈ rest.head?, Text.isBlank char = false)
    {position steps : Nat}
    (enough : (gap ++ rest).length < steps) :
    scanFrom characters position (gap ++ rest) steps =
      scanFrom characters (position + gap.length) rest steps := by
  cases gap with
  | nil => rfl
  | cons char gap =>
      have isKind : kindAt? (char :: gap ++ rest) = some (.blank, (char :: gap).length) := by
        rw [List.cons_append]
        refine kindAt?_eq_blank_iff.mpr ⟨blank char List.mem_cons_self, ?_⟩
        rw [← List.cons_append, runLength_append blank ends]
      rw [scanFrom_of_kindAt? enough isKind, List.drop_left]
      rw [symbolOf]
      cases scanFrom characters (position + (char :: gap).length) rest steps <;> rfl

/-- A lexeme gives its symbol, with the position that it starts at. -/
theorem scanFrom_lexeme
    {lexeme rest : List Char}
    {kind : Kind}
    {symbol : Symbol}
    (isKind : kindAt? (lexeme ++ rest) = some (kind, lexeme.length))
    (isSymbol : ∀ position, symbolOf characters kind position lexeme = .ok (some symbol))
    {position steps : Nat}
    (enough : (lexeme ++ rest).length < steps) :
    scanFrom characters position (lexeme ++ rest) steps =
      (scanFrom characters (position + lexeme.length) rest steps).map
        (⟨symbol, position⟩ :: ·) := by
  rw [scanFrom_of_kindAt? enough isKind, List.take_left, List.drop_left, isSymbol]
  rfl

/-! ## Layouts -/

/-- A lexeme, the blanks before it and the symbol that it writes. -/
structure Piece where
  gap : List Char
  lexeme : List Char
  symbol : Symbol

/-- The characters of pieces and of the blanks after the last one. -/
def spelled (ending : List Char) : List Piece → List Char
  | [] => ending
  | piece :: rest => piece.gap ++ (piece.lexeme ++ spelled ending rest)

/-- The tokens of pieces: each symbol stands where its lexeme starts, and the end at the end. -/
def placed (ending : List Char) (position : Nat) : List Piece → List Token
  | [] => [⟨.finish, position + ending.length⟩]
  | piece :: rest =>
      ⟨piece.symbol, position + piece.gap.length⟩ ::
        placed ending (position + piece.gap.length + piece.lexeme.length) rest

/-- Scanning reads these pieces one after the other. -/
inductive IsScanned (characters : Text.CharacterNames) (ending : List Char) : List Piece → Prop
  | nil (blank : ∀ char ∈ ending, Text.isBlank char = true) :
      IsScanned characters ending []
  | cons {piece : Piece} {rest : List Piece} {kind : Kind}
      (blank : ∀ char ∈ piece.gap, Text.isBlank char = true)
      (notBlank : kind ≠ .blank)
      (isKind : kindAt? (piece.lexeme ++ spelled ending rest) =
        some (kind, piece.lexeme.length))
      (isSymbol : ∀ position,
        symbolOf characters kind position piece.lexeme = .ok (some piece.symbol))
      (others : IsScanned characters ending rest) :
      IsScanned characters ending (piece :: rest)

/-- Something other than a blank starts with no blank. -/
theorem not_isBlank_head
    {chars : List Char}
    {kind : Kind}
    {length : Nat}
    (isKind : kindAt? chars = some (kind, length))
    (notBlank : kind ≠ .blank) :
    ∀ char ∈ chars.head?, Text.isBlank char = false := by
  rintro char first
  obtain ⟨rest, rfl⟩ := List.head?_eq_some_iff.mp first
  rw [Bool.eq_false_iff]
  intro blank
  rw [kindAt?, if_pos blank] at isKind
  exact notBlank (Prod.mk.inj (Option.some.inj isKind)).1.symm

/-- Pieces that are scanned give their tokens. -/
theorem IsScanned.scanFrom_eq
    {ending : List Char}
    {pieces : List Piece}
    (scanned : IsScanned characters ending pieces)
    {position steps : Nat}
    (enough : (spelled ending pieces).length < steps) :
    scanFrom characters position (spelled ending pieces) steps =
      .ok (placed ending position pieces) := by
  induction scanned generalizing position with
  | nil blank =>
      rw [← List.append_nil (spelled ending [])] at enough ⊢
      rw [spelled, scanFrom_gap blank (by simp) enough]
      obtain ⟨steps, rfl⟩ := Nat.exists_eq_succ_of_ne_zero (Nat.ne_zero_of_lt enough)
      rfl
  | @cons piece rest kind blank notBlank isKind isSymbol others inductionHypothesis =>
      rw [spelled] at enough ⊢
      have lengths := enough
      simp only [List.length_append] at lengths
      rw [scanFrom_gap blank (not_isBlank_head isKind notBlank) enough,
        scanFrom_lexeme isKind isSymbol (by rw [List.length_append]; omega),
        inductionHypothesis (by omega)]
      rfl

theorem forall_take_of_kindAt?_blank
    {chars : List Char}
    {length : Nat}
    (isKind : kindAt? chars = some (.blank, length)) :
    ∀ char ∈ chars.take length, Text.isBlank char = true := by
  cases chars with
  | nil => exact absurd isKind (by simp [kindAt?])
  | cons char rest =>
      obtain ⟨-, rfl⟩ := kindAt?_eq_blank_iff.mp isKind
      rw [take_runLength]
      exact fun char member => List.mem_takeWhile_imp member

/-- Blanks before what is scanned are scanned with it. -/
theorem exists_isScanned_of_gap
    {gap : List Char}
    (blank : ∀ char ∈ gap, Text.isBlank char = true)
    {ending : List Char}
    {pieces : List Piece}
    (scanned : IsScanned characters ending pieces)
    (position : Nat) :
    ∃ ending' pieces', IsScanned characters ending' pieces' ∧
      gap ++ spelled ending pieces = spelled ending' pieces' ∧
      placed ending (position + gap.length) pieces = placed ending' position pieces' := by
  have both {first second : List Char}
      (firstBlank : ∀ char ∈ first, Text.isBlank char = true)
      (secondBlank : ∀ char ∈ second, Text.isBlank char = true) :
      ∀ char ∈ first ++ second, Text.isBlank char = true := fun char member =>
    (List.mem_append.mp member).elim (firstBlank char) (secondBlank char)
  cases scanned with
  | nil endingBlank =>
      refine ⟨gap ++ ending, [], .nil (both blank endingBlank), rfl, ?_⟩
      simp [placed, Nat.add_assoc]
  | @cons piece rest kind pieceBlank notBlank isKind isSymbol others =>
      refine ⟨ending, ⟨gap ++ piece.gap, piece.lexeme, piece.symbol⟩ :: rest,
        .cons (both blank pieceBlank) notBlank isKind isSymbol others, ?_, ?_⟩
      · simp [spelled]
      · simp [placed, Nat.add_assoc]

/-- What is scanned has a layout. -/
theorem exists_isScanned_of_scanFrom
    {position steps : Nat}
    {chars : List Char}
    (enough : chars.length < steps)
    {tokens : List Token}
    (found : scanFrom characters position chars steps = .ok tokens) :
    ∃ ending pieces, IsScanned characters ending pieces ∧ chars = spelled ending pieces ∧
      tokens = placed ending position pieces := by
  induction length : chars.length using Nat.strongRecOn generalizing position chars tokens with
  | ind _ inductionHypothesis =>
      subst length
      obtain ⟨steps, rfl⟩ := Nat.exists_eq_succ_of_ne_zero (Nat.ne_zero_of_lt enough)
      cases isKind : kindAt? chars with
      | none =>
          cases chars with
          | nil => exact ⟨[], [], .nil (by simp), rfl, (Except.ok.inj found).symm⟩
          | cons char rest => simp [scanFrom, isKind] at found
      | some at? =>
          obtain ⟨kind, length⟩ := at?
          obtain ⟨positive, -⟩ := cases_of_kindAt? isKind
          have within := length_le_of_kindAt? isKind
          rw [scanFrom_of_kindAt? enough isKind] at found
          obtain ⟨symbol, isSymbol, others⟩ := bind_eq_ok_iff.mp found
          obtain ⟨tokens, othersFound, same⟩ := bind_eq_ok_iff.mp others
          obtain rfl := Except.ok.inj same
          have shorter : (chars.drop length).length < chars.length := by
            rw [List.length_drop]
            omega
          obtain ⟨ending, pieces, scanned, rest, rfl⟩ :=
            inductionHypothesis _ shorter (by omega) othersFound rfl
          have taken : (chars.take length).length = length := by
            rw [List.length_take, Nat.min_eq_left within]
          by_cases isBlank : kind = .blank
          · subst isBlank
            obtain rfl : none = symbol := Except.ok.inj isSymbol
            have blank := forall_take_of_kindAt?_blank isKind
            obtain ⟨ending', pieces', scanned', sameChars, sameTokens⟩ :=
              exists_isScanned_of_gap blank scanned position
            rw [← rest, List.take_append_drop] at sameChars
            rw [taken] at sameTokens
            exact ⟨ending', pieces', scanned', sameChars, sameTokens⟩
          · have nonempty : chars.take length ≠ [] := by
              rw [← List.length_pos_iff, taken]
              exact positive
            obtain ⟨written, rfl⟩ := exists_symbol isBlank nonempty isSymbol
            refine ⟨ending, ⟨[], chars.take length, written⟩ :: pieces,
              .cons (by simp) isBlank ?_ (symbolOf_eq_ok isSymbol) scanned, ?_, ?_⟩
            · rw [← rest, List.take_append_drop, taken]
              exact isKind
            · rw [spelled, ← rest, List.nil_append, List.take_append_drop]
            · rw [placed, taken]
              rfl

/-- Scanning succeeds exactly if the characters have a layout, and gives its tokens. -/
theorem scanFrom_eq_ok_iff
    {position steps : Nat}
    {chars : List Char}
    (enough : chars.length < steps)
    {tokens : List Token} :
    scanFrom characters position chars steps = .ok tokens ↔
      ∃ ending pieces, IsScanned characters ending pieces ∧ chars = spelled ending pieces ∧
        tokens = placed ending position pieces := by
  constructor
  · exact exists_isScanned_of_scanFrom enough
  · rintro ⟨ending, pieces, scanned, rfl, rfl⟩
    exact scanned.scanFrom_eq enough

/-! ## Other layouts -/

/--
The same lexeme in another layout: its gap is left as it is, or the gap of the other layout is
not empty.
-/
structure Piece.Respaces (piece other : Piece) : Prop where
  lexeme_eq : other.lexeme = piece.lexeme
  symbol_eq : other.symbol = piece.symbol
  gap : other.gap = piece.gap ∨
    other.gap ≠ [] ∧ ∀ char ∈ other.gap, Text.isBlank char = true

/-- Up to where two layouts differ they are the same, and there the other one has a blank. -/
theorem exists_common
    {ending other : List Char}
    (blank : ∀ char ∈ other, Text.isBlank char = true)
    {pieces others : List Piece}
    (respaces : List.Forall₂ Piece.Respaces pieces others) :
    ∃ common rest rest', spelled ending pieces = common ++ rest ∧
      spelled other others = common ++ rest' ∧ Stops rest' := by
  induction respaces with
  | nil => exact ⟨[], ending, other, rfl, rfl, stops_of_blanks blank⟩
  | @cons piece otherPiece pieces others same _ inductionHypothesis =>
      obtain ⟨lexemeSame, -, gapSame | ⟨nonempty, gapBlank⟩⟩ := same
      · obtain ⟨common, rest, rest', left, right, stops⟩ := inductionHypothesis
        refine ⟨piece.gap ++ (piece.lexeme ++ common), rest, rest', ?_, ?_, stops⟩
        · rw [spelled, left]
          simp only [List.append_assoc]
        · rw [spelled, right, gapSame, lexemeSame]
          simp only [List.append_assoc]
      · refine ⟨[], spelled ending (piece :: pieces), spelled other (otherPiece :: others),
          rfl, rfl, ?_⟩
        obtain ⟨char, gap, isGap⟩ := List.exists_cons_of_ne_nil nonempty
        rw [spelled, isGap]
        rintro first same
        obtain rfl := Option.some.inj same
        exact gapBlank _ (by rw [isGap]; exact List.mem_cons_self)

/-- Another layout of the same lexemes is scanned too. -/
theorem IsScanned.respace
    {ending : List Char}
    {pieces : List Piece}
    (scanned : IsScanned characters ending pieces)
    {other : List Char}
    (blank : ∀ char ∈ other, Text.isBlank char = true)
    {others : List Piece}
    (respaces : List.Forall₂ Piece.Respaces pieces others) :
    IsScanned characters other others := by
  induction scanned generalizing others with
  | nil =>
      cases respaces
      exact .nil blank
  | @cons piece rest kind pieceBlank notBlank isKind isSymbol _ inductionHypothesis =>
      cases respaces with
      | @cons _ otherPiece _ others same restSame =>
          obtain ⟨common, after, after', left, right, stops⟩ := exists_common blank restSame
          obtain ⟨lexemeSame, symbolSame, gapSame⟩ := same
          refine .cons ?_ notBlank ?_ ?_ (inductionHypothesis restSame)
          · obtain gapSame | ⟨-, gapBlank⟩ := gapSame
            · rwa [gapSame]
            · exact gapBlank
          · rw [left, ← List.append_assoc] at isKind
            rw [lexemeSame, right, ← List.append_assoc]
            exact kindAt?_append_of_stops isKind notBlank (by simp) stops
          · rw [lexemeSame, symbolSame]
            exact isSymbol

/-- The symbols of placed pieces are theirs. -/
theorem map_symbol_placed (ending : List Char) (position : Nat) (pieces : List Piece) :
    (placed ending position pieces).map Token.symbol =
      pieces.map Piece.symbol ++ [.finish] := by
  induction pieces generalizing position with
  | nil => rfl
  | cons piece rest inductionHypothesis => simp [placed, inductionHypothesis]

/-! ## What layouts tell -/

theorem lt_of_mem_placed
    {ending : List Char}
    {pieces : List Piece}
    {position : Nat}
    {token : Token}
    (member : token ∈ placed ending position pieces) :
    position ≤ token.position := by
  induction pieces generalizing position with
  | nil =>
      obtain rfl := List.mem_singleton.mp member
      exact Nat.le_add_right _ _
  | cons piece rest inductionHypothesis =>
      obtain rfl | later := List.mem_cons.mp member
      · exact Nat.le_add_right _ _
      · have := inductionHypothesis later
        omega

/-- Later tokens have higher positions. -/
theorem IsScanned.pairwise_lt
    {ending : List Char}
    {pieces : List Piece}
    (scanned : IsScanned characters ending pieces)
    (position : Nat) :
    (placed ending position pieces).Pairwise (·.position < ·.position) := by
  induction scanned generalizing position with
  | nil => exact List.pairwise_singleton _ _
  | @cons piece rest kind blank notBlank isKind isSymbol others inductionHypothesis =>
      refine .cons ?_ (inductionHypothesis _)
      intro token member
      obtain ⟨positive, -⟩ := cases_of_kindAt? isKind
      have later := lt_of_mem_placed member
      change position + piece.gap.length < token.position
      omega

/-- The last token is the end. -/
theorem getLast?_placed (ending : List Char) (position : Nat) (pieces : List Piece) :
    (placed ending position pieces).getLast? =
      some ⟨.finish, position + (spelled ending pieces).length⟩ := by
  induction pieces generalizing position with
  | nil => rfl
  | cons piece rest inductionHypothesis =>
      rw [placed, List.getLast?_cons, inductionHypothesis]
      simp [spelled, Nat.add_assoc]

/-- Whether a text starts and ends with something other than a blank. -/
def IsSolid (chars : List Char) : Prop :=
  (∃ first ∈ chars.head?, Text.isBlank first = false) ∧
    ∃ last ∈ chars.getLast?, Text.isBlank last = false

/-- A lexeme has no blanks around it. -/
theorem isSolid_of_kindAt?
    {lexeme rest : List Char}
    {kind : Kind}
    (isKind : kindAt? (lexeme ++ rest) = some (kind, lexeme.length))
    (notBlank : kind ≠ .blank) :
    IsSolid lexeme := by
  obtain ⟨positive, -⟩ := cases_of_kindAt? isKind
  have nonempty : lexeme ≠ [] := List.length_pos_iff.mp positive
  constructor
  · obtain ⟨char, others, rfl⟩ := List.exists_cons_of_ne_nil nonempty
    exact ⟨char, rfl, not_isBlank_head isKind notBlank char rfl⟩
  · obtain ⟨front, last, rfl⟩ := (List.eq_nil_or_concat lexeme).resolve_left nonempty
    have ends : kindAt? (front ++ last :: rest) = some (kind, front.length + 1) := by
      simpa using isKind
    exact ⟨last, by simp, not_isBlank_of_kindAt? ends notBlank⟩

/-- Each piece that is scanned is scanned by itself. -/
theorem IsScanned.alone
    {ending : List Char}
    {pieces : List Piece}
    (scanned : IsScanned characters ending pieces)
    {piece : Piece}
    (member : piece ∈ pieces) :
    IsSolid piece.lexeme ∧ (∀ char ∈ piece.gap, Text.isBlank char = true) ∧
      IsScanned characters [] [⟨[], piece.lexeme, piece.symbol⟩] := by
  induction scanned with
  | nil => exact absurd member List.not_mem_nil
  | @cons first rest kind blank notBlank isKind isSymbol others inductionHypothesis =>
      obtain rfl | later := List.mem_cons.mp member
      · refine ⟨isSolid_of_kindAt? isKind notBlank, blank, .cons (by simp) notBlank ?_ isSymbol
          (.nil (by simp))⟩
        exact kindAt?_append_of_stops isKind notBlank (Nat.le_refl _) (by simp [Stops, spelled])
      · exact inductionHypothesis later

/-! ## Where problems are -/

/-- Whether a problem has a position among so many characters after a place. -/
def IsWithin (position length : Nat) (problem : Problem) : Prop :=
  ∃ place, problem.position = some place ∧ position ≤ place ∧ place < position + length

theorem isWithin_of_unescape
    {position : Nat}
    {body : List Char}
    {problem : Problem}
    (refused : unescape position body = .error (.problem problem)) :
    IsWithin position body.length problem := by
  fun_induction unescape position body with
  | case1 position char rest notFound =>
      obtain rfl := Error.problem.inj (Except.error.inj refused)
      exact ⟨position + 1, rfl, Nat.le_succ _, by rw [List.length_cons, List.length_cons]; omega⟩
  | case2 position char rest meaning found inductionHypothesis =>
      obtain ⟨place, isPlace, after, before⟩ := inductionHypothesis (map_eq_error_iff.mp refused)
      exact ⟨place, isPlace, by omega, by rw [List.length_cons, List.length_cons]; omega⟩
  | case3 position char rest notEscape inductionHypothesis =>
      obtain ⟨place, isPlace, after, before⟩ := inductionHypothesis (map_eq_error_iff.mp refused)
      exact ⟨place, isPlace, by omega, by rw [List.length_cons]; omega⟩
  | case4 => simp at refused

/-- A pattern literal is refused at its own position. -/
theorem position_of_patternSource
    {position : Nat}
    {body flags : List Char}
    {problem : Problem}
    (refused : patternSource characters position body flags = .error (.problem problem)) :
    problem.position = some position := by
  rw [patternSource] at refused
  cases known : (flags.filter fun flag => !patternFlags.contains flag).isEmpty with
  | false =>
      simp only [known, throw, throwThe, MonadExceptOf.throw, bind, Except.bind] at refused
      obtain rfl := Error.problem.inj (Except.error.inj refused)
      rfl
  | true =>
      simp only [known, Bool.not_true, Bool.false_eq_true, if_false] at refused
      cases read : Pattern.read (flagged body flags) characters with
      | ok pattern => simp [read, pure, Except.pure] at refused
      | error error =>
          simp only [read, throw, throwThe, MonadExceptOf.throw, Except.error.injEq] at refused
          cases error <;> simp only [patternError, Error.located] at refused
          case largeRepetition | integer | exclusiveFlags => exact Error.noConfusion refused
          all_goals
            obtain rfl := Error.problem.inj refused
            rfl

theorem numeral_ne_problem (chars : List Char) (problem : Problem) :
    numeral chars ≠ .error (.problem problem) := by
  rw [numeral]
  split
  · simp
  · split <;> simp

/-- A lexeme is refused at one of its characters. -/
theorem isWithin_of_symbolOf
    {kind : Kind}
    {position : Nat}
    {chars : List Char}
    (nonempty : chars ≠ [])
    {problem : Problem}
    (refused : symbolOf characters kind position chars = .error (.problem problem)) :
    IsWithin position chars.length problem := by
  have positive : 0 < chars.length := List.length_pos_iff.mpr nonempty
  cases kind with
  | blank | name | mark => exact absurd refused (by simp [symbolOf, pure, Except.pure])
  | number =>
      obtain numeralRefused | ⟨_, _, same⟩ := bind_eq_error_iff.mp refused
      · exact absurd numeralRefused (numeral_ne_problem chars problem)
      · exact absurd same (by simp [pure, Except.pure])
  | text =>
      obtain textRefused | ⟨_, _, same⟩ := bind_eq_error_iff.mp refused
      · obtain ⟨place, isPlace, after, before⟩ := isWithin_of_unescape textRefused
        rw [List.length_dropLast, List.length_tail] at before
        exact ⟨place, isPlace, after, by omega⟩
      · exact absurd same (by simp [pure, Except.pure])
  | pattern bodyLength =>
      obtain patternRefused | ⟨_, _, same⟩ := bind_eq_error_iff.mp refused
      · exact ⟨position, position_of_patternSource patternRefused, Nat.le_refl _, by omega⟩
      · exact absurd same (by simp [pure, Except.pure])

/-- Scanning is refused at one of the characters. -/
theorem isWithin_of_scanFrom
    {position steps : Nat}
    {chars : List Char}
    {problem : Problem}
    (refused : scanFrom characters position chars steps = .error (.problem problem)) :
    IsWithin position chars.length problem := by
  induction steps generalizing position chars with
  | zero => simp [scanFrom] at refused
  | succ steps inductionHypothesis =>
      cases chars with
      | nil => simp [scanFrom] at refused
      | cons char rest =>
          cases isKind : kindAt? (char :: rest) with
          | none =>
              simp only [scanFrom, isKind] at refused
              obtain rfl := Error.problem.inj (Except.error.inj refused)
              exact ⟨position, rfl, Nat.le_refl _, by rw [List.length_cons]; omega⟩
          | some found =>
              obtain ⟨kind, length⟩ := found
              obtain ⟨positive, -⟩ := cases_of_kindAt? isKind
              have within := length_le_of_kindAt? isKind
              simp only [scanFrom, isKind] at refused
              obtain symbolRefused | ⟨_, _, later⟩ := bind_eq_error_iff.mp refused
              · have taken : ((char :: rest).take length).length = length := by
                  rw [List.length_take, Nat.min_eq_left within]
                have nonempty : (char :: rest).take length ≠ [] := by
                  rw [← List.length_pos_iff, taken]
                  exact positive
                obtain ⟨place, isPlace, after, before⟩ :=
                  isWithin_of_symbolOf nonempty symbolRefused
                exact ⟨place, isPlace, after, by omega⟩
              · obtain laterRefused | ⟨_, _, same⟩ := bind_eq_error_iff.mp later
                · obtain ⟨place, isPlace, after, before⟩ := inductionHypothesis laterRefused
                  rw [List.length_drop] at before
                  exact ⟨place, isPlace, by omega, by omega⟩
                · exact absurd same (by simp [pure, Except.pure])

/-! ## Escapes -/

/-- Resolves the escapes of a text, unless that reads beyond its last character. -/
def unescape? (position : Nat) : List Char → Option (Except Error (List Char))
  | ['\\'] => none
  | '\\' :: char :: rest =>
      match escaped? char with
      | none => some (.error (.located (.unsupportedEscape char) (position + 1)))
      | some meaning => (unescape? (position + 2) rest).map (·.map (meaning :: ·))
  | char :: rest => (unescape? (position + 1) rest).map (·.map (char :: ·))
  | [] => some (.ok [])

/-- In a body every backslash has its character. -/
theorem unescape?_eq_some
    {IsPlain : Char → Prop}
    (noEscape : ∀ char, IsPlain char → char ≠ '\\')
    {body : List Char}
    (isBody : IsBody IsPlain body)
    (position : Nat) :
    unescape? position body = some (unescape position body) := by
  induction isBody generalizing position with
  | nil => rfl
  | @escape char rest sameLine others inductionHypothesis =>
      cases found : escaped? char <;> simp [unescape?, unescape, found, inductionHypothesis]
  | @plain char rest isPlain others inductionHypothesis =>
      have notEscape := noEscape char isPlain
      simp [unescape?, unescape, notEscape, inductionHypothesis]

/-- A text is a body between quotes. -/
theorem exists_body_of_text
    {chars : List Char}
    {length : Nat}
    (isKind : kindAt? chars = some (.text, length)) :
    ∃ quote body, chars.take length = quote :: (body ++ [quote]) ∧
      IsBody (IsTextPart quote) body := by
  cases chars with
  | nil => exact absurd isKind (by simp [kindAt?])
  | cons char rest =>
      rw [kindAt?] at isKind
      split_ifs at isKind with blank decimal quote slash start mark
      · exact absurd isKind (by simp)
      · exact absurd isKind (by simp)
      · obtain ⟨inner, found, same⟩ := Option.map_eq_some_iff.mp isKind
        obtain ⟨-, rfl⟩ := Prod.mk.inj same
        have notEscape : char ≠ '\\' := by
          rintro rfl
          exact absurd quote (by decide)
        obtain ⟨body, after, isBody, rfl, rfl⟩ := (textLength?_eq_some_iff notEscape).mp found
        exact ⟨char, body, by simp [List.take_append, List.take_of_length_le], isBody⟩
      · obtain ⟨inner, found, same⟩ := Option.map_eq_some_iff.mp isKind
        exact absurd (Prod.mk.inj same).1 (by simp)
      · exact absurd isKind (by simp)
      · exact absurd isKind (by simp)

theorem Reads.exists_body
    {position place : Nat}
    {chars literal : List Char}
    (reads : Reads characters position chars place .text literal) :
    ∃ quote body, literal = quote :: (body ++ [quote]) ∧ IsBody (IsTextPart quote) body := by
  generalize isText : Kind.text = kind at reads
  induction reads with
  | here isKind =>
      subst isText
      exact exists_body_of_text isKind
  | later _ _ _ inductionHypothesis => exact inductionHypothesis isText

/-! ## Scanning by lexemes -/

/-- What pieces, and blanks after them, tell about a source and its tokens. -/
structure IsLayout
    (characters : Text.CharacterNames)
    (source : String)
    (tokens : List Token)
    (pieces : List Piece)
    (ending : List Char) : Prop where
  /-- They cover the source. -/
  source_eq : source.toList = spelled ending pieces
  /-- There is a token for each lexeme where the lexeme is, and the end. -/
  tokens_eq : tokens = placed ending 0 pieces
  gap_blank : ∀ piece ∈ pieces, ∀ char ∈ piece.gap, Text.isBlank char = true
  ending_blank : ∀ char ∈ ending, Text.isBlank char = true
  lexeme_solid : ∀ piece ∈ pieces, IsSolid piece.lexeme
  /-- Each lexeme by itself gives its symbol. -/
  alone : ∀ piece ∈ pieces,
    scan (String.ofList piece.lexeme) characters =
      .ok [⟨piece.symbol, 0⟩, ⟨.finish, piece.lexeme.length⟩]
  /-- The symbols are the same in every other layout. -/
  respaced : ∀ others other, List.Forall₂ Piece.Respaces pieces others →
    (∀ char ∈ other, Text.isBlank char = true) →
      ∃ respaced, scan (String.ofList (spelled other others)) characters = .ok respaced ∧
        respaced.map Token.symbol = tokens.map Token.symbol

/-- What scanning a source keeps to. -/
structure ScansByLexemes (characters : Text.CharacterNames) (source : String) : Prop where
  laidOut : ∀ tokens, scan source characters = .ok tokens →
    ∃ pieces ending, IsLayout characters source tokens pieces ending
  increasing : ∀ tokens, scan source characters = .ok tokens →
    tokens.Pairwise (·.position < ·.position)
  ended : ∀ tokens, scan source characters = .ok tokens →
    tokens.getLast? = some ⟨.finish, source.length⟩
  /-- A problem has a position in the source. -/
  inside : ∀ problem, scan source characters = .error (.problem problem) →
    ∃ position < source.length, problem.position = some position
  /-- The escapes of a text are resolved without reading beyond it. -/
  decoded : ∀ place literal, Reads characters 0 source.toList place .text literal →
    unescape? place literal.tail.dropLast = some (unescape place literal.tail.dropLast)

/-- What a source of pieces is scanned to. -/
theorem IsScanned.scan_eq
    {ending : List Char}
    {pieces : List Piece}
    (scanned : IsScanned characters ending pieces) :
    scan (String.ofList (spelled ending pieces)) characters = .ok (placed ending 0 pieces) := by
  rw [scan, String.toList_ofList]
  exact scanned.scanFrom_eq (Nat.lt_succ_self _)

theorem IsScanned.ending_blank
    {ending : List Char}
    {pieces : List Piece}
    (scanned : IsScanned characters ending pieces) :
    ∀ char ∈ ending, Text.isBlank char = true := by
  induction scanned with
  | nil blank => exact blank
  | cons _ _ _ _ _ inductionHypothesis => exact inductionHypothesis

theorem exists_isScanned_of_scan
    {source : String}
    {tokens : List Token}
    (found : scan source characters = .ok tokens) :
    ∃ ending pieces, IsScanned characters ending pieces ∧ source.toList = spelled ending pieces ∧
      tokens = placed ending 0 pieces :=
  (scanFrom_eq_ok_iff (Nat.lt_succ_self _)).mp found

theorem IsScanned.isLayout
    {ending : List Char}
    {pieces : List Piece}
    (scanned : IsScanned characters ending pieces)
    {source : String}
    (source_eq : source.toList = spelled ending pieces) :
    IsLayout characters source (placed ending 0 pieces) pieces ending where
  source_eq := source_eq
  tokens_eq := rfl
  gap_blank _ member := (scanned.alone member).2.1
  ending_blank := scanned.ending_blank
  lexeme_solid _ member := (scanned.alone member).1
  alone piece member := by
    have alone := (scanned.alone member).2.2.scan_eq
    simpa [spelled, placed] using alone
  respaced others other respaces blank := by
    refine ⟨_, (scanned.respace blank respaces).scan_eq, ?_⟩
    have sameSymbols : others.map Piece.symbol = pieces.map Piece.symbol := by
      clear scanned source_eq
      induction respaces with
      | nil => rfl
      | cons same _ inductionHypothesis => simp [same.symbol_eq, inductionHypothesis]
    rw [map_symbol_placed, map_symbol_placed, sameSymbols]

/-- Every source is scanned by its lexemes, whatever names characters have. -/
theorem scansByLexemes (characters : Text.CharacterNames) (source : String) :
    ScansByLexemes characters source where
  laidOut tokens found := by
    obtain ⟨ending, pieces, scanned, source_eq, rfl⟩ := exists_isScanned_of_scan found
    exact ⟨pieces, ending, scanned.isLayout source_eq⟩
  increasing tokens found := by
    obtain ⟨ending, pieces, scanned, -, rfl⟩ := exists_isScanned_of_scan found
    exact scanned.pairwise_lt 0
  ended tokens found := by
    obtain ⟨ending, pieces, -, source_eq, rfl⟩ := exists_isScanned_of_scan found
    rw [getLast?_placed, ← source_eq, Nat.zero_add, String.length_toList]
  inside problem refused := by
    obtain ⟨place, isPlace, -, before⟩ := isWithin_of_scanFrom refused
    rw [Nat.zero_add, String.length_toList] at before
    exact ⟨place, before, isPlace⟩
  decoded place literal reads := by
    obtain ⟨quote, body, rfl, isBody⟩ := reads.exists_body
    rw [List.tail_cons, List.dropLast_concat]
    exact unescape?_eq_some (fun _ isPart => isPart.2) isBody place

end Token
end Expression
end RoutineGate
