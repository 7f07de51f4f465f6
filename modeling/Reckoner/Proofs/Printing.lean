import Reckoner.Error
import Reckoner.Proofs.Nesting
import Reckoner.Proofs.Numerals
import Reckoner.Proofs.Obstacles
import Reckoner.Proofs.Phrases
import Reckoner.Proofs.Reading

/-! # Reading undoes writing

The written form of a tree has parentheses only where the grammar asks for them, so it is the form
of the tree with the fewest levels: whatever phrase has the tree, the written form is a phrase at
the same levels. And whatever the spaces between its pieces, the scanner reads the pieces back.
-/

namespace Reckoner

def Mark.symbol : Mark → List Char
  | .plus => ['+']
  | .minus => ['-']
  | .star => ['*']
  | .slash => ['/']
  | .opening => ['(']
  | .closing => [')']
  | .other name => name.toList

def Lexeme.piece : Lexeme → List Char
  | .number value _ => (Numeral.write value).toList
  | .mark m .. => m.symbol

def Operator.mark : Operator → Mark
  | .plus => .plus
  | .minus => .minus
  | .star => .star
  | .slash => .slash
  | .other name => .other name

/-- The rank of the phrases that may stand behind an operator of this rank. -/
def Rank.tighter : Rank → Rank
  | .factor | .term => .factor
  | .expression => .term

/-- The lexemes of a phrase, in parentheses unless it is `bare`. -/
def encloseLexemes (bare : Bool) (lexemes : List Lexeme) : List Lexeme :=
  if bare then lexemes
  else .mark .opening none 0 :: (lexemes ++ [.mark .closing none 0])

namespace Expr

/-- The lexemes of the written form of an expression, without places and spellings. -/
def lexemes : Expr → List Lexeme
  | .literal value => [.number value 0]
  | .binary op left right =>
    encloseLexemes (left.rank.looseness ≤ op.rank.looseness) left.lexemes ++
      .mark op.mark none 0 ::
        encloseLexemes (right.rank.looseness ≤ op.rank.tighter.looseness) right.lexemes
  | .hole => []

/-- The lexemes of an expression at a place for phrases of a rank. -/
def lexemesAt (rank : Rank) (e : Expr) : List Lexeme :=
  encloseLexemes (e.rank.looseness ≤ rank.looseness) e.lexemes

theorem lexemes_binary (op : Operator) (left right : Expr) :
    (Expr.binary op left right).lexemes =
      left.lexemesAt op.rank ++ .mark op.mark none 0 :: right.lexemesAt op.rank.tighter := rfl

theorem lexemesAt_of_le {rank : Rank} {e : Expr} (tight : e.rank.looseness ≤ rank.looseness) :
    e.lexemesAt rank = e.lexemes := by
  simp [lexemesAt, encloseLexemes, tight]

theorem lexemesAt_of_lt {rank : Rank} {e : Expr} (loose : rank.looseness < e.rank.looseness) :
    e.lexemesAt rank = .mark .opening none 0 :: (e.lexemes ++ [.mark .closing none 0]) := by
  simp [lexemesAt, encloseLexemes, Nat.not_le_of_lt loose]

theorem lexemesAt_expression (e : Expr) : e.lexemesAt .expression = e.lexemes := by
  apply lexemesAt_of_le
  cases e.rank <;> decide

theorem pieces_eq (e : Expr) : e.pieces = e.lexemes.map Lexeme.piece := by
  have enclosed (bare : Bool) (lexemes : List Lexeme) :
      enclose bare (lexemes.map Lexeme.piece) = (encloseLexemes bare lexemes).map Lexeme.piece := by
    cases bare
    · simp [enclose, encloseLexemes, Lexeme.piece, Mark.symbol]
    · rfl
  induction e with
  | literal value => rfl
  | hole => rfl
  | binary op left right ihLeft ihRight =>
    have symbol : op.symbol = Lexeme.piece (.mark op.mark none 0) := by cases op <;> rfl
    have behind : decide (right.rank.looseness < op.rank.looseness) =
        decide (right.rank.looseness ≤ op.rank.tighter.looseness) := by
      cases op <;> cases right.rank <;> rfl
    rw [pieces, ihLeft, ihRight, enclosed, enclosed, symbol, behind, lexemes, List.map_append,
      List.map_cons]

end Expr

namespace Derives

variable {rank other : Rank} {levels : Nat} {lexemes : List Lexeme} {e : Expr}

theorem loosen (phrase : Derives rank levels lexemes e)
    (looser : rank.looseness ≤ other.looseness) : Derives other levels lexemes e := by
  cases rank with
  | expression =>
    cases other with
    | expression => exact phrase
    | factor | term => exact absurd looser (by decide)
  | term =>
    cases other with
    | expression => exact .ofTerm phrase
    | term => exact phrase
    | factor => exact absurd looser (by decide)
  | factor =>
    cases other with
    | expression => exact .ofTerm (.ofFactor phrase)
    | term => exact .ofFactor phrase
    | factor => exact phrase

/-- A phrase is one of every rank that is no tighter than its tree. -/
theorem atRank (phrase : Derives rank levels lexemes e)
    (tight : e.rank.looseness ≤ other.looseness) : Derives other levels lexemes e := by
  induction phrase with
  | number value pos => exact (Derives.number value pos).loosen (Nat.zero_le _)
  | group opens within closes => exact (Derives.group opens within closes).loosen (Nat.zero_le _)
  | ofFactor _ ih | ofTerm _ ih => exact ih tight
  | product first operator second =>
    apply (Derives.product first operator second).loosen
    rcases Lexeme.kind_of_multiplicative? operator with ⟨-, rfl⟩ | ⟨-, rfl⟩
    all_goals exact tight
  | sum first operator second =>
    apply (Derives.sum first operator second).loosen
    rcases Lexeme.kind_of_additive? operator with ⟨-, rfl⟩ | ⟨-, rfl⟩
    all_goals exact tight

/-- A phrase that is tighter than its tree stands in parentheses. -/
theorem enclosed (phrase : Derives rank levels lexemes e)
    (loose : rank.looseness < e.rank.looseness) : ∃ deeper front inner back,
      levels = deeper + 1 ∧ lexemes = front :: (inner ++ [back]) ∧
        Derives .expression deeper inner e := by
  induction phrase with
  | number value pos => exact absurd loose (Nat.not_lt_zero _)
  | group opens within closes => exact ⟨_, _, _, _, rfl, rfl, within⟩
  | ofFactor _ ih | ofTerm _ ih => exact ih (by simp only [Rank.looseness] at loose ⊢; omega)
  | product first operator second =>
    rcases Lexeme.kind_of_multiplicative? operator with ⟨-, rfl⟩ | ⟨-, rfl⟩
    all_goals exact absurd loose (Nat.lt_irrefl _)
  | sum first operator second =>
    rcases Lexeme.kind_of_additive? operator with ⟨-, rfl⟩ | ⟨-, rfl⟩
    all_goals exact absurd loose (Nat.lt_irrefl _)

/-- With one level more, what is an expression may stand at any place. -/
theorem lexemesAt_of_expression (within : Derives .expression levels e.lexemes e) (rank : Rank) :
    Derives rank (levels + 1) (e.lexemesAt rank) e := by
  rcases Nat.lt_or_ge rank.looseness e.rank.looseness with loose | tight
  · rw [Expr.lexemesAt_of_lt loose]
    exact (Derives.group rfl within rfl).loosen (Nat.zero_le _)
  · rw [Expr.lexemesAt_of_le tight]
    exact (within.mono (Nat.le_succ _)).atRank tight

/-- What may stand at a place may stand at a looser one, where it may lose its parentheses. -/
theorem lexemesAt_loosen (phrase : Derives rank levels (e.lexemesAt rank) e)
    (looser : rank.looseness ≤ other.looseness) : Derives other levels (e.lexemesAt other) e := by
  -- The one case with work in it: the tree has parentheses at the first place and none at the
  -- other.
  rcases Nat.lt_or_ge rank.looseness e.rank.looseness with loose | tight
  · rcases Nat.lt_or_ge other.looseness e.rank.looseness with still | bare
    · rw [Expr.lexemesAt_of_lt loose, ← Expr.lexemesAt_of_lt still] at phrase
      exact phrase.loosen looser
    · rw [Expr.lexemesAt_of_lt loose] at phrase
      obtain ⟨deeper, front, inner, back, rfl, same, within⟩ := phrase.enclosed loose
      have inside := (List.append_inj' (List.cons.inj same).2 rfl).1
      rw [Expr.lexemesAt_of_le bare, inside]
      exact (within.mono (Nat.le_succ _)).atRank bare
  · rw [Expr.lexemesAt_of_le tight] at phrase
    rw [Expr.lexemesAt_of_le (tight.trans looser)]
    exact phrase.loosen looser

/-- Whatever phrase has a tree, the written form of the tree needs no more levels. -/
theorem lexemesAt (phrase : Derives rank levels lexemes e) :
    Derives rank levels (e.lexemesAt rank) e := by
  induction phrase with
  | number value pos => exact .number value 0
  | group _ _ _ ih =>
    rw [Expr.lexemesAt_expression] at ih
    exact ih.lexemesAt_of_expression .factor
  | ofFactor _ ih | ofTerm _ ih => exact ih.lexemesAt_loosen (by decide)
  | product _ operator _ ihFirst ihSecond =>
    rcases Lexeme.kind_of_multiplicative? operator with ⟨-, rfl⟩ | ⟨-, rfl⟩
    all_goals exact .product ihFirst rfl ihSecond
  | sum _ operator _ ihFirst ihSecond =>
    rcases Lexeme.kind_of_additive? operator with ⟨-, rfl⟩ | ⟨-, rfl⟩
    all_goals exact .sum ihFirst rfl ihSecond

end Derives

/-- The written form of a tree that can be read is a phrase, at some levels. -/
theorem Expr.Legible.derives {e : Expr} (legible : e.Legible) :
    ∃ levels, Derives .expression levels e.lexemes e := by
  induction e with
  | literal value => exact ⟨0, .ofTerm (.ofFactor (.number value 0))⟩
  | hole => exact legible.elim
  | binary op left right ihLeft ihRight =>
    obtain ⟨known, legibleLeft, legibleRight⟩ := legible
    obtain ⟨levels, first⟩ := ihLeft legibleLeft
    obtain ⟨levels', second⟩ := ihRight legibleRight
    refine ⟨max levels levels' + 1, ?_⟩
    have before := (first.mono (Nat.le_max_left levels levels')).lexemesAt_of_expression op.rank
    have behind := (second.mono (Nat.le_max_right levels levels')).lexemesAt_of_expression
      op.rank.tighter
    rw [Expr.lexemes_binary]
    simp only [Operator.known, List.mem_cons, List.not_mem_nil, or_false] at known
    rcases known with rfl | rfl | rfl | rfl
    · exact .sum before rfl behind
    · exact .sum before rfl behind
    · exact .ofTerm (.product before rfl behind)
    · exact .ofTerm (.product before rfl behind)

def Lexeme.Legible : Lexeme → Prop
  | .number value _ => 0 ≤ value ∧ value < 10 ^ Numeral.digitLimit
  | .mark m .. => ∃ c, Mark.ofChar? c = some m

theorem Mark.symbol_of_char {c : Char} {m : Mark} (mark : Mark.ofChar? c = some m) :
    m.symbol = [c] := by
  have each : ∀ pair ∈ Mark.characters, pair.2.symbol = [pair.1] := by decide
  exact each _ (Mark.ofChar?_eq_some_iff.mp mark)

theorem Expr.Legible.lexemes {e : Expr} (legible : e.Legible) : ∀ l ∈ e.lexemes, l.Legible := by
  have enclosed (bare : Bool) {lexemes : List Lexeme} (all : ∀ l ∈ lexemes, l.Legible) :
      ∀ l ∈ encloseLexemes bare lexemes, l.Legible := by
    intro l member
    cases bare with
    | true => exact all l member
    | false =>
      rcases List.mem_cons.mp member with rfl | member
      · exact ⟨'(', rfl⟩
      · rcases List.mem_append.mp member with inside | last
        · exact all l inside
        · obtain rfl := List.mem_singleton.mp last
          exact ⟨')', rfl⟩
  induction e with
  | literal value =>
    intro l member
    obtain rfl := List.mem_singleton.mp member
    exact legible
  | hole => exact legible.elim
  | binary op left right ihLeft ihRight =>
    obtain ⟨known, legibleLeft, legibleRight⟩ := legible
    intro l member
    rcases List.mem_append.mp member with before | behind
    · exact enclosed _ (ihLeft legibleLeft) l before
    · rcases List.mem_cons.mp behind with rfl | behind
      · simp only [Operator.known, List.mem_cons, List.not_mem_nil, or_false] at known
        rcases known with rfl | rfl | rfl | rfl
        exacts [⟨'+', rfl⟩, ⟨'-', rfl⟩, ⟨'*', rfl⟩, ⟨'/', rfl⟩]
      · exact enclosed _ (ihRight legibleRight) l behind

theorem scanFrom_spaces (spaces pos : Nat) (text : List Char) :
    TokenStream.scanFrom pos (List.replicate spaces ' ' ++ text) =
      TokenStream.scanFrom (pos + spaces) text := by
  induction spaces generalizing pos with
  | zero => rfl
  | succ spaces ih =>
    rw [List.replicate_succ, List.cons_append, TokenStream.scanFrom_space, ih]
    congr 1
    omega

/-- Behind a lexeme that no number may follow, the text goes on without a digit. -/
theorem Spaced.not_digit {lexemes : List Lexeme} {text : List Char}
    (spaced : Spaced (lexemes.map Lexeme.piece) text) (legible : ∀ l ∈ lexemes, l.Legible)
    (noNumber : ∀ l ∈ lexemes.head?, l.kind ≠ .number) : ∀ c ∈ text.head?, c.isDigit = false := by
  have blank {spaces : Nat} {rest : List Char} :
      ∀ c ∈ (List.replicate (spaces + 1) ' ' ++ rest).head?, c.isDigit = false := by
    rintro c ⟨⟩
    rfl
  match lexemes with
  | [] =>
    cases spaced with
    | nil spaces =>
      cases spaces with
      | zero => simp
      | succ spaces => simpa using @blank spaces []
  | l :: lexemes =>
    cases spaced with
    | @cons spaces _ _ text rest =>
      cases spaces with
      | succ spaces => exact blank
      | zero =>
        match l with
        | .number .. => exact absurd rfl (noNumber _ rfl)
        | .mark m spelling pos =>
          obtain ⟨c, mark⟩ := legible _ (List.mem_cons_self ..)
          simp only [Lexeme.piece, Mark.symbol_of_char mark]
          rintro d ⟨⟩
          exact isDigit_eq_false_of_mark mark

/-- The scanner reads back what is written piece by piece, if nowhere a number stands right behind
a number. -/
theorem scanFrom_spaced {lexemes : List Lexeme} {text : List Char}
    (spaced : Spaced (lexemes.map Lexeme.piece) text) (legible : ∀ l ∈ lexemes, l.Legible)
    (apart : lexemes.IsChain Lexeme.MayPrecede) (pos : Nat) :
    ∃ stream, TokenStream.scanFrom pos text = .ok stream ∧
      stream.lexemes.map Lexeme.bare = lexemes.map Lexeme.bare := by
  induction lexemes generalizing text pos with
  | nil =>
    cases spaced with
    | nil spaces =>
      refine ⟨⟨[], none, pos + spaces⟩, ?_, rfl⟩
      have read := scanFrom_spaces spaces pos []
      rwa [List.append_nil, TokenStream.scanFrom_nil] at read
  | cons l lexemes ih =>
    cases spaced with
    | @cons spaces _ _ text rest =>
      obtain ⟨follows, further⟩ := List.isChain_cons.mp apart
      have legibleRest : ∀ l ∈ lexemes, l.Legible :=
        fun l member => legible l (List.mem_cons_of_mem _ member)
      have first := legible l (List.mem_cons_self ..)
      rw [scanFrom_spaces]
      match l with
      | .number value _ =>
        obtain ⟨run, written, nonempty, digits, short, rfl⟩ := Numeral.write_eq_digits first
        have maximal : ∀ c ∈ text.head?, c.isDigit = false := by
          apply rest.not_digit legibleRest
          intro next head number
          exact follows next head (.inl rfl) (.inl number)
        obtain ⟨stream, read, same⟩ := ih rest legibleRest further (pos + spaces + run.length)
        refine ⟨stream.prepend [.number (Numeral.value run) (pos + spaces : Nat)], ?_, ?_⟩
        · rw [Lexeme.piece, written, TokenStream.scanFrom_run nonempty digits maximal,
            if_neg (Nat.not_lt_of_le short), read]
          rfl
        · exact congrArg (_ :: ·) same
      | .mark m _ _ =>
        obtain ⟨c, mark⟩ := first
        obtain ⟨stream, read, same⟩ := ih rest legibleRest further (pos + spaces + 1)
        refine ⟨stream.prepend [.mark m (some c.toString) (pos + spaces : Nat)], ?_, ?_⟩
        · rw [Lexeme.piece, Mark.symbol_of_char mark, List.singleton_append,
            TokenStream.scanFrom_mark mark, read]
          rfl
        · exact congrArg (_ :: ·) same

/-- What a text without faults holds can stand in a text. -/
theorem legible_of_scan {text : String} {stream : TokenStream}
    (read : TokenStream.scan text = .ok stream) : ∀ l ∈ stream.lexemes, l.Legible := by
  obtain ⟨-, ⟨-, members⟩, -⟩ := scan_eq_ok_iff.mp read
  intro l member
  rcases Lexeme.standsIn_iff.mp ((members l).mp member) with
    ⟨run, start, runs, short, rfl⟩ | ⟨c, m, start, -, mark, rfl⟩
  · have below : Numeral.value run < 10 ^ Numeral.digitLimit :=
      (Numeral.value_lt runs.2.1).trans_le (Nat.pow_le_pow_right (by decide) short)
    exact ⟨Int.natCast_nonneg _, (Numeral.natAbs_lt_limit_iff (Int.natCast_nonneg _)).mp below⟩
  · exact ⟨c, mark⟩

/-- A phrase of lexemes that can stand in a text has a tree that can be read. -/
theorem Derives.legible {rank : Rank} {levels : Nat} {lexemes : List Lexeme} {e : Expr}
    (phrase : Derives rank levels lexemes e) (all : ∀ l ∈ lexemes, l.Legible) : e.Legible := by
  induction phrase with
  | number value pos => exact all _ (List.mem_cons_self ..)
  | group _ _ _ ih =>
    apply ih
    intro l member
    exact all l (List.mem_cons_of_mem _ (List.mem_append_left _ member))
  | ofFactor _ ih | ofTerm _ ih => exact ih all
  | product _ operator _ ihFirst ihSecond =>
    refine ⟨?_, ihFirst fun l member => all l (List.mem_append_left _ member),
      ihSecond fun l member => all l (List.mem_append_right _ (List.mem_cons_of_mem _ member))⟩
    rcases Lexeme.kind_of_multiplicative? operator with ⟨-, rfl⟩ | ⟨-, rfl⟩
    all_goals decide
  | sum _ operator _ ihFirst ihSecond =>
    refine ⟨?_, ihFirst fun l member => all l (List.mem_append_left _ member),
      ihSecond fun l member => all l (List.mem_append_right _ (List.mem_cons_of_mem _ member))⟩
    rcases Lexeme.kind_of_additive? operator with ⟨-, rfl⟩ | ⟨-, rfl⟩
    all_goals decide

/-- A written form is read as lexemes that are a phrase of its tree, at just the levels that its
parentheses need. -/
theorem scan_of_spaced {e : Expr} {text : String} (legible : e.Legible)
    (spaced : Spaced e.pieces text.toList) : ∃ stream, TokenStream.scan text = .ok stream ∧
      stream.lexemes.map Lexeme.bare = e.lexemes.map Lexeme.bare ∧
      ∀ levels, Derives .expression levels stream.lexemes e ↔ NestsWithin levels text.toList := by
  obtain ⟨levels, phrase⟩ := legible.derives
  rw [Expr.pieces_eq] at spaced
  obtain ⟨stream, read, same⟩ := scanFrom_spaced spaced legible.lexemes phrase.isChain 0
  refine ⟨stream, read, same, ?_⟩
  intro fewer
  exact (nestsWithin_iff_derives read (phrase.of_bare same) fewer).symm

/-- Reading undoes writing: however the pieces of the written form of a tree are spaced, the text
is read as the tree if its parentheses nest within the limit and refused otherwise. And what any
text is read as can be written so: it is written with no deeper parentheses than the text has, and
the written form is read as the same tree. -/
theorem parse_undoes_print :
    (∀ (e : Expr) (text : String), e.Legible → Spaced e.pieces text.toList →
      ∃ stream, TokenStream.scan text = .ok stream ∧
        (NestsWithin nestingLimit text.toList → stream.parse = .ok e) ∧
        (¬NestsWithin nestingLimit text.toList →
          ∃ error, stream.parse = .error error ∧
            (Error.grammar error).kind = .invalidExpression)) ∧
      ∀ (text : String) (stream : TokenStream) (e : Expr),
        TokenStream.scan text = .ok stream → stream.parse = .ok e →
          e.Legible ∧ ∀ printed : String, Spaced e.pieces printed.toList →
            (∀ levels, NestsWithin levels text.toList → NestsWithin levels printed.toList) ∧
              ∃ again, TokenStream.scan printed = .ok again ∧ again.parse = .ok e := by
  constructor
  · intro e text legible spaced
    obtain ⟨stream, read, -, derives⟩ := scan_of_spaced legible spaced
    refine ⟨stream, read, ?_, ?_⟩
    · intro nests
      rw [TokenStream.parse_eq_ok_iff, derives]
      exact nests
    · intro deep
      match parsed : stream.parse with
      | .error error => exact ⟨error, rfl, TokenStream.kind_of_parse parsed⟩
      | .ok other =>
        have phrase := TokenStream.parse_eq_ok_iff.mp parsed
        exact absurd ((nestsWithin_iff_derives read phrase nestingLimit).mpr phrase) deep
  · intro text stream e read parsed
    have phrase := TokenStream.parse_eq_ok_iff.mp parsed
    have legible := phrase.legible (legible_of_scan read)
    refine ⟨legible, ?_⟩
    intro printed spaced
    obtain ⟨again, readAgain, same, derives⟩ := scan_of_spaced legible spaced
    have fewest (levels : Nat) (nests : NestsWithin levels text.toList) :
        Derives .expression levels again.lexemes e := by
      have written := ((nestsWithin_iff_derives read phrase levels).mp nests).lexemesAt
      rw [Expr.lexemesAt_expression] at written
      exact written.of_bare same
    refine ⟨fun levels nests => (derives levels).mp (fewest levels nests), again, readAgain, ?_⟩
    apply TokenStream.parse_eq_ok_iff.mpr
    exact fewest nestingLimit ((nestsWithin_iff_derives read phrase nestingLimit).mpr phrase)

end Reckoner
