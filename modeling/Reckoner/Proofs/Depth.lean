import Reckoner.Proofs.Sequences
import Reckoner.Proofs.States

/-! # The depth accounts for the parentheses passed

A step into a parenthesis raises the depth, a step out of one lowers it, and no other step changes
it. So wherever a call ends, the depth has risen by just as many levels as parentheses have been
opened and not closed on the way; a call that returns has closed them all, and a call that fails
leaves the others open for good.
-/

namespace Reckoner

/-- Just `n` of the parentheses are left open: before, between and behind them the lexemes are
closed. -/
inductive LeavesOpen : (n : Nat) → List Lexeme → Prop where
  | closed {lexemes : List Lexeme} (closed : Closed lexemes) : LeavesOpen 0 lexemes
  | opening {n : Nat} {front back : List Lexeme} {l : Lexeme} (before : LeavesOpen n front)
      (opens : l.kind = .mark .opening) (behind : Closed back) :
      LeavesOpen (n + 1) (front ++ l :: back)

theorem Closed.nil : Closed [] := by
  refine ⟨rfl, ?_⟩
  intro part leading
  rw [List.prefix_nil.mp leading]
  exact Int.le_refl _

namespace LeavesOpen

variable {n : Nat} {lexemes front back : List Lexeme} {l : Lexeme}

theorem append_closed (open' : LeavesOpen n front) (closed : Closed back) :
    LeavesOpen n (front ++ back) := by
  cases open' with
  | closed first => exact .closed (first.append closed)
  | opening before opens behind =>
    rw [List.append_assoc]
    exact .opening before opens (behind.append closed)

/-- A closing parenthesis closes the one that was opened last. -/
theorem leave (open' : LeavesOpen (n + 1) front) (closes : l.kind = .mark .closing) :
    LeavesOpen n (front ++ [l]) := by
  cases open' with
  | opening before opens behind =>
    rw [List.append_assoc]
    exact before.append_closed (.group opens behind closes)

/-- Along the way to them at least as many parentheses have been opened as closed, and in the end
just so many more. -/
theorem surplus_eq (open' : LeavesOpen n lexemes) :
    surplus lexemes = n ∧ ∀ part, part <+: lexemes → 0 ≤ surplus part := by
  induction open' with
  | closed closed => exact ⟨closed.settled, closed.nonneg⟩
  | @opening n front back l _ opens behind ih =>
    obtain ⟨settled, nonneg⟩ := ih
    refine ⟨?_, ?_⟩
    · rw [surplus_append, settled, surplus_cons, surplus_opening opens, behind.settled]
      rfl
    · intro part leading
      obtain within | ⟨beyond, rfl⟩ :=
        List.prefix_or_prefix_of_prefix leading (List.prefix_append ..)
      · exact nonneg part within
      · rw [surplus_append, settled]
        have rest := (List.prefix_append_right_inj front).mp leading
        rcases List.prefix_cons_iff.mp rest with rfl | ⟨inner, rfl, further⟩
        · exact Int.natCast_nonneg n
        · rw [surplus_cons, surplus_opening opens]
          have inside := behind.nonneg inner further
          omega

end LeavesOpen

namespace Cursor

/-- On the way from `c` to `d` past these lexemes the depth accounts for the parentheses. -/
structure Accounts (c : Cursor) (lexemes : List Lexeme) (d : Cursor) : Prop where
  passes : c.Passes lexemes d
  depth_le : c.depth ≤ d.depth
  leavesOpen : LeavesOpen (d.depth - c.depth) lexemes
  room : ∀ part, part <+: lexemes → c.depth + surplus part ≤ nestingLimit

namespace Accounts

variable {c d d' : Cursor} {lexemes : List Lexeme}

theorem surplus_eq (accounts : c.Accounts lexemes d) : surplus lexemes = d.depth - c.depth := by
  rw [accounts.leavesOpen.surplus_eq.1]
  exact Int.ofNat_sub accounts.depth_le

theorem refl (room : c.depth ≤ nestingLimit) : c.Accounts [] c := by
  refine ⟨.refl c, Nat.le_refl _, ?_, ?_⟩
  · rw [Nat.sub_self]
    exact .closed .nil
  · intro part leading
    rw [List.prefix_nil.mp leading]
    exact Int.ofNat_le.mpr room

theorem step (accounts : c.Accounts lexemes d) (step : Step c.depth d d')
    (within : d.depth ≤ nestingLimit) : ∃ l, c.Accounts (lexemes ++ [l]) d' := by
  have deeper := accounts.depth_le
  have extend {l : Lexeme} (passed : d.Passes [l] d') (depth_le : c.depth ≤ d'.depth)
      (leavesOpen : LeavesOpen (d'.depth - c.depth) (lexemes ++ [l])) :
      c.Accounts (lexemes ++ [l]) d' := by
    refine ⟨accounts.passes.trans passed, depth_le, leavesOpen, ?_⟩
    intro part leading
    rcases List.prefix_concat_iff.mp leading with rfl | before
    · have limit := step.depth_le within
      rw [leavesOpen.surplus_eq.1]
      omega
    · exact accounts.room part before
  obtain ⟨l, passed⟩ := step.passes
  have first {l' : Lexeme} {rest : List Lexeme} (ahead : d.ahead = l' :: rest) : l' = l := by
    have same := ahead.symm.trans passed.ahead
    exact (List.cons.inj same).1
  refine ⟨l, extend passed ?_ ?_⟩
  · exact step.floor_le deeper
  · cases step with
    | pass ahead plain =>
      obtain rfl := first ahead
      rw [depth_next]
      exact accounts.leavesOpen.append_closed (.plain plain)
    | enter ahead opens room =>
      obtain rfl := first ahead
      rw [depth_enter_next, Nat.sub_add_comm deeper]
      exact .opening accounts.leavesOpen opens .nil
    | leave ahead closes inside =>
      obtain rfl := first ahead
      -- The walk keeps above its floor, so there is a parenthesis left for this one to close.
      have last : d.depth - c.depth = (d.depth - 1 - c.depth) + 1 := by omega
      have leavesOpen := accounts.leavesOpen
      rw [last] at leavesOpen
      rw [depth_leave_next]
      exact leavesOpen.leave closes

end Accounts

/-- Wherever a walk ends, the depth accounts for the parentheses on the way. -/
theorem Walks.accounts {c d : Cursor} (walks : Walks c.depth c d) (room : c.depth ≤ nestingLimit) :
    ∃ lexemes, c.Accounts lexemes d := by
  induction walks with
  | refl => exact ⟨[], .refl room⟩
  | tail before step ih =>
    obtain ⟨lexemes, accounts⟩ := ih
    obtain ⟨l, longer⟩ := accounts.step step (Walks.depth_le before room)
    exact ⟨lexemes ++ [l], longer⟩

/-- A reading call that returns ends at the depth at which it began. -/
theorem depth_of_returns {c : Cursor} {call : Call} (reading : call ∈ Call.reading) {room : Nat}
    {found : Found} (returns : (c.call call room).answer = .ok found) :
    (c.call call room).cursor.depth = c.depth := by
  have returning (rank : Rank) {found : Found}
      (returns : (((Parser.ofRank rank (c.bottom room) (min c.levels room)).run c).map
        Found.tree).answer = .ok found) :
      ((Parser.ofRank rank (c.bottom room) (min c.levels room)).run c).cursor.depth = c.depth := by
    rcases reply : (Parser.ofRank rank (c.bottom room) (min c.levels room)).run c with
      ⟨error | e, d⟩
    · rw [reply] at returns
      cases returns
    · exact Parser.returning_ofRank rank _ _ c e d reply
  simp only [Call.reading, List.mem_cons, List.not_mem_nil, or_false] at reading
  rcases reading with rfl | rfl | rfl | rfl
  · change c.parse.cursor.depth = c.depth
    rcases reply : c.parse with ⟨error | e, d⟩
    · rw [call, reply] at returns
      cases returns
    · have expression := (parse_eq_ok_iff.mp reply).1
      exact Parser.returning_ofRank .expression .limit c.levels c e d expression
  · exact returning .expression returns
  · exact returning .term returns
  · exact returning .factor returns

end Cursor

def tally (kind : Kind) (tokens : List Token) : Nat :=
  tokens.countP fun token => token.kind = kind

theorem tally_cons (kind : Kind) (token : Token) (rest : List Token) :
    tally kind (token :: rest) = tally kind rest + if token.kind = kind then 1 else 0 := by
  rw [tally, List.countP_cons]
  simp [tally]

theorem surplus_eq_tally (lexemes : List Lexeme) :
    surplus lexemes = (tally (.mark .opening) (lexemes.map .lexeme) : Int) -
      tally (.mark .closing) (lexemes.map .lexeme) := by
  induction lexemes with
  | nil => rfl
  | cons l rest ih =>
    rw [surplus_cons, ih, List.map_cons, tally_cons, tally_cons, Token.kind]
    cases l with
    | number => rw [surplus_plain rfl]; simp [Lexeme.kind]
    | mark m =>
      cases m with
      | opening => rw [surplus_opening rfl]; simp [Lexeme.kind]; omega
      | closing => rw [surplus_closing rfl]; simp [Lexeme.kind]; omega
      | plus | minus | star | slash | other => rw [surplus_plain rfl]; simp [Lexeme.kind]

/-- Wherever a reading call ends, the depth has risen by just as many levels as it passed opening
parentheses more than closing ones; and nowhere on the way are more closed than opened, or more
open than there is room for. The rise is the number of parentheses left open for good, and the
calls after it have as many levels less. A call that returns leaves none open. All that holds
whatever room a call has on the stack. -/
theorem depth_accounts_for_parentheses {tokens : List Token} {last : EndMark}
    (closed : tokens.getLast? = some (.stop last)) :
    (∃ start, Cursor.ofTokens tokens = .ok start ∧ start.IsAt tokens 0 0) ∧
      (∀ index depth, index < tokens.length → ∃ c : Cursor, c.IsAt tokens index depth) ∧
      ∀ (c : Cursor) index depth, c.IsAt tokens index depth → depth ≤ nestingLimit →
        ∀ call ∈ Call.reading, ∀ room,
          let reply := c.call call room
          let d := reply.cursor
          let slice := (tokens.take d.pos).drop index
          d.IsAt tokens d.pos d.depth ∧ index ≤ d.pos ∧
            (d.depth : Int) - depth =
              (tally (.mark .opening) slice : Int) - tally (.mark .closing) slice ∧
            (∀ part, part <+: slice →
              tally (.mark .closing) part ≤ tally (.mark .opening) part ∧
                tally (.mark .opening) part ≤
                  tally (.mark .closing) part + (nestingLimit - depth)) ∧
            ((∃ found, reply.answer = .ok found) → d.depth = depth) ∧
            ∃ passed lost, slice = passed.map Token.lexeme ∧ LeavesOpen lost passed ∧
              d.depth = depth + lost ∧ c.levels = d.levels + lost := by
  refine ⟨Cursor.exists_start_isAt closed, fun _ depth inside =>
    Cursor.exists_isAt closed inside depth, ?_⟩
  intro c index depth stands within call reading room reply d slice
  obtain rfl := stands.depth
  have walks : Cursor.Walks c.depth c d := Cursor.walks_call within reading room
  obtain ⟨passed, accounts⟩ := walks.accounts within
  obtain ⟨standing, cut⟩ := stands.of_passes accounts.passes
  change slice = passed.map Token.lexeme at cut
  have deeper := accounts.depth_le
  have limit := walks.depth_le within
  refine ⟨standing, ?_, ?_, ?_, ?_, passed, d.depth - c.depth, cut, accounts.leavesOpen, ?_, ?_⟩
  · rw [← stands.pos, accounts.passes.pos]
    exact Nat.le_add_right ..
  · rw [cut, ← surplus_eq_tally, accounts.surplus_eq]
  · intro part leading
    rw [cut] at leading
    obtain ⟨lexemes, before, rfl⟩ := List.prefix_map_iff.mp leading
    have nonneg := accounts.leavesOpen.surplus_eq.2 lexemes before
    have room := accounts.room lexemes before
    rw [surplus_eq_tally] at nonneg room
    omega
  · rintro ⟨found, returns⟩
    exact Cursor.depth_of_returns reading returns
  · exact (Nat.add_sub_cancel' deeper).symm
  · have levels : nestingLimit - c.depth = nestingLimit - d.depth + (d.depth - c.depth) := by omega
    exact levels

/-- `((1)+(2` -/
private def brokenSum : List Lexeme :=
  [.mark .opening (some "(") 0, .mark .opening (some "(") 1, .number 1 2,
    .mark .closing (some ")") 3, .mark .plus (some "+") 4, .mark .opening (some "(") 5,
    .number 2 6]

/-- Two levels below the limit there is just room for the parentheses of the sum. It fails at its
end with two of them open, and then there is no room for any. -/
theorem depth_accounts_for_broken_sum :
    let tokens := brokenSum.map Token.lexeme ++ [.stop ⟨none, 7⟩]
    let c : Cursor := ⟨brokenSum, ⟨none, 7⟩, 0, 998⟩
    tokens.getLast? = some (.stop ⟨none, 7⟩) ∧ c.IsAt tokens 0 998 ∧
      998 ≤ nestingLimit ∧ .expression ∈ Call.reading ∧
      (c.call .expression 5).answer = .error (.mismatch (.mark .closing) (.stop ⟨none, 7⟩)) ∧
      tally (.mark .opening) (brokenSum.map .lexeme) = 3 ∧
      tally (.mark .closing) (brokenSum.map .lexeme) = 1 ∧
      LeavesOpen 2 brokenSum ∧ (c.call .expression 5).cursor.levels = 0 := by
  intro tokens c
  have stands : c.IsAt tokens 0 998 := ⟨⟨[], rfl⟩, rfl, rfl⟩
  have reading : Call.expression ∈ Call.reading := by decide
  have pos : (c.call .expression 5).cursor.pos = 7 := by decide +kernel
  have closed : tokens.getLast? = some (.stop ⟨none, 7⟩) := rfl
  obtain ⟨-, -, -, -, -, passed, lost, cut, leavesOpen, -, levels⟩ :=
    (depth_accounts_for_parentheses closed).2.2 c 0 998 stands (by decide) .expression reading
      5
  rw [pos] at cut
  have injective : Function.Injective Token.lexeme := fun _ _ => Token.lexeme.inj
  have passed_eq : brokenSum = passed := List.map_injective_iff.mpr injective cut
  have two : lost = 2 := by
    have settled := leavesOpen.surplus_eq.1
    rw [← passed_eq] at settled
    exact Int.ofNat.inj settled.symm
  subst passed_eq two
  refine ⟨closed, stands, by decide, reading, by decide +kernel, rfl, rfl, leavesOpen, ?_⟩
  exact (Nat.add_right_cancel (show 0 + 2 = _ from levels)).symm

end Reckoner
