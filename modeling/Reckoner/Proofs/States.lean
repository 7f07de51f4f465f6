import Reckoner.Proofs.Calls
import Reckoner.Proofs.Lookahead

/-! # States over a list of tokens

The state of a parser over a list of tokens is an index and a depth. Every index of a list that
ends in an end mark is one at which a cursor can stand; a way of the cursor is a stretch of the
list; and where two lists agree, a way in one of them is mirrored in the other.
-/

namespace Reckoner

theorem parseTokens_of_start {tokens : List Token} {start : Cursor}
    (started : Cursor.ofTokens tokens = .ok start) : parseTokens tokens = start.parse.answer := by
  rw [parseTokens, started]
  rfl

namespace Cursor

/-- The cursor stands at an index of a list of tokens, within `depth` parentheses: ahead of it lies
what comes before the next end mark. -/
structure IsAt (c : Cursor) (tokens : List Token) (index depth : Nat) : Prop where
  rest : ∃ tail, tokens.drop index = c.ahead.map Token.lexeme ++ .stop c.stop :: tail
  pos : c.pos = index
  depth : c.depth = depth

/-- At every index of a list that ends in an end mark a cursor can stand. -/
theorem exists_isAt {tokens : List Token} {last : EndMark}
    (closed : tokens.getLast? = some (.stop last)) {index : Nat} (inside : index < tokens.length)
    (depth : Nat) : ∃ c : Cursor, c.IsAt tokens index depth := by
  have member : .stop last ∈ tokens.drop index := by
    apply List.mem_of_getLast?
    rw [List.getLast?_drop, if_neg (Nat.not_le_of_lt inside), closed]
  obtain ⟨stream, tail, parts⟩ := TokenStream.exists_opens member
  exact ⟨⟨stream.lexemes, stream.stop, index, depth⟩, ⟨tail, parts⟩, rfl, rfl⟩

/-- The cursor at the beginning of such a list stands at its first index. -/
theorem exists_start_isAt {tokens : List Token} {last : EndMark}
    (closed : tokens.getLast? = some (.stop last)) :
    ∃ start, ofTokens tokens = .ok start ∧ start.IsAt tokens 0 0 := by
  obtain ⟨stream, ⟨tail, parts⟩, started⟩ := TokenStream.exists_start closed
  exact ⟨stream.cursor 0 0, started, ⟨tail, parts⟩, rfl, rfl⟩

theorem token_of_cons {c : Cursor} {l : Lexeme} {rest : List Lexeme} (ahead : c.ahead = l :: rest) :
    c.token = .lexeme l := by
  rw [token, ahead]

theorem exists_ahead_of_token {c : Cursor} {l : Lexeme} (found : c.token = .lexeme l) :
    ∃ rest, c.ahead = l :: rest := by
  rw [token] at found
  cases ahead : c.ahead with
  | nil => rw [ahead] at found; cases found
  | cons l' rest => rw [ahead] at found; cases found; exact ⟨rest, rfl⟩

namespace IsAt

variable {c d c' : Cursor} {tokens others : List Token} {index depth : Nat} {lexemes : List Lexeme}

theorem getElem?_eq (stands : c.IsAt tokens index depth) : tokens[index]? = some c.token := by
  obtain ⟨tail, parts⟩ := stands.rest
  have first : (tokens.drop index).head? = tokens[index]? := List.head?_drop
  rw [← first, parts, token]
  cases c.ahead <;> rfl

theorem next {l : Lexeme} {rest : List Lexeme} (stands : c.IsAt tokens index depth)
    (ahead : c.ahead = l :: rest) : c.next.IsAt tokens (index + 1) depth := by
  obtain ⟨tail, parts⟩ := stands.rest
  rw [next_of_cons ahead]
  refine ⟨⟨tail, ?_⟩, congrArg (· + 1) stands.pos, stands.depth⟩
  rw [← List.drop_drop, parts, ahead]
  rfl

/-- A way leads along a stretch of the list, to another index of it. -/
theorem of_passes (stands : c.IsAt tokens index depth) (passes : c.Passes lexemes d) :
    d.IsAt tokens d.pos d.depth ∧ (tokens.take d.pos).drop index = lexemes.map Token.lexeme := by
  obtain ⟨tail, parts⟩ := stands.rest
  have pos : d.pos = index + lexemes.length := by rw [passes.pos, stands.pos]
  rw [passes.ahead, ← passes.stop, List.map_append, List.append_assoc] at parts
  refine ⟨⟨⟨tail, ?_⟩, rfl, rfl⟩, ?_⟩
  · rw [pos, ← List.drop_drop, parts]
    exact List.drop_left' (List.length_map _)
  · rw [pos, List.drop_take, Nat.add_sub_cancel_left, parts]
    exact List.take_left' (List.length_map _)

theorem token_eq (stands : c.IsAt tokens index depth) (stands' : c'.IsAt others index depth)
    (agree : others[index]? = tokens[index]?) : c'.token = c.token := by
  rw [stands.getElem?_eq, stands'.getElem?_eq] at agree
  exact Option.some.inj agree

/-- A way in one list is mirrored in every list that agrees with it up to the end of the way. -/
theorem exists_mirrors (stands : c.IsAt tokens index depth) (stands' : c'.IsAt others index depth)
    (passes : c.Passes lexemes d)
    (agree : ∀ i, index ≤ i → i ≤ d.pos → others[i]? = tokens[i]?) :
    ∃ d', d'.IsAt others d.pos d.depth ∧ Mirrors c d c' d' := by
  have forward : index ≤ d.pos := by
    rw [passes.pos, stands.pos]
    exact Nat.le_add_right ..
  have same := stands.token_eq stands' (agree index (Nat.le_refl _) forward)
  have entry : c'.depth = c.depth := stands'.depth.trans stands.depth.symm
  -- On the lexemes of the way in the first list; the second one is asked for the same lexeme each
  -- time, so the tokens before both cursors are known to agree at every step.
  induction lexemes generalizing c c' index with
  | nil =>
    have pos : d.pos = index := passes.pos.trans stands.pos
    have ahead : c.ahead = d.ahead := passes.ahead
    let d' : Cursor := ⟨c'.ahead, c'.stop, c'.pos, d.depth⟩
    have token : d'.token = d.token := by
      rw [show d'.token = c'.token from rfl, same, Cursor.token, Cursor.token, ahead, passes.stop]
    refine ⟨d', ⟨?_, ?_, rfl⟩, ⟨[], passes, rfl, rfl, rfl⟩, entry, rfl, token⟩
    · rw [pos]
      exact stands'.rest
    · rw [pos]
      exact stands'.pos
  | cons l lexemes ih =>
    have ahead : c.ahead = l :: (lexemes ++ d.ahead) := passes.ahead
    obtain ⟨rest, ahead'⟩ := exists_ahead_of_token (same.trans (token_of_cons ahead))
    have further : index + 1 ≤ d.pos := by
      rw [passes.pos, stands.pos, List.length_cons]
      omega
    have later : ∀ i, index + 1 ≤ i → i ≤ d.pos → others[i]? = tokens[i]? :=
      fun i behind before => agree i (Nat.le_of_succ_le behind) before
    obtain ⟨d', standing, ⟨passed, first, second⟩, -, exit, token⟩ :=
      ih (stands.next ahead) (stands'.next ahead') passes.tail later further
        ((stands.next ahead).token_eq (stands'.next ahead') (later _ (Nat.le_refl _) further))
        (by rw [depth_next, depth_next, entry])
    exact ⟨d', standing, ⟨l :: passed, .cons ahead first, .cons ahead' second⟩, entry, exit, token⟩

end IsAt

end Cursor

end Reckoner
