import Mathlib.Data.List.Basic
import Mathlib.Data.List.Induction
import SearchQuery.Proofs.Token.Cursor

/-!
# Any sequence of moves

A cursor can be asked for the next token, to cut the last token again, and to go
back to the start of the query, in any order and also when nothing is left.  It
never leaves its query, and what it gives is always what stands in the query
between the place where the last token begins and the place where the cursor is
then.  Behind it all is one invariant: the last token begins with a graph, so that
it can be cut again whatever has happened since it was read.
-/

namespace SearchQuery

inductive Move where
  | next
  | recut
  | restart
  deriving DecidableEq, Repr

abbrev Log := List (Move × Option Token)

/-- A token was given, and the cursor has not gone back to the start since. -/
def Log.HoldsToken (log : Log) : Prop :=
  ∃ before move token behind, log = before ++ (move, some token) :: behind ∧
    ∀ entry ∈ behind, entry.1 ≠ Move.restart

theorem Log.holdsToken_concat {log : Log} {move : Move} {answer : Option Token} :
    HoldsToken (log ++ [(move, answer)]) ↔
      answer.isSome = true ∨ move ≠ .restart ∧ log.HoldsToken := by
  constructor
  · rintro ⟨before, made, token, behind, hsplit, hbehind⟩
    rcases List.eq_nil_or_concat' behind with rfl | ⟨front, entry, rfl⟩
    · left
      rcases List.append_inj' hsplit rfl with ⟨-, hentry⟩
      cases hentry
      rfl
    · right
      rw [← List.cons_append, ← List.append_assoc] at hsplit
      rcases List.append_inj' hsplit rfl with ⟨hlog, hentry⟩
      cases hentry
      exact ⟨hbehind (move, answer) (by simp), before, made, token, front, hlog,
        fun entry hentry => hbehind entry (List.mem_append_left _ hentry)⟩
  · rintro (hanswer | ⟨hmove, before, made, token, behind, rfl, hbehind⟩)
    · rcases Option.isSome_iff_exists.mp hanswer with ⟨token, rfl⟩
      exact ⟨log, move, token, [], rfl, by simp⟩
    · refine ⟨before, made, token, behind ++ [(move, answer)], by simp, ?_⟩
      intro entry hentry
      rcases List.mem_append.mp hentry with hentry | hentry
      · exact hbehind entry hentry
      · rw [List.mem_singleton.mp hentry]
        exact hmove

namespace Cursor

def move (cursor : Cursor) : Move → Option Token × Cursor
  | .next => cursor.next
  | .recut => cursor.recut
  | .restart => (none, cursor.restart)

def run (cursor : Cursor) (moves : List Move) : Log × Cursor :=
  moves.foldl
    (fun state move =>
      (state.1 ++ [(move, (state.2.move move).1)], (state.2.move move).2))
    ([], cursor)

@[simp] theorem run_nil (cursor : Cursor) : cursor.run [] = ([], cursor) := rfl

theorem run_concat (cursor : Cursor) (moves : List Move) (move : Move) :
    cursor.run (moves ++ [move]) =
      ((cursor.run moves).1 ++ [(move, ((cursor.run moves).2.move move).1)],
        ((cursor.run moves).2.move move).2) := by
  simp only [run, List.foldl_append, List.foldl_cons, List.foldl_nil]

/-!
## One move
-/

/-- The cursor and the last token are in the query, and the last token begins with a
graph. -/
structure WellPlaced (cursor : Cursor) : Prop where
  rest_suffix : cursor.rest <:+ cursor.query
  last_suffix : ∀ start ∈ cursor.last, start <:+ cursor.query
  last_graph : ∀ start ∈ cursor.last, ¬ Text.OpensOutside Text.isGraph start

/-- What a move can do: take a cut, find that nothing is left or that there is no last
token, or go back to the start. -/
inductive Answers (cursor : Cursor) : Move → Option Token → Cursor → Prop where
  | took {move : Move} {start : Text} {cut : Cut} (hmove : move ≠ .restart)
      (hstart : start <:+ cursor.query) (hgraph : ¬ Text.OpensOutside Text.isGraph start)
      (hcut : cut.Divides start) :
      Answers cursor move (some ⟨cut.text⟩) (cursor.take start cut)
  | exhausted (hnone : Cut.token? (Text.trimStart cursor.rest) = none) :
      Answers cursor .next none { cursor with rest := Text.trimStart cursor.rest }
  | unread (hlast : cursor.last = none) : Answers cursor .recut none cursor
  | restarted : Answers cursor .restart none cursor.restart

theorem exists_plain?_of_graph {start : Text}
    (h : ¬ Text.OpensOutside Text.isGraph start) : ∃ cut, Cut.plain? start = some cut := by
  rw [← Cut.token?_eq_none_iff] at h
  rcases Option.ne_none_iff_exists'.mp h with ⟨cut, hcut⟩
  exact Cut.exists_plain?_of_token? hcut

theorem answers_move {cursor : Cursor} (h : cursor.WellPlaced) (move : Move) :
    cursor.Answers move (cursor.move move).1 (cursor.move move).2 := by
  cases move with
  | next =>
      cases hcut : Cut.token? (Text.trimStart cursor.rest) with
      | none =>
          rw [Cursor.move, next_of_token?_none hcut]
          exact Answers.exhausted hcut
      | some cut =>
          have hsuffix : Text.trimStart cursor.rest <:+ cursor.query :=
            (List.dropWhile_suffix _).trans h.rest_suffix
          have hgraph : ¬ Text.OpensOutside Text.isGraph (Text.trimStart cursor.rest) := by
            rw [← Cut.token?_eq_none_iff, hcut]
            simp
          rw [Cursor.move, next_of_token? hcut]
          exact Answers.took (by decide) hsuffix hgraph (Cut.divides_of_token? hcut)
  | recut =>
      cases hlast : cursor.last with
      | none =>
          rw [Cursor.move, recut_of_last_none hlast]
          exact Answers.unread hlast
      | some start =>
          have hgraph := h.last_graph start hlast
          rcases exists_plain?_of_graph hgraph with ⟨cut, hcut⟩
          rw [Cursor.move, recut_of_last_some hlast hcut]
          exact Answers.took (by decide) (h.last_suffix start hlast) hgraph
            (Cut.divides_of_plain? hcut)
  | restart =>
      exact Answers.restarted

namespace Answers

variable {cursor after : Cursor} {move : Move} {answer : Option Token}

theorem query_eq (h : cursor.Answers move answer after) : after.query = cursor.query := by
  cases h <;> rfl

theorem wellPlaced (h : cursor.Answers move answer after) (hcursor : cursor.WellPlaced) :
    after.WellPlaced := by
  cases h with
  | took hmove hstart hgraph hcut =>
      rename_i start cut
      have hrest : cut.rest <:+ start := ⟨cut.text, hcut.whole⟩
      refine ⟨hrest.trans hstart, ?_, ?_⟩
      · intro other hother
        rw [← Option.mem_some_iff.mp hother]
        exact hstart
      · intro other hother
        rw [← Option.mem_some_iff.mp hother]
        exact hgraph
  | exhausted hnone =>
      exact ⟨(List.dropWhile_suffix _).trans hcursor.rest_suffix, hcursor.last_suffix,
        hcursor.last_graph⟩
  | unread hlast =>
      exact hcursor
  | restarted =>
      exact ⟨List.suffix_rfl, by simp [restart], by simp [restart]⟩

theorem isSome_last_iff (h : cursor.Answers move answer after) :
    after.last.isSome = true ↔
      answer.isSome = true ∨ move ≠ .restart ∧ cursor.last.isSome = true := by
  cases h with
  | took hmove hstart hgraph hcut =>
      simp [take]
  | exhausted hnone =>
      simp
  | unread hlast =>
      simp
  | restarted =>
      simp [restart]

theorem lastSpan_holds {token : Token} (h : cursor.Answers move (some token) after) :
    after.last.isSome = true ∧ after.lastSpan.Holds cursor.query token.raw ∧
      after.lastSpan.start < after.lastSpan.stop ∧ after.lastSpan.stop = after.position := by
  cases h with
  | took hmove hstart hgraph hcut =>
      rename_i start cut
      rcases hstart with ⟨before, hquery⟩
      rw [← hcut.whole, ← List.append_assoc] at hquery
      have hbegin : Text.byteLength cursor.query - Text.byteLength start =
          Text.byteLength before := by
        rw [← hquery, ← hcut.whole, List.append_assoc, Text.byteLength_append before]
        omega
      have hend : Text.byteLength cursor.query - Text.byteLength cut.rest =
          Text.byteLength (before ++ cut.text) :=
        Text.byteLength_sub_of_append hquery.symm
      have hpos := Text.byteLength_pos hcut.nonempty
      refine ⟨rfl, ⟨before, cut.rest, hquery.symm, hbegin, hend⟩, ?_, rfl⟩
      simp only [lastSpan, position, take, Option.getD_some, hbegin, hend,
        Text.byteLength_append]
      omega

end Answers

theorem position_le_of_suffix {cursor after : Cursor} (hquery : after.query = cursor.query)
    (hrest : after.rest <:+ cursor.rest) : cursor.position ≤ after.position := by
  rcases hrest with ⟨front, hfront⟩
  have hlength := congrArg Text.byteLength hfront
  rw [Text.byteLength_append] at hlength
  rw [position, position, hquery]
  omega

theorem position_le_next (cursor : Cursor) : cursor.position ≤ cursor.next.2.position := by
  have hstart : Text.trimStart cursor.rest <:+ cursor.rest := List.dropWhile_suffix _
  cases hcut : Cut.token? (Text.trimStart cursor.rest) with
  | none =>
      rw [next_of_token?_none hcut]
      exact position_le_of_suffix rfl hstart
  | some cut =>
      have hrest : cut.rest <:+ Text.trimStart cursor.rest :=
        ⟨cut.text, (Cut.divides_of_token? hcut).whole⟩
      rw [next_of_token? hcut]
      exact position_le_of_suffix rfl (hrest.trans hstart)

theorem next_of_next_none {cursor after : Cursor} (h : cursor.next = (none, after)) :
    after.next = (none, after) := by
  have hcut := Cut.token?_eq_none_iff.mpr (next_eq_none h)
  rw [next_of_token?_none hcut, Prod.mk.injEq] at h
  rcases h with ⟨-, rfl⟩
  have hstart : Text.trimStart (Text.trimStart cursor.rest) = Text.trimStart cursor.rest :=
    Text.trimStart_eq_self (Text.opensOutside_trimStart cursor.rest)
  rw [next_of_token?_none (by rwa [hstart])]
  simp only [hstart]

theorem run_next_of_next_none {cursor after : Cursor} (h : cursor.next = (none, after))
    (count : Nat) :
    after.run (List.replicate count .next) = (List.replicate count (.next, none), after) := by
  induction count with
  | zero =>
      rfl
  | succ count ih =>
      rw [List.replicate_succ', run_concat, ih, move, next_of_next_none h]
      rw [List.replicate_succ']

theorem recut_eq_none_iff {cursor : Cursor} (h : cursor.WellPlaced) :
    cursor.recut.1 = none ↔ cursor.last = none := by
  constructor
  · intro hnone
    cases hlast : cursor.last with
    | none =>
        rfl
    | some start =>
        rcases exists_plain?_of_graph (h.last_graph start hlast) with ⟨cut, hcut⟩
        rw [recut_of_last_some hlast hcut] at hnone
        cases hnone
  · intro hlast
    rw [recut_of_last_none hlast]

/-!
## All moves
-/

theorem wellPlaced_ofQuery (query : Text) : (ofQuery query).WellPlaced :=
  ⟨List.suffix_rfl, by simp [ofQuery], by simp [ofQuery]⟩

theorem run_ofQuery (query : Text) (moves : List Move) :
    ((ofQuery query).run moves).2.query = Text.trim query ∧
      ((ofQuery query).run moves).2.WellPlaced ∧
      (((ofQuery query).run moves).2.last.isSome = true ↔
        ((ofQuery query).run moves).1.HoldsToken) := by
  induction moves using List.reverseRecOn with
  | nil =>
      refine ⟨rfl, wellPlaced_ofQuery query, ?_⟩
      simp [ofQuery, Log.HoldsToken]
  | append_singleton moves move ih =>
      rcases ih with ⟨hquery, hplaced, hlast⟩
      have hanswers := answers_move hplaced move
      rw [run_concat]
      refine ⟨hanswers.query_eq.trans hquery, hanswers.wellPlaced hplaced, ?_⟩
      rw [hanswers.isSome_last_iff, hlast, Log.holdsToken_concat]

/-- Whatever moves were made, the cursor stands between two characters of its query.  A
token that a move gives is what stands between the place where the last token begins and
the place where the cursor is then, and that is something.  The next token does not take
the cursor back; when there is none, there is none and the cursor stays until another move
is made.  The last token can be cut again just when one was given since the start, and if
it cannot, the cursor stays as it is. -/
theorem run_keeps_place (query : Text) (moves : List Move) :
    let log := ((ofQuery query).run moves).1
    let cursor := ((ofQuery query).run moves).2
    cursor.query = Text.trim query ∧
      (∃ before, before ++ cursor.rest = Text.trim query ∧
        cursor.position = Text.byteLength before ∧
        cursor.position ≤ Text.byteLength (Text.trim query)) ∧
      (∀ move token after, cursor.move move = (some token, after) →
        after.last.isSome = true ∧ after.lastSpan.Holds (Text.trim query) token.raw ∧
          after.lastSpan.start < after.lastSpan.stop ∧
          after.lastSpan.stop = after.position) ∧
      cursor.position ≤ cursor.next.2.position ∧
      (cursor.next.1 = none → ∀ count,
        cursor.next.2.run (List.replicate count .next) =
          (List.replicate count (.next, none), cursor.next.2)) ∧
      (cursor.recut.1 = none ↔ ¬ log.HoldsToken) ∧
      (cursor.recut.1 = none → cursor.recut.2 = cursor) := by
  intro log cursor
  rcases run_ofQuery query moves with ⟨hquery, hplaced, hlog⟩
  have hlast : cursor.recut.1 = none ↔ cursor.last = none := recut_eq_none_iff hplaced
  refine ⟨hquery, ?_, ?_, cursor.position_le_next, ?_, ?_, ?_⟩
  · rcases hplaced.rest_suffix with ⟨before, hbefore⟩
    rw [← hquery]
    exact ⟨before, hbefore, Text.byteLength_sub_of_append hbefore.symm, Nat.sub_le _ _⟩
  · intro move token after hmove
    have hanswers := answers_move hplaced move
    rw [hmove] at hanswers
    rw [← hquery]
    exact hanswers.lastSpan_holds
  · intro hnone count
    have hnext : cursor.next = (none, cursor.next.2) := by
      rw [← hnone]
    exact run_next_of_next_none hnext count
  · rw [hlast, ← hlog, Option.isSome_iff_ne_none, not_not]
  · intro hnone
    rw [recut_of_last_none (hlast.mp hnone)]

example :
    ((ofQuery ['a', ':', ' ', 'é']).run [.next, .recut, .next, .next, .restart, .recut]).1 =
      [(.next, some ⟨['a', ':', ' ', 'é']⟩), (.recut, some ⟨['a', ':']⟩),
        (.next, some ⟨['é']⟩), (.next, none), (.restart, none), (.recut, none)] := by
  rfl

end Cursor

end SearchQuery
