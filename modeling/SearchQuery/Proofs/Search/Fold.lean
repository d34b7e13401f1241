import SearchQuery.Proofs.Search.Written

/-!
# Compiling as a fold

What a query comes to is what its resolved tokens come to, settled one after the
other.  With a fallback there is always a scope in the end, and it has whatever
property settling a token keeps.  Where the scope has no say in whether a token
is claimed, it has none in which tokens are resolved either.
-/

namespace SearchQuery

universe u

variable {Scope : Type u}

namespace Search

def resolved (search : Search Scope) (cursor : Cursor) (scope : Scope) : List Token :=
  (search.steps cursor scope).map fun step => step.token

/-- The token is claimed in every scope or in none. -/
def Decides (search : Search Scope) (token : Token) : Prop :=
  ∀ scope scope', (search.offer? token scope).isSome = (search.offer? token scope').isSome

/-!
## Settling a token
-/

theorem isSome_offer? (search : Search Scope) (token : Token) (scope : Scope) :
    (search.offer? token scope).isSome =
      (search.rulebook.rules.findSome? fun rule => rule.claim? token scope).isSome := by
  rw [offer?, Option.isSome_map, ← Rulebook.map_snd_claim?, Option.isSome_map]

theorem outcome_settle (search : Search Scope) (token : Token) (scope : Scope) :
    (search.settle token scope).outcome =
      match search.rulebook.rules.findSome? fun rule => rule.claim? token scope with
      | some left => .ok left
      | none => (search.fallBack token scope).outcome := by
  rw [← Rulebook.map_snd_claim?, settle, offer?]
  cases search.rulebook.claim? token scope with
  | none =>
      rfl
  | some claim =>
      rfl

theorem exists_outcome_settle {search : Search Scope} {fallback : Token → Scope → Scope}
    (hfallback : search.fallback = some fallback) (token : Token) (scope : Scope) :
    ∃ left, (search.settle token scope).outcome = .ok left := by
  rw [outcome_settle]
  split
  · exact ⟨_, rfl⟩
  · rw [fallBack, hfallback]
    exact ⟨_, rfl⟩

theorem Turn.toVerdict_eq {search : Search Scope} {cursor : Cursor} {scope : Scope}
    {step : Step Scope} (h : search.Turn cursor scope step) :
    step.toVerdict = search.settle step.token scope := by
  rcases turn_iff_chosen.mp h with ⟨cut, chosen, -, -, rfl⟩
  rfl

/-!
## The fold
-/

theorem resolved_of_next_none (search : Search Scope) (scope : Scope) {cursor after : Cursor}
    (h : cursor.next = (none, after)) : search.resolved cursor scope = [] := by
  rw [resolved, search.steps_of_next_none scope h]
  rfl

theorem resolved_of_turn {search : Search Scope} {cursor : Cursor} {scope left : Scope}
    {step : Step Scope} (h : search.Turn cursor scope step) (hok : step.outcome = .ok left) :
    search.resolved cursor scope = step.token :: search.resolved step.cursor left := by
  rw [resolved, steps_of_turn h, later, hok]
  rfl

/-- The resolved tokens, settled one after the other, come to what the query comes to. -/
theorem foldlM_settle_resolved (search : Search Scope) (cursor : Cursor) (scope : Scope) :
    (search.resolved cursor scope).foldlM (fun left token => (search.settle token left).outcome)
        scope =
      (search.compileFrom cursor scope).outcome := by
  induction cursor, scope using turn_induction search with
  | exhausted cursor scope after hnext =>
      rw [search.resolved_of_next_none scope hnext, search.compileFrom_of_next_none scope hnext]
      rfl
  | turn cursor scope step hturn ih =>
      have hsettle : (search.settle step.token scope).outcome = step.outcome := by
        rw [← hturn.toVerdict_eq]
      rw [compileFrom_of_turn hturn, Verdict.andThen]
      cases houtcome : step.outcome with
      | error error =>
          rw [houtcome] at hsettle
          rw [resolved, steps_of_turn hturn, later, houtcome, List.map_cons, List.foldlM_cons,
            hsettle]
          rfl
      | ok left =>
          rw [houtcome] at hsettle
          rw [resolved_of_turn hturn houtcome, List.foldlM_cons, hsettle]
          exact ih left houtcome

theorem compileFrom_preserves {search : Search Scope} {fallback : Token → Scope → Scope}
    (hfallback : search.fallback = some fallback) {P : Scope → Prop}
    (hsettle : ∀ token scope left, P scope → (search.settle token scope).outcome = .ok left →
      P left)
    (cursor : Cursor) (scope : Scope) (hscope : P scope) :
    ∃ left, (search.compileFrom cursor scope).outcome = .ok left ∧ P left := by
  rw [← foldlM_settle_resolved]
  generalize search.resolved cursor scope = tokens
  induction tokens generalizing scope with
  | nil =>
      exact ⟨scope, rfl, hscope⟩
  | cons token tokens ih =>
      rcases exists_outcome_settle hfallback token scope with ⟨left, hleft⟩
      rw [List.foldlM_cons, hleft]
      exact ih left (hsettle token scope left hscope hleft)

/-!
## Scopes that have no say
-/

theorem chosen_congr {search : Search Scope} {start : Text} {cut : Cut}
    (h : search.Decides ⟨cut.text⟩) (scope scope' : Scope) :
    search.chosen start cut scope = search.chosen start cut scope' := by
  unfold chosen
  rw [h scope scope']

theorem resolved_congr {search : Search Scope} {fallback : Token → Scope → Scope}
    (hfallback : search.fallback = some fallback) (hdecides : ∀ token, search.Decides token)
    (cursor : Cursor) (scope scope' : Scope) :
    search.resolved cursor scope = search.resolved cursor scope' := by
  induction cursor, scope using turn_induction search generalizing scope' with
  | exhausted cursor scope after hnext =>
      rw [search.resolved_of_next_none scope hnext, search.resolved_of_next_none scope' hnext]
  | turn cursor scope step hturn ih =>
      rcases turn_iff_chosen.mp hturn with ⟨cut, chosen, hcut, hchosen, hstep⟩
      rw [chosen_congr (hdecides ⟨cut.text⟩) scope scope'] at hchosen
      have hturn' : search.Turn cursor scope' _ :=
        turn_iff_chosen.mpr ⟨cut, chosen, hcut, hchosen, rfl⟩
      rcases exists_outcome_settle hfallback ⟨chosen.text⟩ scope with ⟨left, hleft⟩
      rcases exists_outcome_settle hfallback ⟨chosen.text⟩ scope' with ⟨left', hleft'⟩
      have hok : step.outcome = .ok left := by
        rw [hstep]
        exact hleft
      rw [resolved_of_turn hturn hok, resolved_of_turn hturn' hleft', ih left hok left']
      rw [hstep]

end Search

end SearchQuery
