import Mathlib.Data.List.Forall2
import SearchQuery.Proofs.Search.Fold
import SearchQuery.Proofs.Search.Story

/-!
# Searches without a fallback

A search without a fallback fails where a token falls to it.  That is all it does
otherwise than the search with a fallback that leaves every scope as it is: an
error leaves the cursor where that fallback would.  So if errors are passed over
and the scope is kept, both searches read the same tokens to the end.
-/

namespace SearchQuery

universe u

variable {Scope : Type u}

def Event.isFallback : Event → Bool
  | claimed _ _ => false
  | fellBack _ => true

def Verdict.fellBack (verdict : Verdict Scope) : Bool :=
  verdict.events.any Event.isFallback

namespace Search

/-- The search with a fallback that leaves every scope as it is.  It reports what falls to it. -/
def lenient (search : Search Scope) : Search Scope :=
  { search with fallback := some fun _ scope => scope, reporting := true }

variable {search : Search Scope}

/-!
## One token
-/

/-- The verdict fails where the lenient one fell back, and comes to the same otherwise. -/
structure Fails (name : Text) (verdict lenient : Verdict Scope) : Prop where
  of_fellBack : lenient.fellBack = true → verdict.outcome = .error (.noFallback name)
  of_not_fellBack : lenient.fellBack = false → verdict.outcome = lenient.outcome
  lenient_ok : ∃ left, lenient.outcome = .ok left

theorem Fails.andThen {name : Text} {verdict lenient : Verdict Scope}
    {next other : Scope → Verdict Scope} (h : Fails name verdict lenient)
    (hnext : ∀ left, lenient.outcome = .ok left → Fails name (next left) (other left)) :
    Fails name (verdict.andThen next) (lenient.andThen other) := by
  rcases h.lenient_ok with ⟨left, hleft⟩
  have hrest := hnext left hleft
  have hlenient : lenient.andThen other =
      { events := lenient.events ++ (other left).events, outcome := (other left).outcome } := by
    simp only [Verdict.andThen, hleft]
  have hfellBack : (lenient.andThen other).fellBack =
      (lenient.fellBack || (other left).fellBack) := by
    rw [hlenient, Verdict.fellBack, List.any_append]
    rfl
  cases hfell : lenient.fellBack with
  | true =>
      have herror := h.of_fellBack hfell
      have hfailed : verdict.andThen next = verdict := by
        simp only [Verdict.andThen, herror]
      rw [hfell, Bool.true_or] at hfellBack
      refine ⟨fun _ => ?_, fun hnot => ?_, ?_⟩
      · rw [hfailed, herror]
      · rw [hfellBack] at hnot
        cases hnot
      · rw [hlenient]
        exact hrest.lenient_ok
  | false =>
      have hok := (h.of_not_fellBack hfell).trans hleft
      have hpassed : (verdict.andThen next).outcome = (next left).outcome := by
        simp only [Verdict.andThen, hok]
      rw [hfell, Bool.false_or] at hfellBack
      refine ⟨fun hback => ?_, fun hnot => ?_, ?_⟩
      · rw [hpassed, hrest.of_fellBack (hfellBack.symm.trans hback)]
      · rw [hpassed, hlenient, hrest.of_not_fellBack (hfellBack.symm.trans hnot)]
      · rw [hlenient]
        exact hrest.lenient_ok

theorem fails_settle (hfallback : search.fallback = none) (token : Token) (scope : Scope) :
    Fails search.name (search.settle token scope) (search.lenient.settle token scope) ∧
      ((search.lenient.settle token scope).fellBack = true →
        (search.lenient.settle token scope).outcome = .ok scope) := by
  rcases search.firstClaims_or_declines token scope with ⟨rule, left, hfirst⟩ | hdeclines
  · have hlenient : search.lenient.rulebook.FirstClaims rule token scope left := hfirst
    rw [settle_of_firstClaims hfirst, settle_of_firstClaims hlenient]
    have hnot : Verdict.fellBack
        { events := search.lenient.report (.claimed rule.name token)
          outcome := .ok left } = false := rfl
    refine ⟨⟨fun hback => ?_, fun _ => rfl, left, rfl⟩, fun hback => ?_⟩
    · cases hback.symm.trans hnot
    · cases hback.symm.trans hnot
  · have hlenient : search.lenient.rulebook.Declines token scope := hdeclines
    rw [settle_of_declines hdeclines, settle_of_declines hlenient]
    have hback : (search.lenient.fallBack token scope).fellBack = true := rfl
    have herror : (search.fallBack token scope).outcome = .error (.noFallback search.name) := by
      simp only [fallBack, hfallback]
    refine ⟨⟨fun _ => herror, fun hnot => ?_, scope, rfl⟩, fun _ => rfl⟩
    cases hback.symm.trans hnot

theorem chosen_lenient (search : Search Scope) (start : Text) (cut : Cut) (scope : Scope) :
    search.lenient.chosen start cut scope = search.chosen start cut scope := by
  simp only [chosen, isSome_offer?]
  rfl

/-!
## Passing over errors
-/

structure Visit (Scope : Type u) extends Step Scope where
  kept : Scope

/-- The scope that a step leaves is kept, or else the scope that it found. -/
def visit (step : Step Scope) (scope : Scope) : Visit Scope :=
  { step with kept := step.outcome.toOption.getD scope }

def walk (search : Search Scope) (cursor : Cursor) (scope : Scope) :
    List (Visit Scope) × Cursor :=
  match h : cursor.next with
  | (none, after) => ([], after)
  | (some token, after) =>
      have := search.resolve_rest_length_lt scope h
      let step := visit { search.resolve after token scope with read := token } scope
      let behind := search.walk (search.resolve after token scope).cursor step.kept
      (step :: behind.1, behind.2)
termination_by cursor.rest.length

theorem walk_of_next_none (search : Search Scope) (scope : Scope) {cursor after : Cursor}
    (h : cursor.next = (none, after)) : search.walk cursor scope = ([], after) := by
  rw [walk]
  split
  · next hnext =>
      rw [h] at hnext
      cases hnext
      rfl
  · next hnext =>
      rw [h] at hnext
      cases hnext

theorem walk_of_turn {cursor : Cursor} {scope : Scope} {step : Step Scope}
    (h : search.Turn cursor scope step) :
    search.walk cursor scope =
      (visit step scope :: (search.walk step.cursor (visit step scope).kept).1,
        (search.walk step.cursor (visit step scope).kept).2) := by
  rcases turn_iff_resolve.mp h with ⟨token, after, hnext, rfl⟩
  rw [walk]
  split
  · next hnext' =>
      rw [hnext] at hnext'
      cases hnext'
  · next hnext' =>
      rw [hnext] at hnext'
      cases hnext'
      rfl

structure Visit.Matches (name : Text) (visit lenient : Visit Scope) : Prop where
  read_eq : visit.read = lenient.read
  token_eq : visit.token = lenient.token
  cursor_eq : visit.cursor = lenient.cursor
  kept_eq : visit.kept = lenient.kept
  fails : Fails name visit.toVerdict lenient.toVerdict

theorem exists_turn_of_lenient (hfallback : search.fallback = none) {cursor : Cursor}
    {scope : Scope} {step : Step Scope} (h : search.lenient.Turn cursor scope step) :
    ∃ strict, search.Turn cursor scope strict ∧
      (visit strict scope).Matches search.name (visit step scope) := by
  rcases turn_iff_chosen.mp h with ⟨cut, chosen, hcut, hchosen, rfl⟩
  rw [chosen_lenient] at hchosen
  refine ⟨_, turn_iff_chosen.mpr ⟨cut, chosen, hcut, hchosen, rfl⟩, ?_⟩
  rcases fails_settle hfallback ⟨chosen.text⟩ scope with ⟨hfails, hkept⟩
  refine ⟨rfl, rfl, rfl, ?_, hfails⟩
  simp only [visit]
  cases hback : (search.lenient.settle ⟨chosen.text⟩ scope).fellBack with
  | true =>
      rw [hfails.of_fellBack hback, hkept hback]
      rfl
  | false =>
      rw [hfails.of_not_fellBack hback]

/-!
## All tokens
-/

theorem fails_compileFrom (hfallback : search.fallback = none) (cursor : Cursor) (scope : Scope) :
    Fails search.name (search.compileFrom cursor scope)
      (search.lenient.compileFrom cursor scope) := by
  induction cursor, scope using turn_induction search.lenient with
  | exhausted cursor scope after hnext =>
      rw [search.compileFrom_of_next_none scope hnext,
        search.lenient.compileFrom_of_next_none scope hnext]
      exact ⟨nofun, fun _ => rfl, scope, rfl⟩
  | turn cursor scope step hturn ih =>
      rcases exists_turn_of_lenient hfallback hturn with ⟨strict, hstrict, hmatches⟩
      rw [compileFrom_of_turn hstrict, compileFrom_of_turn hturn]
      have hcursor : strict.cursor = step.cursor := hmatches.cursor_eq
      apply hmatches.fails.andThen
      intro left hleft
      rw [hcursor]
      exact ih left hleft

theorem walk_matches (hfallback : search.fallback = none) (cursor : Cursor) (scope : Scope) :
    List.Forall₂ (Visit.Matches search.name) (search.walk cursor scope).1
        (search.lenient.walk cursor scope).1 ∧
      (search.walk cursor scope).2 = (search.lenient.walk cursor scope).2 := by
  induction cursor, scope using turn_induction search.lenient with
  | exhausted cursor scope after hnext =>
      rw [search.walk_of_next_none scope hnext, search.lenient.walk_of_next_none scope hnext]
      exact ⟨List.Forall₂.nil, rfl⟩
  | turn cursor scope step hturn ih =>
      rcases exists_turn_of_lenient hfallback hturn with ⟨strict, hstrict, hmatches⟩
      rcases hmatches.fails.lenient_ok with ⟨left, hleft⟩
      have hcursor : strict.cursor = step.cursor := hmatches.cursor_eq
      have houtcome : step.outcome = .ok left := hleft
      have hkept : (visit step scope).kept = left := by
        rw [visit, houtcome]
        rfl
      rcases ih left hleft with ⟨hrest, hlast⟩
      rw [walk_of_turn hstrict, walk_of_turn hturn, hmatches.kept_eq, hkept, hcursor]
      exact ⟨List.Forall₂.cons hmatches hrest, hlast⟩

/-- Without a fallback, a compilation fails if and only if the lenient one falls back on the
way, and both come to the same scope otherwise.  If errors are passed over, both go the same
way to the end of the query, and the errors are where the lenient search falls back. -/
theorem compile_fails_iff_fellBack (hfallback : search.fallback = none) (query : Text)
    (scope : Scope) :
    let strict := search.compile query scope
    let lenient := search.lenient.compile query scope
    let walked := search.walk (Cursor.ofQuery query) scope
    let lenientWalked := search.lenient.walk (Cursor.ofQuery query) scope
    ((∃ error, strict.outcome = .error error) ↔ lenient.fellBack = true) ∧
      (∀ error, strict.outcome = .error error → error = .noFallback search.name) ∧
      (∀ left, strict.outcome = .ok left → lenient.outcome = .ok left) ∧
      List.Forall₂ (Visit.Matches search.name) walked.1 lenientWalked.1 ∧
      walked.2 = lenientWalked.2 := by
  intro strict lenient walked lenientWalked
  have hfails : Fails search.name strict lenient :=
    fails_compileFrom hfallback (Cursor.ofQuery query) scope
  rcases hfails.lenient_ok with ⟨left, hleft⟩
  rcases walk_matches hfallback (Cursor.ofQuery query) scope with ⟨hmatches, hlast⟩
  cases hback : lenient.fellBack with
  | true =>
      have herror := hfails.of_fellBack hback
      refine ⟨⟨fun _ => rfl, fun _ => ⟨_, herror⟩⟩, ?_, ?_, hmatches, hlast⟩
      · intro error h
        rw [herror] at h
        cases h
        rfl
      · intro left h
        rw [herror] at h
        cases h
  | false =>
      have hok := hfails.of_not_fellBack hback
      refine ⟨⟨?_, nofun⟩, ?_, ?_, hmatches, hlast⟩
      · rintro ⟨error, h⟩
        rw [hok, hleft] at h
        cases h
      · intro error h
        rw [hok, hleft] at h
        cases h
      · intro left h
        exact hok.symm.trans h

theorem compile_fails_iff_fellBack_flags :
    flagging.fallback = none ∧ (flagging.lenient.compile flags []).fellBack = true ∧
      (∃ error, (flagging.compile flags []).outcome = .error error) ∧
      ((flagging.walk (Cursor.ofQuery flags) []).1.map fun visit => visit.token) =
        [⟨['b', ':', ' ', 'x']⟩, ⟨['a', ':']⟩, ⟨['z']⟩, ⟨['z']⟩] ∧
      (flagging.walk (Cursor.ofQuery flags) []).2 =
        (flagging.lenient.walk (Cursor.ofQuery flags) []).2 := by
  have hback : (flagging.lenient.compile flags []).fellBack = true := by
    decide +kernel
  have htokens : ((flagging.walk (Cursor.ofQuery flags) []).1.map fun visit => visit.token) =
      [⟨['b', ':', ' ', 'x']⟩, ⟨['a', ':']⟩, ⟨['z']⟩, ⟨['z']⟩] := by
    decide +kernel
  rcases compile_fails_iff_fellBack (rfl : flagging.fallback = none) flags [] with
    ⟨hfails, -, -, -, hlast⟩
  exact ⟨rfl, hback, hfails.mpr hback, htokens, hlast⟩

end Search

end SearchQuery
