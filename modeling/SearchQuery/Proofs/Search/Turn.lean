import SearchQuery.Proofs.Search.Rulebook
import SearchQuery.Proofs.Token.Cursor
import SearchQuery.Proofs.Token.Parts
import SearchQuery.Search.Compile

/-!
# The turns of a compilation

Compiling goes in turns: a token is read, and it is resolved whole or cut again
and resolved in part.  This module says as a relation what one turn may do,
strings turns together to trails through the query, and shows that compiling
follows a trail to its end.
-/

namespace SearchQuery

universe u

variable {Scope : Type u}

namespace Verdict

def andThen (verdict : Verdict Scope) (next : Scope → Verdict Scope) : Verdict Scope :=
  match verdict.outcome with
  | .ok scope =>
      { events := verdict.events ++ (next scope).events, outcome := (next scope).outcome }
  | .error _ => verdict

def unchanged (scope : Scope) : Verdict Scope :=
  { events := [], outcome := .ok scope }

@[simp] theorem unchanged_andThen (scope : Scope) (next : Scope → Verdict Scope) :
    (unchanged scope).andThen next = next scope := by
  simp [unchanged, andThen]

@[simp] theorem andThen_unchanged (verdict : Verdict Scope) :
    verdict.andThen unchanged = verdict := by
  cases verdict with
  | mk events outcome =>
      cases outcome with
      | ok scope =>
          simp [unchanged, andThen]
      | error error =>
          rfl

theorem andThen_congr {verdict : Verdict Scope} {next other : Scope → Verdict Scope}
    (h : ∀ left, verdict.outcome = .ok left → next left = other left) :
    verdict.andThen next = verdict.andThen other := by
  cases verdict with
  | mk events outcome =>
      cases outcome with
      | ok scope =>
          simp [andThen, h scope rfl]
      | error error =>
          rfl

theorem andThen_assoc (verdict : Verdict Scope) (next last : Scope → Verdict Scope) :
    (verdict.andThen next).andThen last =
      verdict.andThen fun scope => (next scope).andThen last := by
  cases verdict with
  | mk events outcome =>
      cases outcome with
      | error error =>
          rfl
      | ok scope =>
          simp only [andThen]
          cases houtcome : (next scope).outcome with
          | error error =>
              simp [houtcome]
          | ok left =>
              simp

end Verdict

namespace Search

def collecting : Search (List Token) :=
  { name := []
    rulebook := Rulebook.empty
    fallback := some fun token tokens => tokens ++ [token]
    reporting := false }

/-!
## One turn
-/

/-- A turn from a cursor and a scope.  The token read is resolved whole if a rule
claims it or if it has no label; else it is cut again, and the plain token at its
start is resolved in its place. -/
inductive Turn (search : Search Scope) (cursor : Cursor) (scope : Scope) :
    Step Scope → Prop where
  | whole {token : Token} {after : Cursor} (hnext : cursor.next = (some token, after))
      (hkeep : (search.offer? token scope).isSome = true ∨ token.isLabelled = false) :
      Turn search cursor scope
        { search.settle token scope with token := token, cursor := after, read := token }
  | recut {token plain : Token} {after behind : Cursor}
      (hnext : cursor.next = (some token, after))
      (hoffer : search.offer? token scope = none) (hlabel : token.isLabelled = true)
      (hrecut : after.recut = (some plain, behind)) :
      Turn search cursor scope
        { search.settle plain scope with token := plain, cursor := behind, read := token }

theorem settle_of_offer? {search : Search Scope} {token : Token} {scope : Scope}
    {verdict : Verdict Scope} (h : search.offer? token scope = some verdict) :
    search.settle token scope = verdict := by
  simp [settle, h]

theorem settle_of_offer?_none {search : Search Scope} {token : Token} {scope : Scope}
    (h : search.offer? token scope = none) :
    search.settle token scope = search.fallBack token scope := by
  simp [settle, h]

theorem offer?_eq_none_iff {search : Search Scope} {token : Token} {scope : Scope} :
    search.offer? token scope = none ↔
      ∀ rule ∈ search.rulebook.rules, rule.claim? token scope = none := by
  rw [offer?, Option.map_eq_none_iff]
  exact Rulebook.claim?_eq_none_iff

theorem turn_iff_resolve {search : Search Scope} {cursor : Cursor} {scope : Scope}
    {step : Step Scope} :
    search.Turn cursor scope step ↔
      ∃ token after, cursor.next = (some token, after) ∧
        step = { search.resolve after token scope with read := token } := by
  constructor
  · intro h
    cases h with
    | whole hnext hkeep =>
        rename_i token after
        refine ⟨token, after, hnext, ?_⟩
        cases hoffer : search.offer? token scope with
        | some verdict =>
            simp [resolve, hoffer, settle_of_offer? hoffer]
        | none =>
            have hlabel : token.isLabelled = false := by
              simpa [hoffer] using hkeep
            simp [resolve, hoffer, hlabel, settle_of_offer?_none hoffer]
    | recut hnext hoffer hlabel hrecut =>
        rename_i token plain after behind
        refine ⟨token, after, hnext, ?_⟩
        simp [resolve, hoffer, hlabel, hrecut]
  · intro h
    rcases h with ⟨token, after, hnext, rfl⟩
    cases hoffer : search.offer? token scope with
    | some verdict =>
        have hturn : search.Turn cursor scope _ :=
          Turn.whole hnext (Or.inl (by simp [hoffer]))
        simpa [resolve, hoffer, settle_of_offer? hoffer] using hturn
    | none =>
        cases hlabel : token.isLabelled with
        | false =>
            have hturn : search.Turn cursor scope _ := Turn.whole hnext (Or.inr hlabel)
            simpa [resolve, hoffer, hlabel, settle_of_offer?_none hoffer] using hturn
        | true =>
            rcases Cursor.next_eq_some hnext with ⟨cut, hcut, -, rfl⟩
            rcases Cut.exists_plain?_of_token? hcut with ⟨plain, hplain⟩
            have hrecut : (cursor.take _ cut).recut = _ := Cursor.recut_take hplain
            simpa [resolve, hoffer, hlabel, hrecut] using Turn.recut hnext hoffer hlabel hrecut

/-- The cut that is resolved in a turn that reads the given cut at the given start. -/
def chosen (search : Search Scope) (start : Text) (cut : Cut) (scope : Scope) : Cut :=
  if (search.offer? ⟨cut.text⟩ scope).isSome || !Token.isLabelled ⟨cut.text⟩ then cut
  else (Cut.plain? start).getD cut

theorem chosen_of_kept {search : Search Scope} {start : Text} {cut : Cut} {scope : Scope}
    (h : (search.offer? ⟨cut.text⟩ scope).isSome = true ∨
      Token.isLabelled ⟨cut.text⟩ = false) :
    search.chosen start cut scope = cut := by
  unfold chosen
  rw [if_pos]
  simpa using h

theorem chosen_of_recut {search : Search Scope} {start : Text} {cut plain : Cut}
    {scope : Scope} (hoffer : search.offer? ⟨cut.text⟩ scope = none)
    (hlabel : Token.isLabelled ⟨cut.text⟩ = true) (hplain : Cut.plain? start = some plain) :
    search.chosen start cut scope = plain := by
  simp [chosen, hoffer, hlabel, hplain]

theorem plain?_chosen {search : Search Scope} {start : Text} {cut : Cut} {scope : Scope}
    (hoffer : search.offer? ⟨cut.text⟩ scope = none) (hcut : Cut.token? start = some cut) :
    Cut.plain? start = some (search.chosen start cut scope) := by
  cases hsplit : Token.split? ⟨cut.text⟩ with
  | none =>
      rw [chosen_of_kept (Or.inr (Token.isLabelled_of_split?_none hsplit))]
      exact Token.plain?_of_split?_none hcut hsplit
  | some parts =>
      rcases Cut.exists_plain?_of_token? hcut with ⟨plain, hplain⟩
      rw [chosen_of_recut hoffer (Token.isLabelled_of_split? hsplit) hplain]
      exact hplain

theorem token?_or_plain?_chosen (search : Search Scope) {start : Text} {cut : Cut}
    (scope : Scope) (h : Cut.token? start = some cut) :
    Cut.token? start = some (search.chosen start cut scope) ∨
      Cut.plain? start = some (search.chosen start cut scope) := by
  rcases Cut.exists_plain?_of_token? h with ⟨plain, hplain⟩
  unfold chosen
  split
  · exact Or.inl h
  · rw [hplain]
    exact Or.inr rfl

theorem divides_chosen (search : Search Scope) {start : Text} {cut : Cut} (scope : Scope)
    (h : Cut.token? start = some cut) : (search.chosen start cut scope).Divides start := by
  rcases search.token?_or_plain?_chosen scope h with htoken | hplain
  · exact Cut.divides_of_token? htoken
  · exact Cut.divides_of_plain? hplain

theorem chosen_extend (search : Search Scope) {start tail : Text} (cut : Cut) (scope : Scope)
    (hplain : Cut.plain? (start ++ tail) =
      (Cut.plain? start).map fun plain => plain.extend tail) :
    search.chosen (start ++ tail) (cut.extend tail) scope =
      (search.chosen start cut scope).extend tail := by
  have htext : (cut.extend tail).text = cut.text := rfl
  unfold chosen
  rw [hplain, htext]
  split
  · rfl
  · cases Cut.plain? start with
    | none =>
        rfl
    | some plain =>
        rfl

theorem turn_iff_chosen {search : Search Scope} {cursor : Cursor} {scope : Scope}
    {step : Step Scope} :
    search.Turn cursor scope step ↔
      ∃ cut chosen, Cut.token? (Text.trimStart cursor.rest) = some cut ∧
        chosen = search.chosen (Text.trimStart cursor.rest) cut scope ∧
        step =
          { search.settle ⟨chosen.text⟩ scope with
            token := ⟨chosen.text⟩
            cursor := cursor.take (Text.trimStart cursor.rest) chosen
            read := ⟨cut.text⟩ } := by
  constructor
  · intro h
    cases h with
    | whole hnext hkeep =>
        rcases Cursor.next_eq_some hnext with ⟨cut, hcut, rfl, rfl⟩
        exact ⟨cut, cut, hcut, (chosen_of_kept hkeep).symm, rfl⟩
    | recut hnext hoffer hlabel hrecut =>
        rcases Cursor.next_eq_some hnext with ⟨cut, hcut, rfl, rfl⟩
        rcases Cut.exists_plain?_of_token? hcut with ⟨plain, hplain⟩
        rw [Cursor.recut_take hplain] at hrecut
        cases hrecut
        exact ⟨cut, plain, hcut, (chosen_of_recut hoffer hlabel hplain).symm, rfl⟩
  · intro h
    rcases h with ⟨cut, chosen, hcut, rfl, rfl⟩
    have hnext := Cursor.next_of_token? hcut
    by_cases hkeep : (search.offer? ⟨cut.text⟩ scope).isSome = true ∨
        Token.isLabelled ⟨cut.text⟩ = false
    · rw [chosen_of_kept hkeep]
      exact Turn.whole hnext hkeep
    · rcases not_or.mp hkeep with ⟨hoffer, hlabel⟩
      rcases Cut.exists_plain?_of_token? hcut with ⟨plain, hplain⟩
      have hnone : search.offer? ⟨cut.text⟩ scope = none := by
        simpa using hoffer
      have hlabelled : Token.isLabelled ⟨cut.text⟩ = true := by
        simpa using hlabel
      rw [chosen_of_recut hnone hlabelled hplain]
      exact Turn.recut hnext hnone hlabelled (Cursor.recut_take hplain)

namespace Turn

variable {search : Search Scope} {cursor : Cursor} {scope : Scope} {step : Step Scope}

theorem advances (h : search.Turn cursor scope step) (hrest : cursor.rest <:+ cursor.query) :
    cursor.Advances step.cursor step.token.raw := by
  rcases turn_iff_chosen.mp h with ⟨cut, chosen, hcut, rfl, rfl⟩
  exact Cursor.advances_take hrest (divides_chosen search scope hcut)

theorem extend (h : search.Turn cursor scope step) {other : Cursor} {tail : Text}
    (hstart : Text.trimStart other.rest = Text.trimStart cursor.rest ++ tail)
    (htoken : Cut.token? (Text.trimStart cursor.rest ++ tail) =
      (Cut.token? (Text.trimStart cursor.rest)).map fun cut => cut.extend tail)
    (hplain : Cut.plain? (Text.trimStart cursor.rest ++ tail) =
      (Cut.plain? (Text.trimStart cursor.rest)).map fun cut => cut.extend tail) :
    ∃ next, search.Turn other scope next ∧ next.toVerdict = step.toVerdict ∧
      next.cursor.rest = step.cursor.rest ++ tail := by
  rcases turn_iff_chosen.mp h with ⟨cut, chosen, hcut, hchosen, rfl⟩
  have hextend := search.chosen_extend cut scope hplain
  rw [← hchosen] at hextend
  rw [hcut, Option.map_some] at htoken
  rw [← hstart] at htoken hextend
  exact ⟨_, turn_iff_chosen.mpr ⟨cut.extend tail, chosen.extend tail, htoken, hextend.symm, rfl⟩,
    rfl, rfl⟩

theorem not_blank (h : search.Turn cursor scope step) : ¬ Text.Blank cursor.rest := by
  intro hblank
  rcases turn_iff_chosen.mp h with ⟨cut, -, hcut, -, -⟩
  rw [Text.trimStart_eq_nil_iff.mpr hblank, Cut.token?_nil] at hcut
  cases hcut

theorem rest_length_lt (h : search.Turn cursor scope step) :
    step.cursor.rest.length < cursor.rest.length := by
  rcases turn_iff_resolve.mp h with ⟨token, after, hnext, rfl⟩
  exact search.resolve_rest_length_lt scope hnext

end Turn

theorem exists_turn_of_next_some (search : Search Scope) (scope : Scope)
    {cursor after : Cursor} {token : Token} (h : cursor.next = (some token, after)) :
    ∃ step, search.Turn cursor scope step :=
  ⟨_, turn_iff_resolve.mpr ⟨token, after, h, rfl⟩⟩

/-!
## All turns
-/

/-- What holds where there is no further token, and holds before a turn if it holds
behind it, holds everywhere: the text still to be read gets shorter. -/
theorem turn_induction (search : Search Scope) {motive : Cursor → Scope → Prop}
    (exhausted : ∀ cursor scope after, cursor.next = (none, after) → motive cursor scope)
    (turn : ∀ cursor scope step, search.Turn cursor scope step →
      (∀ left, step.outcome = .ok left → motive step.cursor left) → motive cursor scope)
    (cursor : Cursor) (scope : Scope) : motive cursor scope := by
  induction hlength : cursor.rest.length using Nat.strong_induction_on
    generalizing cursor scope with
  | _ n ih =>
      cases hnext : cursor.next with
      | mk token? after =>
          cases token? with
          | none =>
              exact exhausted cursor scope after hnext
          | some token =>
              rcases search.exists_turn_of_next_some scope hnext with ⟨step, hturn⟩
              apply turn cursor scope step hturn
              intro left hok
              have hlt := hturn.rest_length_lt
              rw [hlength] at hlt
              exact ih _ hlt step.cursor left rfl

def later (search : Search Scope) (step : Step Scope) : List (Step Scope) :=
  match step.outcome with
  | .ok left => search.steps step.cursor left
  | .error _ => []

theorem steps_of_turn {search : Search Scope} {cursor : Cursor} {scope : Scope}
    {step : Step Scope} (h : search.Turn cursor scope step) :
    search.steps cursor scope = step :: search.later step := by
  rcases turn_iff_resolve.mp h with ⟨token, after, hnext, rfl⟩
  exact search.steps_of_next_some scope hnext

theorem compileFrom_of_turn {search : Search Scope} {cursor : Cursor} {scope : Scope}
    {step : Step Scope} (h : search.Turn cursor scope step) :
    search.compileFrom cursor scope =
      step.toVerdict.andThen fun left => search.compileFrom step.cursor left := by
  rcases turn_iff_resolve.mp h with ⟨token, after, hnext, rfl⟩
  cases houtcome : (search.resolve after token scope).outcome with
  | error error =>
      simp [search.compileFrom_of_error scope hnext houtcome, Verdict.andThen, houtcome]
  | ok left =>
      simp [search.compileFrom_of_ok scope hnext houtcome, Verdict.andThen, houtcome]

theorem turn_of_steps_eq_cons {search : Search Scope} {cursor : Cursor} {scope : Scope}
    {step : Step Scope} {steps : List (Step Scope)}
    (h : search.steps cursor scope = step :: steps) :
    search.Turn cursor scope step ∧ steps = search.later step := by
  cases hnext : cursor.next with
  | mk token? after =>
      cases token? with
      | none =>
          rw [search.steps_of_next_none scope hnext] at h
          cases h
      | some token =>
          rcases search.exists_turn_of_next_some scope hnext with ⟨first, hturn⟩
          rw [steps_of_turn hturn] at h
          cases h
          exact ⟨hturn, rfl⟩

theorem turn_of_later_eq_cons {search : Search Scope} {step next : Step Scope}
    {steps : List (Step Scope)} (h : search.later step = next :: steps) :
    ∃ left, step.outcome = .ok left ∧ search.Turn step.cursor left next ∧
      steps = search.later next := by
  unfold later at h
  cases houtcome : step.outcome with
  | error error =>
      simp [houtcome] at h
  | ok left =>
      simp only [houtcome] at h
      exact ⟨left, rfl, turn_of_steps_eq_cons h⟩

inductive Trail (search : Search Scope) :
    Cursor → Scope → List (Step Scope) → Cursor → Scope → Prop where
  | nil (cursor : Cursor) (scope : Scope) : Trail search cursor scope [] cursor scope
  | cons {cursor last : Cursor} {scope left final : Scope} {step : Step Scope}
      {steps : List (Step Scope)} (hturn : search.Turn cursor scope step)
      (hok : step.outcome = .ok left) (htail : Trail search step.cursor left steps last final) :
      Trail search cursor scope (step :: steps) last final

/-- All turns that a compilation takes, and what it comes to: it ends when there is
no further token, or else with the first turn that is an error. -/
inductive Completes (search : Search Scope) (cursor : Cursor) (scope : Scope) :
    List (Step Scope) → Except SearchError Scope → Prop where
  | exhausted {last : Cursor} {final : Scope} {steps : List (Step Scope)}
      (htrail : search.Trail cursor scope steps last final) (hnext : last.next.1 = none) :
      Completes search cursor scope steps (.ok final)
  | failed {last : Cursor} {left : Scope} {steps : List (Step Scope)} {step : Step Scope}
      {error : SearchError} (htrail : search.Trail cursor scope steps last left)
      (hturn : search.Turn last left step) (herror : step.outcome = .error error) :
      Completes search cursor scope (steps ++ [step]) (.error error)

namespace Completes

variable {search : Search Scope}

theorem cons {cursor : Cursor} {scope left : Scope} {step : Step Scope}
    {steps : List (Step Scope)} {outcome : Except SearchError Scope}
    (hturn : search.Turn cursor scope step) (hok : step.outcome = .ok left)
    (htail : search.Completes step.cursor left steps outcome) :
    search.Completes cursor scope (step :: steps) outcome := by
  cases htail with
  | exhausted htrail hnext =>
      exact exhausted (Trail.cons hturn hok htrail) hnext
  | failed htrail hlast herror =>
      exact failed (Trail.cons hturn hok htrail) hlast herror

theorem steps_compileFrom (cursor : Cursor) (scope : Scope) :
    search.Completes cursor scope (search.steps cursor scope)
      (search.compileFrom cursor scope).outcome := by
  induction cursor, scope using turn_induction search with
  | exhausted cursor scope after hnext =>
      rw [search.steps_of_next_none scope hnext,
        search.compileFrom_of_next_none scope hnext]
      exact exhausted (Trail.nil cursor scope) (by rw [hnext])
  | turn cursor scope step hturn ih =>
      rw [steps_of_turn hturn, compileFrom_of_turn hturn]
      cases houtcome : step.outcome with
      | error error =>
          have hfailed := failed (Trail.nil cursor scope) hturn houtcome
          simpa [later, Verdict.andThen, houtcome] using hfailed
      | ok left =>
          have htail := cons hturn houtcome (ih left houtcome)
          simpa [later, Verdict.andThen, houtcome] using htail

end Completes

theorem exists_trail_of_steps_eq {search : Search Scope} {steps : List (Step Scope)}
    {step : Step Scope} (first : List (Step Scope)) {cursor : Cursor} {scope : Scope}
    (h : search.steps cursor scope = first ++ step :: steps) :
    ∃ last left, search.Trail cursor scope first last left ∧ search.Turn last left step ∧
      steps = search.later step := by
  induction first generalizing cursor scope with
  | nil =>
      exact ⟨cursor, scope, Trail.nil cursor scope, turn_of_steps_eq_cons h⟩
  | cons head first ih =>
      rcases turn_of_steps_eq_cons h with ⟨hturn, hlater⟩
      cases houtcome : head.outcome with
      | error error =>
          simp [later, houtcome] at hlater
      | ok left =>
          simp only [later, houtcome] at hlater
          rcases ih hlater.symm with ⟨last, final, htrail, hlast⟩
          exact ⟨last, final, Trail.cons hturn houtcome htrail, hlast⟩

end Search

end SearchQuery
