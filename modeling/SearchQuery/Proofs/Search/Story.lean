import SearchQuery.Proofs.Search.Turn

/-!
# What is told of a compilation

A search that reports tells one event for every token that is read.  The event
says which rule claimed the token, the first in order that does; or, of a
labelled token that no rule claims, which rule claimed the plain token at its
start; or else what the fallback was left with.  An error is told of as well,
and nothing is told after it.
-/

namespace SearchQuery

universe u

variable {Scope : Type u}

def Event.token : Event → Token
  | claimed _ token => token
  | fellBack token => token

/-!
## The first claim
-/

namespace Search

theorem offer?_eq_some_iff {search : Search Scope} {token : Token} {scope : Scope}
    {verdict : Verdict Scope} :
    search.offer? token scope = some verdict ↔
      ∃ rule left, search.rulebook.FirstClaims rule token scope left ∧
        verdict = { events := search.report (.claimed rule.name token), outcome := .ok left } := by
  rw [offer?, Option.map_eq_some_iff]
  constructor
  · intro h
    rcases h with ⟨⟨rule, left⟩, hclaim, rfl⟩
    exact ⟨rule, left, Rulebook.claim?_eq_some_iff.mp hclaim, rfl⟩
  · intro h
    rcases h with ⟨rule, left, hfirst, rfl⟩
    exact ⟨(rule, left), Rulebook.claim?_eq_some_iff.mpr hfirst, rfl⟩

theorem settle_of_firstClaims {search : Search Scope} {rule : Rule Scope} {token : Token}
    {scope left : Scope} (h : search.rulebook.FirstClaims rule token scope left) :
    search.settle token scope =
      { events := search.report (.claimed rule.name token), outcome := .ok left } :=
  settle_of_offer? (offer?_eq_some_iff.mpr ⟨rule, left, h, rfl⟩)

theorem settle_of_declines {search : Search Scope} {token : Token} {scope : Scope}
    (h : search.rulebook.Declines token scope) :
    search.settle token scope = search.fallBack token scope :=
  settle_of_offer?_none (offer?_eq_none_iff.mpr h)

theorem firstClaims_or_declines (search : Search Scope) (token : Token) (scope : Scope) :
    (∃ rule left, search.rulebook.FirstClaims rule token scope left) ∨
      search.rulebook.Declines token scope := by
  cases hoffer : search.offer? token scope with
  | none =>
      exact Or.inr (offer?_eq_none_iff.mp hoffer)
  | some verdict =>
      rcases offer?_eq_some_iff.mp hoffer with ⟨rule, left, hfirst, -⟩
      exact Or.inl ⟨rule, left, hfirst⟩

theorem report_of_reporting {search : Search Scope} (h : search.reporting = true)
    (event : Event) : search.report event = [event] := by
  rw [report, if_pos h]

/-!
## One token
-/

/-- What is told of a token that was read before the cursor, with what came of it and the
cursor that is left: which rule claimed it, or which claimed the plain token at its start
because none claimed the whole, or which of the two fell to the fallback. -/
inductive Tells (search : Search Scope) (scope : Scope) (after : Cursor) (token : Token) :
    Event → Except SearchError Scope → Cursor → Prop where
  | claimed {rule : Rule Scope} {left : Scope}
      (hfirst : search.rulebook.FirstClaims rule token scope left) :
      Tells search scope after token (.claimed rule.name token) (.ok left) after
  | declined (hdeclines : search.rulebook.Declines token scope)
      (hlabel : token.isLabelled = false) :
      Tells search scope after token (.fellBack token) (search.fallBack token scope).outcome after
  | partClaimed {plain : Token} {behind : Cursor} {rule : Rule Scope} {left : Scope}
      (hdeclines : search.rulebook.Declines token scope) (hlabel : token.isLabelled = true)
      (hrecut : after.recut = (some plain, behind))
      (hfirst : search.rulebook.FirstClaims rule plain scope left) :
      Tells search scope after token (.claimed rule.name plain) (.ok left) behind
  | partDeclined {plain : Token} {behind : Cursor}
      (hdeclines : search.rulebook.Declines token scope) (hlabel : token.isLabelled = true)
      (hrecut : after.recut = (some plain, behind))
      (hpart : search.rulebook.Declines plain scope) :
      Tells search scope after token (.fellBack plain) (search.fallBack plain scope).outcome behind

variable {search : Search Scope}

theorem Tells.eq_fellBack_of_error {scope : Scope} {after behind : Cursor} {token : Token}
    {event : Event} {outcome : Except SearchError Scope} {error : SearchError}
    (h : search.Tells scope after token event outcome behind) (herror : outcome = .error error) :
    event = .fellBack event.token := by
  cases h with
  | claimed hfirst =>
      cases herror
  | declined hdeclines hlabel =>
      rfl
  | partClaimed hdeclines hlabel hrecut hfirst =>
      cases herror
  | partDeclined hdeclines hlabel hrecut hpart =>
      rfl

theorem Turn.tells (hreporting : search.reporting = true) {cursor : Cursor} {scope : Scope}
    {step : Step Scope} (h : search.Turn cursor scope step) :
    ∃ after event, cursor.next = (some step.read, after) ∧ step.events = [event] ∧
      step.token = event.token ∧
      search.Tells scope after step.read event step.outcome step.cursor := by
  cases h with
  | whole hnext hkeep =>
      rename_i token after
      refine ⟨after, ?_⟩
      rcases search.firstClaims_or_declines token scope with ⟨rule, left, hfirst⟩ | hdeclines
      · refine ⟨.claimed rule.name token, hnext, ?_⟩
        simp only [settle_of_firstClaims hfirst, report_of_reporting hreporting]
        exact ⟨trivial, rfl, Tells.claimed hfirst⟩
      · have hlabel : token.isLabelled = false := by
          rcases hkeep with hoffer | hlabel
          · rw [offer?_eq_none_iff.mpr hdeclines] at hoffer
            cases hoffer
          · exact hlabel
        refine ⟨.fellBack token, hnext, ?_⟩
        simp only [settle_of_declines hdeclines]
        exact ⟨report_of_reporting hreporting _, rfl, Tells.declined hdeclines hlabel⟩
  | recut hnext hoffer hlabel hrecut =>
      rename_i token plain after behind
      have hdeclines := offer?_eq_none_iff.mp hoffer
      refine ⟨after, ?_⟩
      rcases search.firstClaims_or_declines plain scope with ⟨rule, left, hfirst⟩ | hpart
      · refine ⟨.claimed rule.name plain, hnext, ?_⟩
        simp only [settle_of_firstClaims hfirst, report_of_reporting hreporting]
        exact ⟨trivial, rfl, Tells.partClaimed hdeclines hlabel hrecut hfirst⟩
      · refine ⟨.fellBack plain, hnext, ?_⟩
        simp only [settle_of_declines hpart]
        exact ⟨report_of_reporting hreporting _, rfl,
          Tells.partDeclined hdeclines hlabel hrecut hpart⟩

theorem Tells.turn (hreporting : search.reporting = true) {cursor after behind : Cursor}
    {scope : Scope} {token : Token} {event : Event} {outcome : Except SearchError Scope}
    (hnext : cursor.next = (some token, after))
    (h : search.Tells scope after token event outcome behind) :
    search.Turn cursor scope
      { events := [event], outcome := outcome, token := event.token, cursor := behind
        read := token } := by
  cases h with
  | claimed hfirst =>
      have hoffer := offer?_eq_some_iff.mpr ⟨_, _, hfirst, rfl⟩
      have hturn := Turn.whole hnext (Or.inl (Option.isSome_of_mem hoffer))
      rw [settle_of_firstClaims hfirst, report_of_reporting hreporting] at hturn
      exact hturn
  | declined hdeclines hlabel =>
      have hturn : search.Turn cursor scope _ := Turn.whole hnext (Or.inr hlabel)
      rw [settle_of_declines hdeclines, fallBack, report_of_reporting hreporting] at hturn
      exact hturn
  | partClaimed hdeclines hlabel hrecut hfirst =>
      have hturn := Turn.recut hnext (offer?_eq_none_iff.mpr hdeclines) hlabel hrecut
      rw [settle_of_firstClaims hfirst, report_of_reporting hreporting] at hturn
      exact hturn
  | partDeclined hdeclines hlabel hrecut hpart =>
      have hturn := Turn.recut hnext (offer?_eq_none_iff.mpr hdeclines) hlabel hrecut
      rw [settle_of_declines hpart, fallBack, report_of_reporting hreporting] at hturn
      exact hturn

theorem Turn.unique {cursor : Cursor} {scope : Scope} {step other : Step Scope}
    (h : search.Turn cursor scope step) (hother : search.Turn cursor scope other) :
    step = other := by
  rcases turn_iff_resolve.mp h with ⟨token, after, hnext, rfl⟩
  rcases turn_iff_resolve.mp hother with ⟨token', after', hnext', rfl⟩
  rw [hnext] at hnext'
  cases hnext'
  rfl

theorem Tells.unique (hreporting : search.reporting = true) {cursor after behind behind' : Cursor}
    {scope : Scope} {token : Token} {event event' : Event}
    {outcome outcome' : Except SearchError Scope} (hnext : cursor.next = (some token, after))
    (h : search.Tells scope after token event outcome behind)
    (h' : search.Tells scope after token event' outcome' behind') :
    event = event' ∧ outcome = outcome' ∧ behind = behind' := by
  have hstep := (h.turn hreporting hnext).unique (h'.turn hreporting hnext)
  refine ⟨List.singleton_inj.mp ?_, ?_, ?_⟩
  · exact congrArg (fun step => step.events) hstep
  · exact congrArg (fun step => step.outcome) hstep
  · exact congrArg (fun step => step.cursor) hstep

/-!
## All tokens
-/

/-- A compilation from the cursor on, told by the tokens that are read and the events that are
told of them, and what it comes to.  It ends where there is no further token, or else with
the first error. -/
inductive Story (search : Search Scope) :
    Cursor → Scope → List (Token × Event) → Except SearchError Scope → Prop where
  | ended {cursor : Cursor} {scope : Scope} (hnext : cursor.next.1 = none) :
      Story search cursor scope [] (.ok scope)
  | failed {cursor after behind : Cursor} {scope : Scope} {token : Token} {event : Event}
      {error : SearchError} (hnext : cursor.next = (some token, after))
      (htells : search.Tells scope after token event (.error error) behind) :
      Story search cursor scope [(token, event)] (.error error)
  | next {cursor after behind : Cursor} {scope left : Scope} {token : Token} {event : Event}
      {told : List (Token × Event)} {outcome : Except SearchError Scope}
      (hnext : cursor.next = (some token, after))
      (htells : search.Tells scope after token event (.ok left) behind)
      (hrest : Story search behind left told outcome) :
      Story search cursor scope ((token, event) :: told) outcome

theorem Story.unique (hreporting : search.reporting = true) {cursor : Cursor} {scope : Scope}
    {told told' : List (Token × Event)} {outcome outcome' : Except SearchError Scope}
    (h : search.Story cursor scope told outcome) (h' : search.Story cursor scope told' outcome') :
    told = told' ∧ outcome = outcome' := by
  induction h generalizing told' outcome' with
  | ended hnext =>
      cases h' with
      | ended hnext' =>
          exact ⟨rfl, rfl⟩
      | failed hnext' htells' =>
          rw [hnext'] at hnext
          cases hnext
      | next hnext' htells' hrest' =>
          rw [hnext'] at hnext
          cases hnext
  | failed hnext htells =>
      cases h' with
      | ended hnext' =>
          rw [hnext] at hnext'
          cases hnext'
      | failed hnext' htells' =>
          rw [hnext] at hnext'
          cases hnext'
          rcases htells.unique hreporting hnext htells' with ⟨rfl, houtcome, -⟩
          exact ⟨rfl, houtcome⟩
      | next hnext' htells' hrest' =>
          rw [hnext] at hnext'
          cases hnext'
          cases (htells.unique hreporting hnext htells').2.1
  | next hnext htells hrest ih =>
      cases h' with
      | ended hnext' =>
          rw [hnext] at hnext'
          cases hnext'
      | failed hnext' htells' =>
          rw [hnext] at hnext'
          cases hnext'
          cases (htells.unique hreporting hnext htells').2.1
      | next hnext' htells' hrest' =>
          rw [hnext] at hnext'
          cases hnext'
          rcases htells.unique hreporting hnext htells' with ⟨rfl, houtcome, rfl⟩
          cases houtcome
          rcases ih hrest' with ⟨rfl, rfl⟩
          exact ⟨rfl, rfl⟩

theorem exists_story (hreporting : search.reporting = true) (cursor : Cursor) (scope : Scope) :
    ∃ told, told.map Prod.fst = (search.steps cursor scope).map Step.read ∧
      told.map Prod.snd = (search.compileFrom cursor scope).events ∧
      search.Story cursor scope told (search.compileFrom cursor scope).outcome := by
  induction cursor, scope using turn_induction search with
  | exhausted cursor scope after hnext =>
      rw [search.steps_of_next_none scope hnext, search.compileFrom_of_next_none scope hnext]
      exact ⟨[], rfl, rfl, Story.ended (by rw [hnext])⟩
  | turn cursor scope step hturn ih =>
      rcases hturn.tells hreporting with ⟨after, event, hnext, hevents, -, htells⟩
      rw [steps_of_turn hturn, compileFrom_of_turn hturn]
      cases houtcome : step.outcome with
      | error error =>
          rw [houtcome] at htells
          refine ⟨[(step.read, event)], ?_, ?_, ?_⟩
          · simp [later, houtcome]
          · simp [Verdict.andThen, houtcome, hevents]
          · simpa [Verdict.andThen, houtcome] using Story.failed hnext htells
      | ok left =>
          rcases ih left houtcome with ⟨told, hread, htold, hstory⟩
          rw [houtcome] at htells
          refine ⟨(step.read, event) :: told, ?_, ?_, ?_⟩
          · simp [later, houtcome, hread]
          · simp [Verdict.andThen, houtcome, hevents, htold]
          · simpa [Verdict.andThen, houtcome] using Story.next hnext htells hstory

theorem exists_last_of_error (hreporting : search.reporting = true) {cursor : Cursor}
    {scope : Scope} {error : SearchError}
    (h : (search.compileFrom cursor scope).outcome = .error error) :
    ∃ first step, search.steps cursor scope = first ++ [step] ∧ step.outcome = .error error ∧
      ∃ earlier, (search.compileFrom cursor scope).events = earlier ++ [.fellBack step.token] := by
  have hcompletes : search.Completes cursor scope _ _ :=
    Completes.steps_compileFrom cursor scope
  rw [h] at hcompletes
  generalize hsteps : search.steps cursor scope = steps at hcompletes
  cases hcompletes with
  | failed htrail hturn herror =>
      rename_i first step
      refine ⟨first, step, rfl, herror, first.flatMap fun step => step.events, ?_⟩
      rcases hturn.tells hreporting with ⟨after, event, -, hevents, htoken, htells⟩
      have hevent := htells.eq_fellBack_of_error herror
      simp only [compileFrom, conclude, hsteps, List.flatMap_append, List.flatMap_singleton]
      rw [hevents, hevent, htoken]

/-- One event is told for every token that is read, in order: it says which rule claimed the
token first, or which claimed the plain token at its start, or what fell to the fallback.  An
error is told last. -/
theorem compile_tells (hreporting : search.reporting = true) (query : Text) (scope : Scope) :
    let steps := search.steps (Cursor.ofQuery query) scope
    let verdict := search.compile query scope
    ∃ told, told.map Prod.fst = steps.map Step.read ∧ told.map Prod.snd = verdict.events ∧
      (∀ other outcome, search.Story (Cursor.ofQuery query) scope other outcome ↔
        other = told ∧ outcome = verdict.outcome) ∧
      ∀ error, verdict.outcome = .error error →
        ∃ first step, steps = first ++ [step] ∧ step.outcome = .error error ∧
          ∃ earlier, verdict.events = earlier ++ [.fellBack step.token] := by
  intro steps verdict
  rcases exists_story hreporting (Cursor.ofQuery query) scope with ⟨told, hread, htold, hstory⟩
  refine ⟨told, hread, htold, ?_, fun error => exists_last_of_error hreporting⟩
  intro other outcome
  constructor
  · intro hother
    exact hother.unique hreporting hstory
  · intro h
    rcases h with ⟨rfl, rfl⟩
    exact hstory

def flagging : Search (List Token) :=
  { name := ['f']
    rulebook :=
      { rules :=
          [⟨['c'], fun token tokens =>
              if token.raw.getLast? = some ':' then some (tokens ++ [token]) else none⟩,
            ⟨['b'], fun token tokens =>
              if token.label? = some ['b'] then some (tokens ++ [token]) else none⟩] }
    fallback := none
    reporting := true }

def flags : Text :=
  ['b', ':', ' ', 'x', ' ', 'a', ':', ' ', 'z', ' ', 'z']

theorem compile_tells_flags :
    flagging.reporting = true ∧
      ∃ told,
        told.map Prod.snd =
          [.claimed ['b'] ⟨['b', ':', ' ', 'x']⟩, .claimed ['c'] ⟨['a', ':']⟩,
            .fellBack ⟨['z']⟩] ∧
        flagging.Story (Cursor.ofQuery flags) [] told (.error (.noFallback ['f'])) := by
  have hevents : (flagging.compile flags []).events =
      [.claimed ['b'] ⟨['b', ':', ' ', 'x']⟩, .claimed ['c'] ⟨['a', ':']⟩,
        .fellBack ⟨['z']⟩] := by
    decide +kernel
  have houtcome : (flagging.compile flags []).outcome = .error (.noFallback ['f']) := by
    decide +kernel
  rcases compile_tells (rfl : flagging.reporting = true) flags [] with ⟨told, -, htold, hstory, -⟩
  exact ⟨rfl, told, htold.trans hevents, (hstory told _).mpr ⟨rfl, houtcome.symm⟩⟩

end Search

end SearchQuery
