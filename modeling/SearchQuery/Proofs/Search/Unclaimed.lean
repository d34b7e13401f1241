import SearchQuery.Proofs.Search.Turn

/-!
# Queries that no rule claims

A search whose rules claim nothing leaves every token to its fallback.  Then the
label of a token is of no account: what is resolved is the plain token at its
start, and in a text without double quotes that is the next word.  So the fallback
is asked once for every word, in order, however the words were read together as
tokens on the way.
-/

namespace SearchQuery

universe u

variable {Scope : Type u}

theorem Cut.words_of_bare? {t : Text} {cut : Cut} (hbare : Text.Bare t)
    (h : bare? t = some cut) : Text.words t = cut.text :: Text.words cut.rest := by
  rcases bare?_eq_some_iff.mp h with ⟨hne, hgraph, hopens, rfl⟩
  have hword : Text.words cut.text = [cut.text] :=
    Text.words_of_no_blank hne fun c hc => Text.isBlank_eq_false_of_isGraph (hgraph c hc)
  by_cases hrest : cut.rest = []
  · rw [hrest, List.append_nil, hword, Text.words_nil]
  · have hblank := hbare.append_right.opensBlank hrest hopens
    rw [Text.words_append_of_opensBlank _ hblank, hword, List.singleton_append]

namespace Search

def ClaimsNothing (search : Search Scope) : Prop :=
  ∀ rule ∈ search.rulebook.rules, ∀ token scope, rule.claim? token scope = none

/-- Each step is the fallback's, asked for one of the words in the scope that it left
for the word before. -/
inductive FallsBackOn (search : Search Scope) (fallback : Token → Scope → Scope) :
    List Text → Scope → List (Step Scope) → Prop where
  | nil (scope : Scope) : FallsBackOn search fallback [] scope []
  | cons {word : Text} {words : List Text} {scope : Scope} {step : Step Scope}
      {steps : List (Step Scope)} (htoken : step.token = ⟨word⟩)
      (hevents : step.events = search.report (.fellBack ⟨word⟩))
      (houtcome : step.outcome = .ok (fallback ⟨word⟩ scope))
      (htail : FallsBackOn search fallback words (fallback ⟨word⟩ scope) steps) :
      FallsBackOn search fallback (word :: words) scope (step :: steps)

namespace FallsBackOn

variable {search : Search Scope} {fallback : Token → Scope → Scope} {words : List Text}
variable {scope : Scope} {steps : List (Step Scope)}

theorem length_eq (h : search.FallsBackOn fallback words scope steps) :
    steps.length = words.length := by
  induction h with
  | nil =>
      rfl
  | cons htoken hevents houtcome htail ih =>
      rw [List.length_cons, List.length_cons, ih]

theorem conclude_eq (h : search.FallsBackOn fallback words scope steps) :
    conclude steps scope =
      { events := words.flatMap fun word => search.report (.fellBack ⟨word⟩)
        outcome := .ok (words.foldl (fun left word => fallback ⟨word⟩ left) scope) } := by
  induction h with
  | nil =>
      rfl
  | cons htoken hevents houtcome htail ih =>
      rw [conclude_cons_of_ok _ _ houtcome, ih, hevents, List.flatMap_cons, List.foldl_cons]

end FallsBackOn

namespace ClaimsNothing

variable {search : Search Scope}

theorem offer?_eq_none (h : search.ClaimsNothing) (token : Token) (scope : Scope) :
    search.offer? token scope = none :=
  offer?_eq_none_iff.mpr fun rule hrule => h rule hrule token scope

theorem exists_word_of_turn (h : search.ClaimsNothing) {cursor : Cursor} {scope : Scope}
    {step : Step Scope} (hturn : search.Turn cursor scope step)
    (hbare : Text.Bare cursor.rest) :
    ∃ word, Text.words cursor.rest = word :: Text.words step.cursor.rest ∧
      step.token = ⟨word⟩ ∧ step.toVerdict = search.fallBack ⟨word⟩ scope ∧
      Text.Bare step.cursor.rest := by
  rcases turn_iff_chosen.mp hturn with ⟨cut, chosen, hcut, hchosen, rfl⟩
  have hplain := plain?_chosen (h.offer?_eq_none ⟨cut.text⟩ scope) hcut
  rw [← hchosen] at hplain
  have hstart := hbare.trimStart
  rw [Cut.plain?_of_quote_not_mem hstart.quote_not_mem] at hplain
  refine ⟨chosen.text, ?_, rfl, ?_, ?_⟩
  · rw [← Text.words_trimStart, Cut.words_of_bare? hstart hplain]
    rfl
  · exact settle_of_offer?_none (h.offer?_eq_none _ _)
  · rw [← (Cut.divides_of_bare? hplain).whole] at hstart
    exact hstart.append_right

theorem fallsBackOn_steps (h : search.ClaimsNothing) {fallback : Token → Scope → Scope}
    (hfallback : search.fallback = some fallback) (cursor : Cursor) (scope : Scope)
    (hbare : Text.Bare cursor.rest) :
    search.FallsBackOn fallback (Text.words cursor.rest) scope (search.steps cursor scope) := by
  induction cursor, scope using turn_induction search with
  | exhausted cursor scope after hnext =>
      rw [Text.words_of_blank (hbare.blank (Cursor.next_eq_none hnext)),
        search.steps_of_next_none scope hnext]
      exact FallsBackOn.nil scope
  | turn cursor scope step hturn ih =>
      rcases h.exists_word_of_turn hturn hbare with ⟨word, hwords, htoken, hverdict, hrest⟩
      have houtcome : step.outcome = .ok (fallback ⟨word⟩ scope) := by
        rw [hverdict, fallBack, hfallback]
      have hevents : step.events = search.report (.fellBack ⟨word⟩) := by
        rw [hverdict, fallBack]
      rw [hwords, steps_of_turn hturn, later, houtcome]
      exact FallsBackOn.cons htoken hevents houtcome (ih _ houtcome hrest)

end ClaimsNothing

/-- Where no rule claims a token and no double quote stands, the fallback is asked once for
every word of the query, in order. -/
theorem compile_of_claimsNothing {search : Search Scope} {fallback : Token → Scope → Scope}
    (hclaims : search.ClaimsNothing) (hfallback : search.fallback = some fallback)
    {query : Text} (hquery : Text.Bare query) (scope : Scope) :
    search.FallsBackOn fallback (Text.words query) scope
        (search.steps (Cursor.ofQuery query) scope) ∧
      (search.steps (Cursor.ofQuery query) scope).length = (Text.words query).length ∧
      search.compile query scope =
        { events := (Text.words query).flatMap fun word => search.report (.fellBack ⟨word⟩)
          outcome :=
            .ok ((Text.words query).foldl (fun left word => fallback ⟨word⟩ left) scope) } := by
  have hsteps := hclaims.fallsBackOn_steps hfallback (Cursor.ofQuery query) scope hquery.trim
  have hwords : Text.words (Cursor.ofQuery query).rest = Text.words query :=
    Text.words_trim query
  rw [hwords] at hsteps
  exact ⟨hsteps, hsteps.length_eq, hsteps.conclude_eq⟩

def declining : Search (List Token) :=
  { collecting with rulebook := Rulebook.empty.add ⟨['n'], fun _ _ => none⟩ }

theorem compile_of_claimsNothing_labels :
    declining.ClaimsNothing ∧ Text.Bare ['a', ':', ' ', 'b', ':', ' ', 'c'] ∧
      (declining.steps (Cursor.ofQuery ['a', ':', ' ', 'b', ':', ' ', 'c']) []).length = 3 ∧
      (declining.compile ['a', ':', ' ', 'b', ':', ' ', 'c'] []).outcome =
        .ok [⟨['a', ':']⟩, ⟨['b', ':']⟩, ⟨['c']⟩] := by
  have hclaims : declining.ClaimsNothing := by
    intro rule hrule token scope
    rw [declining, Rulebook.rules_add, Rulebook.rules_empty, List.nil_append,
      List.mem_singleton] at hrule
    rw [hrule]
  have hbare : Text.Bare ['a', ':', ' ', 'b', ':', ' ', 'c'] := by
    decide
  have hwords : Text.words ['a', ':', ' ', 'b', ':', ' ', 'c'] =
      [['a', ':'], ['b', ':'], ['c']] := by
    decide
  rcases compile_of_claimsNothing hclaims rfl hbare [] with ⟨-, hlength, hcompile⟩
  rw [hwords] at hlength hcompile
  exact ⟨hclaims, hbare, hlength, congrArg Verdict.outcome hcompile⟩

end Search

end SearchQuery
