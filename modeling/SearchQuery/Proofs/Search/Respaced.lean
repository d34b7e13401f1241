import SearchQuery.Proofs.Search.Fold
import SearchQuery.Proofs.Search.Seam
import SearchQuery.Proofs.Token.Gaps

/-!
# Queries with the same words

Without double quotes, a query is compiled word by word, but for the words that
are claimed together with the label before them.  So the scope that is left does
not depend on the white space between words, as long as a label is claimed with
the word behind it, and to the same end, in spite of the white space between the
two.
-/

namespace SearchQuery

universe u

variable {Scope : Type u}

/-- The rule makes the same of tokens with the same label and the same body. -/
def Rule.OverlooksGaps (rule : Rule Scope) : Prop :=
  ∀ token other, token.Respaced other → ∀ scope, rule.claim? token scope = rule.claim? other scope

namespace Search

def leaves (search : Search Scope) (t : Text) (scope : Scope) : Except SearchError Scope :=
  (search.compileFrom { query := t, rest := t, last := none } scope).outcome

/-- The rules make the same of both tokens, whatever the scope. -/
def TakesAlike (search : Search Scope) (token other : Token) : Prop :=
  ∀ scope, (search.rulebook.rules.findSome? fun rule => rule.claim? token scope) =
    search.rulebook.rules.findSome? fun rule => rule.claim? other scope

variable (search : Search Scope)

theorem outcome_compileFrom (cursor : Cursor) (scope : Scope) :
    (search.compileFrom cursor scope).outcome = search.leaves cursor.rest scope := by
  rw [leaves, search.compileFrom_congr { query := cursor.rest, rest := cursor.rest, last := none }
    scope cursor rfl]

theorem outcome_compile (query : Text) (scope : Scope) :
    (search.compile query scope).outcome = search.leaves (Text.trim query) scope :=
  search.outcome_compileFrom (Cursor.ofQuery query) scope

/-!
## One token further
-/

variable {search} {t : Text} {scope : Scope}

theorem leaves_of_token? {cut : Cut} (hcut : Cut.token? (Text.trimStart t) = some cut) :
    search.leaves t scope =
      (search.settle ⟨(search.chosen (Text.trimStart t) cut scope).text⟩ scope).outcome.bind
        (search.leaves (search.chosen (Text.trimStart t) cut scope).rest) := by
  have hturn : search.Turn { query := t, rest := t, last := none } scope _ :=
    turn_iff_chosen.mpr ⟨cut, _, hcut, rfl, rfl⟩
  rw [leaves, compileFrom_of_turn hturn, Verdict.andThen]
  simp only [outcome_compileFrom]
  cases houtcome :
      (search.settle ⟨(search.chosen (Text.trimStart t) cut scope).text⟩ scope).outcome with
  | error error =>
      exact houtcome
  | ok left =>
      rfl

theorem leaves_of_no_word (h : Text.firstWord t = []) : search.leaves t scope = .ok scope := by
  have hcut : Cut.token? (Text.trimStart (Cursor.mk t t none).rest) = none :=
    Cut.token?_trimStart_of_no_word h
  rw [leaves, search.compileFrom_of_next_none scope (Cursor.next_of_token?_none hcut)]

theorem leaves_of_compound (hquote : '"' ∉ t) (hlabels : Text.Labels t)
    (hclaimed : (search.offer? ⟨Text.compound t⟩ scope).isSome = true) :
    search.leaves t scope =
      (search.settle ⟨Text.compound t⟩ scope).outcome.bind
        (search.leaves (Text.behindWord (Text.behindWord t))) := by
  rw [leaves_of_token? (Cut.token?_trimStart_of_labels hquote hlabels),
    chosen_of_kept (Or.inl hclaimed)]

theorem leaves_of_word (hquote : '"' ∉ t) (hne : Text.firstWord t ≠ [])
    (hdeclined : Text.Labels t → search.offer? ⟨Text.compound t⟩ scope = none) :
    search.leaves t scope =
      (search.settle ⟨Text.firstWord t⟩ scope).outcome.bind
        (search.leaves (Text.behindWord t)) := by
  have hplain := Cut.plain?_trimStart hquote hne
  by_cases hlabels : Text.Labels t
  · have hcut := Cut.token?_trimStart_of_labels hquote hlabels
    rcases hlabels.bare_label with ⟨name, -, -, hname⟩
    have hlabelled := Token.isLabelled_of_split? (Token.split?_compound hlabels hname)
    rw [leaves_of_token? hcut, chosen_of_recut (hdeclined hlabels) hlabelled hplain]
  · have hcut := Cut.token?_trimStart_of_word hquote hne hlabels
    have hchosen : search.chosen (Text.trimStart t) ⟨Text.firstWord t, Text.behindWord t⟩ scope =
        ⟨Text.firstWord t, Text.behindWord t⟩ := by
      rcases search.token?_or_plain?_chosen scope hcut with htoken | hplain'
      · rw [hcut] at htoken
        exact (Option.some.inj htoken).symm
      · rw [hplain] at hplain'
        exact (Option.some.inj hplain').symm
    rw [leaves_of_token? hcut, hchosen]

/-!
## The same words
-/

theorem takesAlike_of_rules {token other : Token}
    (h : ∀ rule ∈ search.rulebook.rules, ∀ scope,
      rule.claim? token scope = rule.claim? other scope) :
    search.TakesAlike token other := by
  intro scope
  revert h
  induction search.rulebook.rules with
  | nil =>
      exact fun _ => rfl
  | cons rule rules ih =>
      intro h
      rw [List.findSome?_cons, List.findSome?_cons, h rule List.mem_cons_self,
        ih fun rule hrule => h rule (List.mem_cons_of_mem _ hrule)]

namespace TakesAlike

variable {token other : Token}

theorem isSome_offer? (h : search.TakesAlike token other) (scope : Scope) :
    (search.offer? token scope).isSome = (search.offer? other scope).isSome := by
  rw [search.isSome_offer?, search.isSome_offer?, h scope]

theorem outcome_settle (h : search.TakesAlike token other)
    (hclaimed : (search.offer? token scope).isSome = true) :
    (search.settle token scope).outcome = (search.settle other scope).outcome := by
  rw [search.isSome_offer?] at hclaimed
  rcases Option.isSome_iff_exists.mp hclaimed with ⟨left, hleft⟩
  have hother := h scope
  rw [hleft] at hother
  rw [search.outcome_settle, search.outcome_settle, hleft, ← hother]

end TakesAlike

section

variable {s t : Text}

/-- As many words are taken off both texts, as one token or as two that the rules make the
same of. -/
theorem exists_taken (hs : '"' ∉ s) (ht : '"' ∉ t) (hwords : Text.words s = Text.words t)
    (hne : Text.firstWord s ≠ [])
    (halike : Text.Labels s → search.TakesAlike ⟨Text.compound s⟩ ⟨Text.compound t⟩)
    (scope : Scope) :
    ∃ token n, 0 < n ∧
      search.leaves s scope =
        (search.settle token scope).outcome.bind (search.leaves (Text.behindWords s n)) ∧
      search.leaves t scope =
        (search.settle token scope).outcome.bind (search.leaves (Text.behindWords t n)) ∧
      (n = 1 ∨ n = 2 ∧ Text.Labels s ∧
        (search.offer? ⟨Text.compound s⟩ scope).isSome = true) := by
  have hfirst := Text.firstWord_congr hwords
  by_cases hclaimed : Text.Labels s ∧ (search.offer? ⟨Text.compound s⟩ scope).isSome = true
  · have hlabels := (Text.labels_congr hwords).mp hclaimed.1
    have hclaimed' := hclaimed.2
    rw [(halike hclaimed.1).isSome_offer? scope] at hclaimed'
    refine ⟨⟨Text.compound s⟩, 2, by decide, leaves_of_compound hs hclaimed.1 hclaimed.2, ?_,
      Or.inr ⟨rfl, hclaimed⟩⟩
    rw [(halike hclaimed.1).outcome_settle hclaimed.2]
    exact leaves_of_compound ht hlabels hclaimed'
  · have hdeclined : Text.Labels s → search.offer? ⟨Text.compound s⟩ scope = none := by
      intro hlabels
      rw [← Option.not_isSome_iff_eq_none]
      exact fun h => hclaimed ⟨hlabels, h⟩
    have hdeclined' : Text.Labels t → search.offer? ⟨Text.compound t⟩ scope = none := by
      intro hlabels
      have hlabels' := (Text.labels_congr hwords).mpr hlabels
      rw [← Option.not_isSome_iff_eq_none, ← (halike hlabels').isSome_offer? scope,
        Option.not_isSome_iff_eq_none]
      exact hdeclined hlabels'
    refine ⟨⟨Text.firstWord s⟩, 1, by decide, leaves_of_word hs hne hdeclined, ?_, Or.inl rfl⟩
    rw [hfirst]
    exact leaves_of_word ht (hfirst ▸ hne) hdeclined'

theorem leaves_congr (hs : '"' ∉ s) (ht : '"' ∉ t) (hwords : Text.words s = Text.words t)
    (halike : ∀ k, Text.Labels (Text.behindWords s k) →
      search.TakesAlike ⟨Text.compound (Text.behindWords s k)⟩
        ⟨Text.compound (Text.behindWords t k)⟩)
    (scope : Scope) : search.leaves s scope = search.leaves t scope := by
  induction hlength : s.length using Nat.strong_induction_on generalizing s t scope with
  | _ length ih =>
      by_cases hne : Text.firstWord s = []
      · have hne' := Text.firstWord_congr hwords
        rw [hne] at hne'
        rw [leaves_of_no_word hne, leaves_of_no_word hne'.symm]
      · rcases exists_taken hs ht hwords hne (halike 0) scope with
          ⟨token, n, hn, hleft, hright, -⟩
        have hlt := Text.behindWords_length_lt hne hn
        rw [hlength] at hlt
        rw [hleft, hright]
        congr 1
        funext left
        apply ih _ hlt (Text.quote_not_mem_behindWords hs n) (Text.quote_not_mem_behindWords ht n)
          (Text.words_behindWords_congr hwords n) _ left rfl
        intro k
        rw [← Text.behindWords_add, ← Text.behindWords_add]
        exact halike (n + k)

theorem leaves_congr_of_overlooksGaps (hs : '"' ∉ s) (ht : '"' ∉ t)
    (hwords : Text.words s = Text.words t)
    (hrules : ∀ rule ∈ search.rulebook.rules, rule.OverlooksGaps) (scope : Scope) :
    search.leaves s scope = search.leaves t scope := by
  apply leaves_congr hs ht hwords
  intro k hlabels
  have hrespaced := Token.respaced_compound (Text.words_behindWords_congr hwords k) hlabels
  exact takesAlike_of_rules fun rule hrule => hrules rule hrule _ _ hrespaced

end

end Search

end SearchQuery
