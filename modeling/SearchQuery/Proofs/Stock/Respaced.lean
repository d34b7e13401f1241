import SearchQuery.Proofs.Search.Respaced
import SearchQuery.Proofs.Search.Spacing
import SearchQuery.Proofs.Stock.Growth
import SearchQuery.Proofs.Stock.Jobs

/-!
# Superfluous white space in the stock searches

Jobs and tasks are searched by the words of a query alone, if there is no double
quote in it.  Receipts are too, but for their amounts: an amount is one only with a
single space between it and its label, and is looked up among the numbers of the
checks otherwise, as the label is.
-/

namespace SearchQuery

namespace Stock

/-- Wherever an amount stands behind its label, a single space stands between in both texts or
in neither. -/
def AmountsAlike (s t : Text) : Prop :=
  ∀ k, Text.wordAt s k = "amount:" → Pattern.isAmount (Text.wordAt s (k + 1)) = true →
    (Text.gapAt s k = [' '] ↔ Text.gapAt t k = [' '])

theorem overlooksGaps_of_mem_jobSearch (reference : Date) {rule : Rule Chain}
    (h : rule ∈ (jobSearch reference).rulebook.rules) : rule.OverlooksGaps := by
  rcases List.mem_cons.mp h with rfl | h
  · apply DateRule.toRule_overlooksGaps
    intro label hlabel
    cases hlabel
  · rw [List.mem_singleton.mp h]
    exact ChainRule.found_number_overlooksGaps _ _ (by decide)

theorem overlooksGaps_of_mem_taskSearch {rule : Rule Chain}
    (h : rule ∈ taskSearch.rulebook.rules) : rule.OverlooksGaps := by
  rcases List.mem_cons.mp h with rfl | h
  · exact ChainRule.labelled_overlooksGaps _ _ _ _
  · rcases List.mem_cons.mp h with rfl | h
    · exact ChainRule.compared_overlooksGaps _ _ (by decide)
    · rw [List.mem_singleton.mp h]
      exact ChainRule.dated_overlooksGaps _ _

/-!
## Receipts
-/

section

variable {reference : Date} {token other : Token} {name gap gap' body : Text}

theorem mem_receiptSearch_rules {rule : Rule Chain}
    (h : rule ∈ (receiptSearch reference).rulebook.rules) :
    (∃ dates : DateRule Chain, rule = dates.toRule reference ∧
      ∀ label ∈ dates.label, label = "posted".toList) ∨
    rule = ChainRule.found "amount" (Pattern.amount "amount") receiptAmount := by
  rcases List.mem_cons.mp h with rfl | h
  · refine Or.inl ⟨_, rfl, ?_⟩
    intro label hlabel
    cases hlabel
  · rcases List.mem_cons.mp h with rfl | h
    · refine Or.inl ⟨_, rfl, ?_⟩
      intro label hlabel
      exact (Option.mem_some_iff.mp hlabel).symm
    · exact Or.inr (List.mem_singleton.mp h)

theorem colon_not_mem_of_eq_posted {dates : DateRule Chain}
    (h : ∀ label ∈ dates.label, label = "posted".toList) :
    ∀ label ∈ dates.label, ':' ∉ label := by
  intro label hlabel
  rw [h label hlabel]
  decide

theorem receiptSearch_takesAlike (htoken : token.split? = some (⟨name, gap⟩, body))
    (hother : other.split? = some (⟨name, gap'⟩, body))
    (hamount : name = "amount" → Pattern.isAmount body = true → (gap = [' '] ↔ gap' = [' '])) :
    (receiptSearch reference).TakesAlike token other := by
  apply Search.takesAlike_of_rules
  intro rule hrule chain
  rcases mem_receiptSearch_rules hrule with ⟨dates, rfl, hlabel⟩ | rfl
  · exact DateRule.toRule_overlooksGaps reference (colon_not_mem_of_eq_posted hlabel) token other
      ⟨name, gap, gap', body, htoken, hother⟩ chain
  · apply ChainRule.found_claim?_congr
    rw [Pattern.amount_of_split? htoken (by decide), Pattern.amount_of_split? hother (by decide)]
    apply if_congr _ rfl rfl
    constructor
    · rintro ⟨hname, hgap, hbody⟩
      exact ⟨hname, (hamount hname hbody).mp hgap, hbody⟩
    · rintro ⟨hname, hgap, hbody⟩
      exact ⟨hname, (hamount hname hbody).mpr hgap, hbody⟩

theorem receiptSearch_declines (htoken : token.split? = some (⟨name, gap⟩, body))
    (hposted : name = "posted" → ':' ∈ body)
    (hamount : name = "amount" → gap = [' '] → Pattern.isAmount body = false) (chain : Chain) :
    (receiptSearch reference).offer? token chain = none := by
  rw [Search.offer?_eq_none_iff]
  intro rule hrule
  rcases mem_receiptSearch_rules hrule with ⟨dates, rfl, hlabel⟩ | rfl
  · exact DateRule.claim?_eq_none_of_split? reference htoken (colon_not_mem_of_eq_posted hlabel)
      (fun hname => hposted (hlabel name hname)) chain
  · apply ChainRule.found_claim?_of_none
    rw [← Option.map_eq_none_iff (f := Found.groups), Pattern.amount_of_split? htoken (by decide),
      if_neg]
    rintro ⟨hname, hgap, hbody⟩
    rw [hamount hname hgap] at hbody
    cases hbody

theorem settle_amount (htoken : token.split? = some (⟨"amount", [' ']⟩, body))
    (hbody : Pattern.isAmount body = true) (chain : Chain) :
    ((receiptSearch reference).offer? token chain).isSome = true ∧
      ((receiptSearch reference).settle token chain).outcome =
        .ok (chain.add (.equals receiptAmount body)) := by
  have hdates : ∀ dates : DateRule Chain, (∀ label ∈ dates.label, label = "posted".toList) →
      (dates.toRule reference).claim? token chain = none := by
    intro dates hlabel
    apply DateRule.claim?_eq_none_of_split? reference htoken (colon_not_mem_of_eq_posted hlabel)
    intro hamount
    exact absurd (hlabel _ hamount) (by decide)
  have hamount : (Pattern.amount "amount" token.raw).map Found.groups = some [some body] := by
    rw [Pattern.amount_of_split? htoken (by decide), if_pos ⟨rfl, rfl, hbody⟩]
  rcases Option.map_eq_some_iff.mp hamount with ⟨⟨t, groups⟩, hfound, rfl⟩
  have hclaim : (ChainRule.found "amount" (Pattern.amount "amount") receiptAmount).claim? token
      chain = some (chain.add (.equals receiptAmount body)) :=
    ChainRule.found_claim? chain hfound
  have hrules : ((receiptSearch reference).rulebook.rules.findSome? fun rule =>
      rule.claim? token chain) = some (chain.add (.equals receiptAmount body)) := by
    cases hclaimed : (receiptSearch reference).rulebook.rules.findSome? fun rule =>
        rule.claim? token chain with
    | none =>
        have hmem : ChainRule.found "amount" (Pattern.amount "amount") receiptAmount ∈
            (receiptSearch reference).rulebook.rules :=
          List.mem_of_getLast? rfl
        rw [List.findSome?_eq_none_iff.mp hclaimed _ hmem] at hclaim
        cases hclaim
    | some left =>
        rcases List.exists_of_findSome?_eq_some hclaimed with ⟨rule, hrule, hleft⟩
        rcases mem_receiptSearch_rules hrule with ⟨dates, rfl, hlabel⟩ | rfl
        · rw [hdates dates hlabel] at hleft
          cases hleft
        · rw [← hleft, hclaim]
  rw [Search.isSome_offer?, Search.outcome_settle, hrules]
  exact ⟨rfl, rfl⟩

theorem settle_amount_label (chain : Chain) :
    ((receiptSearch reference).settle ⟨"amount:"⟩ chain).outcome =
      .ok (chain.add (.like checkNumber "amount:")) := by
  rfl

end

/-!
## Receipts with the same words
-/

section

variable {reference : Date} {s t : Text}

theorem exists_leaves (stock : Stock) (reference : Date) (t : Text) (chain : Chain) :
    ∃ left, (stock.search reference).leaves t chain = .ok left ∧
      chain.conditions <+: left.conditions := by
  rcases stock.exists_fallback reference with ⟨fallback, hfallback⟩
  exact (stock.search_adds reference).exists_extension hfallback _ chain

theorem receiptSearch_takesAlike_of_gaps (hwords : Text.words s = Text.words t)
    (hlabels : Text.Labels s)
    (hamount : Text.firstWord s = "amount:" →
      Pattern.isAmount (Text.firstWord (Text.behindWord s)) = true →
      (Text.firstGap s = [' '] ↔ Text.firstGap t = [' '])) :
    (receiptSearch reference).TakesAlike ⟨Text.compound s⟩ ⟨Text.compound t⟩ := by
  rcases hlabels.bare_label with ⟨name, -, -, hname⟩
  apply receiptSearch_takesAlike (Token.split?_compound hlabels hname)
    (Token.split?_compound_of_words hwords hlabels hname)
  intro heq hbody
  rw [heq] at hname
  exact hamount hname hbody

theorem leaves_eq_of_amountsAlike (hs : '"' ∉ s) (ht : '"' ∉ t)
    (hwords : Text.words s = Text.words t) (h : AmountsAlike s t) (chain : Chain) :
    (receiptSearch reference).leaves s chain = (receiptSearch reference).leaves t chain := by
  apply Search.leaves_congr hs ht hwords
  intro k hlabels
  apply receiptSearch_takesAlike_of_gaps (Text.words_behindWords_congr hwords k) hlabels
  intro hname hbody
  apply h k hname
  rw [Text.wordAt, Text.behindWords_add]
  exact hbody

theorem leaves_ne_of_gap (hs : '"' ∉ s) (ht : '"' ∉ t) (hwords : Text.words s = Text.words t)
    (hname : Text.firstWord s = "amount:")
    (hbody : Pattern.isAmount (Text.firstWord (Text.behindWord s)) = true)
    (hgap : Text.firstGap s = [' ']) (hgap' : Text.firstGap t ≠ [' ']) (chain : Chain) :
    (receiptSearch reference).leaves s chain ≠ (receiptSearch reference).leaves t chain := by
  have hlabels : Text.Labels s := by
    refine ⟨⟨"amount", by decide, by decide, hname⟩, ?_⟩
    intro hnil
    rw [hnil] at hbody
    cases hbody
  have htoken : Token.split? ⟨Text.compound s⟩ =
      some (⟨"amount", [' ']⟩, Text.firstWord (Text.behindWord s)) := by
    rw [← hgap]
    exact Token.split?_compound hlabels hname
  have htoken' : Token.split? ⟨Text.compound t⟩ =
      some (⟨"amount", Text.firstGap t⟩, Text.firstWord (Text.behindWord s)) :=
    Token.split?_compound_of_words hwords hlabels hname
  have hclaimed : ((receiptSearch reference).offer? ⟨Text.compound s⟩ chain).isSome = true :=
    (settle_amount htoken hbody chain).1
  have hsettle : ((receiptSearch reference).settle ⟨Text.compound s⟩ chain).outcome = _ :=
    (settle_amount htoken hbody chain).2
  have hdeclined : (receiptSearch reference).offer? ⟨Text.compound t⟩ chain = none := by
    apply receiptSearch_declines htoken'
    · intro hposted
      exact absurd hposted (by decide)
    · intro _ hspace
      exact absurd hspace hgap'
  have hother := Text.firstWord_congr hwords
  rw [hname] at hother
  have hne : Text.firstWord t ≠ [] := by
    rw [← hother]
    decide
  rw [Search.leaves_of_compound hs hlabels hclaimed, hsettle,
    Search.leaves_of_word ht hne fun _ => hdeclined, ← hother, settle_amount_label]
  intro heq
  -- Both chains stay in front of what follows, and they end in different conditions.
  rcases exists_leaves receipts reference (Text.behindWord (Text.behindWord s))
    (chain.add (.equals receiptAmount (Text.firstWord (Text.behindWord s)))) with
    ⟨left, hleft, hprefix⟩
  rcases exists_leaves receipts reference (Text.behindWord t)
    (chain.add (.like checkNumber "amount:")) with ⟨left', hleft', hprefix'⟩
  have hsame : left = left' := Except.ok.inj ((hleft.symm.trans heq).trans hleft')
  rw [← hsame] at hprefix'
  have hadded := (List.prefix_of_prefix_length_le hprefix hprefix' (by simp)).eq_of_length (by simp)
  cases List.singleton_inj.mp (List.append_cancel_left hadded)

theorem firstGap_iff_of_leaves_eq (hs : '"' ∉ s) (ht : '"' ∉ t)
    (hwords : Text.words s = Text.words t) {chain : Chain}
    (h : (receiptSearch reference).leaves s chain = (receiptSearch reference).leaves t chain)
    (hname : Text.firstWord s = "amount:")
    (hbody : Pattern.isAmount (Text.firstWord (Text.behindWord s)) = true) :
    Text.firstGap s = [' '] ↔ Text.firstGap t = [' '] := by
  constructor
  · intro hgap
    by_contra hgap'
    exact leaves_ne_of_gap hs ht hwords hname hbody hgap hgap' chain h
  · intro hgap'
    by_contra hgap
    rw [Text.firstWord_congr hwords] at hname
    rw [Text.firstWord_congr (Text.words_behindWord_congr hwords)] at hbody
    exact leaves_ne_of_gap ht hs hwords.symm hname hbody hgap' hgap chain h.symm

theorem ne_amount_of_claimed {chain : Chain} (hlabels : Text.Labels s)
    (hclaimed : ((receiptSearch reference).offer? ⟨Text.compound s⟩ chain).isSome = true) :
    Text.firstWord (Text.behindWord s) ≠ "amount:" := by
  intro hbody
  rcases hlabels.bare_label with ⟨name, -, -, hname⟩
  have hdeclined : (receiptSearch reference).offer? ⟨Text.compound s⟩ chain = none := by
    apply receiptSearch_declines (Token.split?_compound hlabels hname)
    · intro _
      rw [hbody]
      decide
    · intro _ _
      rw [hbody]
      rfl
  rw [hdeclined] at hclaimed
  cases hclaimed

theorem amountsAlike_of_leaves_eq (hs : '"' ∉ s) (ht : '"' ∉ t)
    (hwords : Text.words s = Text.words t) {chain : Chain}
    (h : (receiptSearch reference).leaves s chain = (receiptSearch reference).leaves t chain) :
    AmountsAlike s t := by
  induction hlength : s.length using Nat.strong_induction_on generalizing s t chain with
  | _ length ih =>
      by_cases hne : Text.firstWord s = []
      · intro k hk
        rw [Text.wordAt_of_firstWord hne k] at hk
        cases hk
      · -- The first gap does not tell the texts apart, so the same is settled first in both.
        have hzero := firstGap_iff_of_leaves_eq hs ht hwords h
        rcases Search.exists_taken hs ht hwords hne
          (fun hlabels => receiptSearch_takesAlike_of_gaps hwords hlabels hzero) chain with
          ⟨token, n, hn, hleft, hright, htaken⟩
        have hfallback : (receiptSearch reference).fallback =
            some (Fallback.verbatim checkNumber) := rfl
        rcases Search.exists_outcome_settle hfallback token chain with ⟨left, hsettle⟩
        rw [hleft, hright, hsettle] at h
        have hlt := Text.behindWords_length_lt hne hn
        rw [hlength] at hlt
        have hrest : AmountsAlike (Text.behindWords s n) (Text.behindWords t n) :=
          ih _ hlt (Text.quote_not_mem_behindWords hs n) (Text.quote_not_mem_behindWords ht n)
            (Text.words_behindWords_congr hwords n) h rfl
        intro k hk hbody
        rcases htaken with rfl | ⟨rfl, hlabels, hclaimed⟩
        · cases k with
          | zero =>
              exact hzero hk hbody
          | succ k =>
              exact hrest k hk hbody
        · match k with
          | 0 =>
              exact hzero hk hbody
          | 1 =>
              exact absurd hk (ne_amount_of_claimed hlabels hclaimed)
          | k + 2 =>
              exact hrest k hk hbody

theorem amountsAlike_trim (hwords : Text.words s = Text.words t) :
    AmountsAlike (Text.trim s) (Text.trim t) ↔ AmountsAlike s t := by
  have hword : ∀ k, Text.wordAt (Text.trim s) k = Text.wordAt s k :=
    Text.wordAt_congr (Text.words_trim s)
  have hgaps : ∀ k, Pattern.isAmount (Text.wordAt s (k + 1)) = true →
      Text.gapAt (Text.trim s) k = Text.gapAt s k ∧
        Text.gapAt (Text.trim t) k = Text.gapAt t k := by
    intro k hbody
    have hne : Text.wordAt s (k + 1) ≠ [] := by
      intro hnil
      rw [hnil] at hbody
      cases hbody
    constructor
    · apply Text.gapAt_trim k
      rw [hword]
      exact hne
    · apply Text.gapAt_trim k
      rw [Text.wordAt_congr (Text.words_trim t), ← Text.wordAt_congr hwords]
      exact hne
  constructor
  · intro h k hname hbody
    rw [← (hgaps k hbody).1, ← (hgaps k hbody).2]
    apply h k
    · rw [hword]
      exact hname
    · rw [hword]
      exact hbody
  · intro h k hname hbody
    rw [hword] at hname hbody
    rw [(hgaps k hbody).1, (hgaps k hbody).2]
    exact h k hname hbody

end

/-!
## Queries with the same words
-/

/-- Without double quotes, white space between words is of no account in the searches for jobs
and for tasks, and in the search for receipts it is of none but between amounts and their
labels. -/
theorem compile_respaced_iff (stock : Stock) (reference : Date) (chain : Chain)
    {query other : Text} (hquery : '"' ∉ query) (hother : '"' ∉ other)
    (hwords : Text.words query = Text.words other) :
    ∃ left left', ((stock.search reference).compile query chain).outcome = .ok left ∧
      ((stock.search reference).compile other chain).outcome = .ok left' ∧
      (left = left' ↔ (stock = receipts → AmountsAlike query other)) := by
  have hs : '"' ∉ Text.trim query := fun hmem => hquery ((Text.trim_sublist query).subset hmem)
  have ht : '"' ∉ Text.trim other := fun hmem => hother ((Text.trim_sublist other).subset hmem)
  have htrim : Text.words (Text.trim query) = Text.words (Text.trim other) := by
    rw [Text.words_trim, Text.words_trim, hwords]
  rcases stock.exists_leaves reference (Text.trim query) chain with ⟨left, hleft, -⟩
  rcases stock.exists_leaves reference (Text.trim other) chain with ⟨left', hleft', -⟩
  have hleaves : left = left' ↔ (stock.search reference).leaves (Text.trim query) chain =
      (stock.search reference).leaves (Text.trim other) chain := by
    rw [hleft, hleft', Except.ok.injEq]
  refine ⟨left, left', ?_, ?_, ?_⟩
  · rw [Search.outcome_compile, hleft]
  · rw [Search.outcome_compile, hleft']
  · rw [hleaves]
    cases stock with
    | jobs =>
        have hsame := Search.leaves_congr_of_overlooksGaps hs ht htrim
          (fun _ => overlooksGaps_of_mem_jobSearch reference) chain
        exact ⟨fun _ hstock => (nomatch hstock), fun _ => hsame⟩
    | tasks =>
        have hsame := Search.leaves_congr_of_overlooksGaps hs ht htrim
          (fun _ => overlooksGaps_of_mem_taskSearch) chain
        exact ⟨fun _ hstock => (nomatch hstock), fun _ => hsame⟩
    | receipts =>
        rw [← amountsAlike_trim hwords]
        constructor
        · intro h _
          exact amountsAlike_of_leaves_eq hs ht htrim h
        · intro h
          exact leaves_eq_of_amountsAlike hs ht htrim (h rfl) chain

theorem compile_respaced_iff_amount :
    '"' ∉ "amount: 5".toList ∧ '"' ∉ "amount:  5".toList ∧
      Text.words "amount: 5" = Text.words "amount:  5" ∧
      ∃ left left',
        ((receipts.search ⟨2016, 1, 1, by decide⟩).compile "amount: 5" .empty).outcome =
            .ok left ∧
          ((receipts.search ⟨2016, 1, 1, by decide⟩).compile "amount:  5" .empty).outcome =
            .ok left' ∧
          left ≠ left' := by
  have hquery : '"' ∉ "amount: 5".toList := by
    decide
  have hother : '"' ∉ "amount:  5".toList := by
    decide
  have hwords : Text.words "amount: 5" = Text.words "amount:  5" := by
    rfl
  rcases compile_respaced_iff receipts ⟨2016, 1, 1, by decide⟩ .empty hquery hother hwords with
    ⟨left, left', hleft, hleft', hsame⟩
  refine ⟨hquery, hother, hwords, left, left', hleft, hleft', ?_⟩
  intro heq
  have hgap := (hsame.mp heq rfl 0 rfl rfl).mp rfl
  exact absurd hgap (by decide)

end Stock

end SearchQuery
