import SearchQuery.Proofs.Filter.Growth
import SearchQuery.Proofs.Search.Fold
import SearchQuery.Search.ChainRule
import SearchQuery.Search.DateRule

/-!
# Searches that add to a chain

The rules on filter chains do not look at the chain that they find: what a token
adds is known from the token alone.  So it is for a search with such rules and
such a fallback, and a query adds what its resolved tokens add, one after the
other.
-/

namespace SearchQuery

/-- Each token is declined whatever the chain, or it adds the same to every chain, and that
is fitting. -/
def Rule.Adds (rule : Rule Chain) (fits : Addition → Prop) : Prop :=
  ∀ token, (∀ chain, rule.claim? token chain = none) ∨
    ∃ addition, fits addition ∧ ∀ chain, rule.claim? token chain = some (addition.extend chain)

def Search.Adds (search : Search Chain) (fits : Addition → Prop) : Prop :=
  ∀ token, search.Decides token ∧
    ∃ addition, fits addition ∧
      ∀ chain, (search.settle token chain).outcome = .ok (addition.extend chain)

variable {fits : Addition → Prop}

/-!
## Single rules
-/

theorem ChainRule.adding_adds {name : Text} {condition? : Token → Option Condition}
    (hfits : ∀ token, ∀ condition ∈ condition? token, fits ⟨none, condition⟩) :
    (adding name condition?).Adds fits := by
  intro token
  cases hcondition : condition? token with
  | none =>
      left
      intro chain
      simp only [adding, hcondition, Option.map_none]
  | some condition =>
      right
      refine ⟨⟨none, condition⟩, hfits token condition hcondition, ?_⟩
      intro chain
      simp only [adding, hcondition, Option.map_some, Addition.extend]

theorem ChainRule.labelled_adds {name label : Text} {table : Option Text} {column : Column}
    (hfits : ∀ value, fits ⟨table, .equals column value⟩) :
    (labelled name label table column).Adds fits := by
  intro token
  by_cases hlabel : token.label? = some label
  · right
    refine ⟨⟨table, .equals column token.term⟩, hfits token.term, ?_⟩
    intro chain
    simp only [labelled, if_pos hlabel]
    cases table with
    | none =>
        rfl
    | some table =>
        rfl
  · left
    intro chain
    simp only [labelled, if_neg hlabel]

theorem ChainRule.found_adds {name : Text} {pattern : Pattern} {column : Column}
    (hfits : ∀ value, fits ⟨none, .equals column value⟩) :
    (found name pattern column).Adds fits := by
  apply adding_adds
  intro token condition hcondition
  rcases Option.map_eq_some_iff.mp hcondition with ⟨found, -, rfl⟩
  exact hfits _

theorem Pattern.isNumber_of_comparison {name t found sign value : Text}
    (h : comparison name t = some ⟨found, [some sign, some value]⟩) : isNumber value = true := by
  unfold comparison at h
  split at h
  · split at h
    · next hparts =>
        cases h
        exact hparts.2
    · cases h
  · cases h

theorem ChainRule.compared_adds {name word : Text} {column : Column}
    (hfits : ∀ comparator value, Pattern.isNumber value = true →
      fits ⟨none, .compares column comparator value⟩) :
    (compared name word column).Adds fits := by
  apply adding_adds
  intro token condition hcondition
  rw [Option.mem_def] at hcondition
  split at hcondition
  · next hfound =>
      rcases Option.map_eq_some_iff.mp hcondition with ⟨comparator, -, rfl⟩
      exact hfits comparator _ (Pattern.isNumber_of_comparison hfound)
  · cases hcondition

theorem ChainRule.dated_adds {name : Text} {column : Column}
    (hfits : ∀ date : Date, fits ⟨none, .equals column date.text⟩) :
    (dated name column).Adds fits := by
  apply adding_adds
  intro token condition hcondition
  rcases Option.map_eq_some_iff.mp hcondition with ⟨date, -, rfl⟩
  exact hfits date

theorem DateRule.toRule_adds {rule : DateRule Chain} {table : Option Text} (today : Date)
    (hprepare : rule.prepare = table.map fun table chain => chain.join table)
    (hfits : ∀ period, fits ⟨table, .date (rule.condition period)⟩) :
    (rule.toRule today).Adds fits := by
  intro token
  cases hperiod : rule.period? today token with
  | none =>
      left
      intro chain
      simp only [toRule, claim?, hperiod, Option.map_none]
  | some period =>
      right
      refine ⟨⟨table, .date (rule.condition period)⟩, hfits period, ?_⟩
      intro chain
      simp only [toRule, claim?, hperiod, Option.map_some, prepared, hprepare]
      cases table with
      | none =>
          rfl
      | some table =>
          rfl

/-!
## Searches
-/

namespace Search

variable {search : Search Chain}

theorem findSome?_adds {rules : List (Rule Chain)} (hrules : ∀ rule ∈ rules, rule.Adds fits)
    (token : Token) :
    (∀ chain, (rules.findSome? fun rule => rule.claim? token chain) = none) ∨
      ∃ addition, fits addition ∧
        ∀ chain, (rules.findSome? fun rule => rule.claim? token chain) =
          some (addition.extend chain) := by
  induction rules with
  | nil =>
      exact Or.inl fun _ => rfl
  | cons rule rules ih =>
      rcases hrules rule List.mem_cons_self token with hnone | ⟨addition, hfits, hclaim⟩
      · have hskip : ∀ chain, ((rule :: rules).findSome? fun rule => rule.claim? token chain) =
            rules.findSome? fun rule => rule.claim? token chain := by
          intro chain
          rw [List.findSome?_cons, hnone chain]
        simp only [hskip]
        exact ih fun other hother => hrules other (List.mem_cons_of_mem rule hother)
      · right
        refine ⟨addition, hfits, ?_⟩
        intro chain
        rw [List.findSome?_cons, hclaim chain]

theorem adds_of_rules (hrules : ∀ rule ∈ search.rulebook.rules, rule.Adds fits)
    {fallback : Token → Chain → Chain} (hfallback : search.fallback = some fallback)
    (hadds : ∀ token, ∃ addition : Addition,
      fits addition ∧ ∀ chain, fallback token chain = addition.extend chain) :
    search.Adds fits := by
  intro token
  simp only [Decides, isSome_offer?, outcome_settle]
  rcases findSome?_adds hrules token with hnone | ⟨addition, hfits, hclaim⟩
  · rcases hadds token with ⟨addition, hfits, hextend⟩
    simp only [hnone, fallBack, hfallback, hextend]
    exact ⟨by simp, addition, hfits, by simp⟩
  · simp only [hclaim]
    exact ⟨by simp, addition, hfits, by simp⟩

theorem Adds.mono {fits' : Addition → Prop} (h : search.Adds fits)
    (himp : ∀ addition, fits addition → fits' addition) : search.Adds fits' := by
  intro token
  rcases h token with ⟨hdecides, addition, hfits, hsettle⟩
  exact ⟨hdecides, addition, himp addition hfits, hsettle⟩

theorem Adds.exists_addition (h : search.Adds fits) :
    ∃ addition : Token → Addition, (∀ token, fits (addition token)) ∧
      (∀ token chain, (search.settle token chain).outcome = .ok ((addition token).extend chain)) ∧
      ∀ cursor chain, (search.compileFrom cursor chain).outcome =
        .ok ((search.resolved cursor chain).foldl
          (fun chain token => (addition token).extend chain) chain) := by
  choose addition hfits hsettle using fun token => (h token).2
  refine ⟨addition, hfits, hsettle, ?_⟩
  intro cursor chain
  rw [← foldlM_settle_resolved]
  simp only [hsettle]
  exact List.foldlM_pure

theorem Adds.exists_extension (h : search.Adds fits) {fallback : Token → Chain → Chain}
    (hfallback : search.fallback = some fallback) (cursor : Cursor) (chain : Chain) :
    ∃ left, (search.compileFrom cursor chain).outcome = .ok left ∧
      chain.conditions <+: left.conditions := by
  apply compileFrom_preserves hfallback _ cursor chain List.prefix_rfl
  intro token scope left hscope hleft
  rcases (h token).2 with ⟨addition, -, hsettle⟩
  rw [hsettle scope, Except.ok.injEq] at hleft
  rw [← hleft, addition.conditions_extend]
  exact hscope.trans (List.prefix_append _ _)

end Search

end SearchQuery
