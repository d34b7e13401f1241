import SearchQuery.Proofs.Filter.Joins
import SearchQuery.Proofs.Stock.Growth

/-!
# Searches that join a table

A table is joined on account of a token that asks for a column of it, and of no
token that was declined.  However many tokens of either kind a query has and in
whatever order, the chain that is left has one join if any condition needs it,
and has it in time.
-/

namespace SearchQuery

namespace Search

variable {search : Search Chain} {table : Text} {needs : Condition → Bool}

theorem compile_joins {fallback : Token → Chain → Chain}
    (hfallback : search.fallback = some fallback) (hjoin : needs (.join table) = false)
    (hgrows : ∀ token chain left, (search.settle token chain).outcome = .ok left →
      chain.Grows table needs left)
    (query : Text) (chain : Chain) :
    ∃ added, (search.compile query chain).outcome = .ok ⟨chain.conditions ++ added⟩ ∧
      Chain.JoinsFor table needs chain.conditions added := by
  have hstep : ∀ token left next,
      (∃ added, left.conditions = chain.conditions ++ added ∧
        Chain.JoinsFor table needs chain.conditions added) →
      (search.settle token left).outcome = .ok next →
      ∃ added, next.conditions = chain.conditions ++ added ∧
        Chain.JoinsFor table needs chain.conditions added := by
    intro token left next hleft hnext
    rcases hleft with ⟨added, hadded, hjoins⟩
    rcases hjoins.grow hjoin hadded (hgrows token left next hnext) with ⟨more, hmore, hjoins'⟩
    exact ⟨added ++ more, hmore, hjoins'⟩
  rcases compileFrom_preserves hfallback hstep (Cursor.ofQuery query) chain
    ⟨[], (List.append_nil _).symm, Chain.JoinsFor.nil table needs chain.conditions⟩ with
    ⟨left, hleft, added, hadded, hjoins⟩
  refine ⟨added, ?_, hjoins⟩
  rw [← hadded]
  exact hleft

theorem settle_grows_of_dateRule {rule : DateRule Chain} {today : Date}
    {fallback : Token → Chain → Chain} (hrules : search.rulebook.rules = [rule.toRule today])
    (hprepare : rule.prepare = some fun chain => chain.join table)
    (hfallback : search.fallback = some fallback)
    (hothers : ∀ token chain, ∃ added,
      (fallback token chain).conditions = chain.conditions ++ added ∧
        ∀ condition ∈ added, condition.isJoin = false ∧ condition.isDate = false)
    (token : Token) (chain left : Chain) (h : (search.settle token chain).outcome = .ok left) :
    chain.Grows table (fun condition => condition.isDate && condition.column? = some rule.field)
      left := by
  rw [outcome_settle, hrules, List.findSome?_singleton] at h
  cases hperiod : rule.period? today token with
  | none =>
      simp only [DateRule.toRule, DateRule.claim?, hperiod, Option.map_none, fallBack, hfallback,
        Except.ok.injEq] at h
      subst h
      rcases hothers token chain with ⟨added, hadded, hneither⟩
      refine .others hadded ?_
      intro condition hcondition
      rcases hneither condition hcondition with ⟨hjoin, hdate⟩
      exact ⟨condition.ne_join_of_isJoin hjoin table, by rw [hdate, Bool.false_and]⟩
  | some period =>
      simp only [DateRule.toRule, DateRule.claim?, hperiod, Option.map_some, DateRule.prepared,
        hprepare, Except.ok.injEq] at h
      subst h
      apply Chain.Grows.needing
      rw [Bool.and_eq_true, decide_eq_true_eq]
      exact ⟨rfl, rfl⟩

end Search

theorem Stock.settle_grows_of_tasks (reference : Date) (token : Token) (chain left : Chain)
    (h : ((tasks.search reference).settle token chain).outcome = .ok left) :
    chain.Grows "categories" (fun condition => condition.column? = some categoryName) left := by
  rcases (tasks.search_adds reference).exists_addition with ⟨addition, hfits, hsettle, -⟩
  rw [hsettle, Except.ok.injEq] at h
  subst h
  have htable := (hfits token).table_eq
  by_cases hcolumn : (addition token).condition.column? = some categoryName
  · rw [if_pos hcolumn] at htable
    rw [Addition.extend, htable]
    exact .needing (decide_eq_true hcolumn)
  · rw [if_neg hcolumn] at htable
    rw [Addition.extend, htable]
    refine .others rfl ?_
    intro condition hcondition
    rw [List.mem_singleton.mp hcondition]
    exact ⟨Condition.ne_join_of_isJoin (hfits token).not_join _, decide_eq_false hcolumn⟩

/-!
## Joins as they are needed
-/

/-- A join comes once, in time, and only for a condition that needs it: in the search for tasks,
one on the name of a category; in a search with a single date rule that joins a table, a period
asked of the field of the rule, if the fallback adds neither joins nor periods. -/
theorem compile_joins_as_needed :
    (∀ (reference : Date) (query : Text) (chain : Chain), ∃ added,
      ((Stock.tasks.search reference).compile query chain).outcome =
          .ok ⟨chain.conditions ++ added⟩ ∧
        Chain.JoinsFor "categories"
          (fun condition => condition.column? = some Stock.categoryName)
          chain.conditions added) ∧
    ∀ (search : Search Chain) (rule : DateRule Chain) (today : Date) (table : Text)
        (fallback : Token → Chain → Chain),
      search.rulebook.rules = [rule.toRule today] →
      rule.prepare = some (fun chain => chain.join table) →
      search.fallback = some fallback →
      (∀ token chain, ∃ added, (fallback token chain).conditions = chain.conditions ++ added ∧
        ∀ condition ∈ added, condition.isJoin = false ∧ condition.isDate = false) →
      ∀ (query : Text) (chain : Chain), ∃ added,
        (search.compile query chain).outcome = .ok ⟨chain.conditions ++ added⟩ ∧
          Chain.JoinsFor table
            (fun condition => condition.isDate && condition.column? = some rule.field)
            chain.conditions added := by
  constructor
  · intro reference query chain
    exact Search.compile_joins rfl rfl (Stock.settle_grows_of_tasks reference) query chain
  · intro search rule today table fallback hrules hprepare hfallback hothers query chain
    exact Search.compile_joins hfallback rfl
      (Search.settle_grows_of_dateRule hrules hprepare hfallback hothers) query chain

def dueRule : DateRule Chain :=
  { field := ⟨"t", "due"⟩, label := some "due", prepare := some fun chain => chain.join "t" }

def dueSearch : Search Chain :=
  { name := "DueSearch"
    rulebook := { rules := [dueRule.toRule ⟨2024, 6, 15, by decide⟩] }
    fallback := some (Fallback.containing ⟨"t", "name"⟩)
    reporting := false }

theorem compile_joins_as_needed_due :
    dueSearch.rulebook.rules = [dueRule.toRule ⟨2024, 6, 15, by decide⟩] ∧
      dueRule.prepare = some (fun chain => chain.join "t") ∧
      dueSearch.fallback = some (Fallback.containing ⟨"t", "name"⟩) ∧
      (∀ token chain, ∃ added,
        (Fallback.containing ⟨"t", "name"⟩ token chain).conditions = chain.conditions ++ added ∧
          ∀ condition ∈ added, condition.isJoin = false ∧ condition.isDate = false) ∧
      ∃ added,
        (dueSearch.compile "lunch due: 1/2/2024 due:tomorrow" ⟨[.like ⟨"t", "name"⟩ "x"]⟩).outcome =
            .ok ⟨[.like ⟨"t", "name"⟩ "x"] ++ added⟩ ∧
          Chain.JoinsFor "t"
            (fun condition => condition.isDate && condition.column? = some dueRule.field)
            [.like ⟨"t", "name"⟩ "x"] added := by
  have hothers : ∀ (token : Token) (chain : Chain), ∃ added,
      (Fallback.containing ⟨"t", "name"⟩ token chain).conditions = chain.conditions ++ added ∧
        ∀ condition ∈ added, condition.isJoin = false ∧ condition.isDate = false := by
    intro token chain
    refine ⟨[_], rfl, ?_⟩
    intro condition hcondition
    rw [List.mem_singleton.mp hcondition]
    exact ⟨rfl, rfl⟩
  exact ⟨rfl, rfl, rfl, hothers,
    compile_joins_as_needed.2 dueSearch dueRule _ "t" _ rfl rfl rfl hothers
      "lunch due: 1/2/2024 due:tomorrow" ⟨[.like ⟨"t", "name"⟩ "x"]⟩⟩

end SearchQuery
