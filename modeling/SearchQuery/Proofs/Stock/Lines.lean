import SearchQuery.Proofs.Filter.Lines
import SearchQuery.Proofs.Search.Spacing
import SearchQuery.Proofs.Stock.Growth

/-!
# Chains shown line by line

Text of a query gets into a chain between quotes, or as a number; what else a stock
search adds is its own.  So no query can put a line feed into the text of a condition,
and the lines of a chain are its conditions.
-/

namespace SearchQuery

open Text

namespace Stock

variable {stock : Stock}

theorem Asks.oneLine {addition : Addition} (h : Asks stock addition) :
    OneLine addition.condition.text := by
  cases h with
  | date period =>
      exact Condition.oneLine_date.mpr ⟨by decide, by simp⟩
  | id value =>
      exact Condition.oneLine_equals.mpr (by decide)
  | job pattern =>
      exact Condition.oneLine_like.mpr (by decide)
  | checked period =>
      exact Condition.oneLine_date.mpr ⟨by decide, by simp⟩
  | posted period =>
      have hsql : OneLine (period.literal postDate .ansi).sql :=
        Period.oneLine_sql.mpr ⟨by decide, by decide⟩
      exact Condition.oneLine_date.mpr ⟨by decide, by simpa using hsql⟩
  | amount value =>
      exact Condition.oneLine_equals.mpr (by decide)
  | number pattern =>
      exact Condition.oneLine_like.mpr (by decide)
  | category value =>
      exact Condition.oneLine_equals.mpr (by decide)
  | priority comparator hvalue =>
      -- the one value of a query that is shown without quotes
      have hdigits : OneLine _ := Pattern.not_mem_of_isNumber (by decide) hvalue
      exact Condition.oneLine_compares.mpr ⟨by decide, hdigits⟩
  | due date =>
      exact Condition.oneLine_equals.mpr (by decide)
  | task pattern =>
      exact Condition.oneLine_like.mpr (by decide)

theorem settle_oneLineEach (reference : Date) {token : Token} {chain left : Chain}
    (h : chain.OneLineEach)
    (hleft : ((stock.search reference).settle token chain).outcome = .ok left) :
    left.OneLineEach := by
  rcases (stock.search_asks reference token).2 with ⟨addition, hasks, hsettle⟩
  rw [hsettle chain, Except.ok.injEq] at hleft
  rw [← hleft]
  refine h.extend ?_ hasks.oneLine
  intro table htable
  rw [hasks.fits.eq_categories table htable]
  decide

theorem compile_oneLineEach (stock : Stock) (reference : Date) (query : Text) {chain : Chain}
    (h : chain.OneLineEach) :
    ∃ left, ((stock.search reference).compile query chain).outcome = .ok left ∧
      left.OneLineEach := by
  rcases stock.exists_fallback reference with ⟨fallback, hfallback⟩
  refine Search.compileFrom_preserves hfallback ?_ (Cursor.ofQuery query) chain h
  intro token chain left hchain hleft
  exact stock.settle_oneLineEach reference hchain hleft

/-- A chain is shown on one line for each condition, the number of the condition first. -/
theorem text_one_line_each (stock : Stock) (reference : Date) (query : Text) :
    ∃ chain, ((stock.search reference).compile query .empty).outcome = .ok chain ∧
      (chain.text = [] ↔ chain.conditions = []) ∧
      (lines chain.text).length = chain.size ∧
      ∀ index, (lines chain.text)[index]? =
        chain.conditions[index]?.map fun condition =>
          ['['] ++ Text.ofNat index ++ [']', ' '] ++ condition.text := by
  rcases stock.compile_oneLineEach reference query Chain.OneLineEach.empty with
    ⟨chain, hchain, hlines⟩
  exact ⟨chain, hchain, Chain.text_eq_nil_iff, hlines.length_lines, hlines.getElem?_lines⟩

end Stock

end SearchQuery
