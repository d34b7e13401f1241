import SearchQuery.Proofs.Search.Additions
import SearchQuery.Stock

/-!
# What the stock searches add

The stock searches only add to a chain: one condition for each token that they
resolve, and before the name of a category the join of the categories, where the
chain lacks it.  Which tokens they resolve and what these ask for is the same for
every chain.
-/

namespace SearchQuery

namespace Stock

inductive Asks : Stock → Addition → Prop where
  | date (period : Period) : Asks jobs ⟨none, .date ⟨jobDate, period, none⟩⟩
  | id (value : Text) : Asks jobs ⟨none, .equals jobId value⟩
  | job (pattern : Text) : Asks jobs ⟨none, .like jobName pattern⟩
  | checked (period : Period) : Asks receipts ⟨none, .date ⟨checkDate, period, none⟩⟩
  | posted (period : Period) :
      Asks receipts ⟨none, .date ⟨postDate, period, some (period.literal postDate .ansi)⟩⟩
  | amount (value : Text) : Asks receipts ⟨none, .equals receiptAmount value⟩
  | number (pattern : Text) : Asks receipts ⟨none, .like checkNumber pattern⟩
  | category (value : Text) : Asks tasks ⟨some "categories", .equals categoryName value⟩
  | priority (comparator : Comparator) {value : Text} (hvalue : Pattern.isNumber value = true) :
      Asks tasks ⟨none, .compares taskPriority comparator value⟩
  | due (date : Date) : Asks tasks ⟨none, .equals taskDueDate date.text⟩
  | task (pattern : Text) : Asks tasks ⟨none, .like taskName pattern⟩

/-- What a token may add: a condition, with the join of the categories before it if it is on
their name, and in the search for tasks alone. -/
structure Fits (stock : Stock) (addition : Addition) : Prop where
  not_join : addition.condition.isJoin = false
  table_eq : addition.table =
    if addition.condition.column? = some categoryName then some "categories".toList else none
  tasks_of_table : addition.table ≠ none → stock = tasks

variable {stock : Stock}

namespace Fits

theorem plain {condition : Condition} (column : Column)
    (hcolumn : condition.column? = some column) (hne : column ≠ categoryName) :
    Fits stock ⟨none, condition⟩ := by
  constructor
  · cases condition with
    | join table =>
        cases hcolumn
    | _ =>
        rfl
  · rw [hcolumn, if_neg (by simpa using hne)]
  · exact fun h => absurd rfl h

theorem category (value : Text) :
    Fits tasks ⟨some "categories", .equals categoryName value⟩ :=
  ⟨rfl, rfl, fun _ => rfl⟩

theorem eq_categories {addition : Addition} (h : Fits stock addition) :
    ∀ table ∈ addition.table, table = "categories" := by
  intro table htable
  rw [h.table_eq] at htable
  split at htable
  · exact (Option.mem_some_iff.mp htable).symm
  · cases htable

end Fits

theorem Asks.fits {addition : Addition} (h : Asks stock addition) : Fits stock addition := by
  cases h with
  | date period =>
      exact Fits.plain jobDate rfl (by decide)
  | id value =>
      exact Fits.plain jobId rfl (by decide)
  | job pattern =>
      exact Fits.plain jobName rfl (by decide)
  | checked period =>
      exact Fits.plain checkDate rfl (by decide)
  | posted period =>
      exact Fits.plain postDate rfl (by decide)
  | amount value =>
      exact Fits.plain receiptAmount rfl (by decide)
  | number pattern =>
      exact Fits.plain checkNumber rfl (by decide)
  | category value =>
      exact Fits.category value
  | priority comparator hvalue =>
      exact Fits.plain taskPriority rfl (by decide)
  | due date =>
      exact Fits.plain taskDueDate rfl (by decide)
  | task pattern =>
      exact Fits.plain taskName rfl (by decide)

/-!
## The three searches
-/

theorem jobSearch_asks (reference : Date) : (jobSearch reference).Adds (Asks jobs) := by
  apply Search.adds_of_rules
  · intro rule hrule
    rcases List.mem_cons.mp hrule with rfl | hrule
    · exact DateRule.toRule_adds reference rfl Asks.date
    · rw [List.mem_singleton.mp hrule]
      exact ChainRule.found_adds Asks.id
  · rfl
  · intro token
    exact ⟨⟨none, _⟩, Asks.job _, fun _ => rfl⟩

theorem receiptSearch_asks (reference : Date) :
    (receiptSearch reference).Adds (Asks receipts) := by
  apply Search.adds_of_rules
  · intro rule hrule
    rcases List.mem_cons.mp hrule with rfl | hrule
    · exact DateRule.toRule_adds reference rfl Asks.checked
    · rcases List.mem_cons.mp hrule with rfl | hrule
      · exact DateRule.toRule_adds reference rfl Asks.posted
      · rw [List.mem_singleton.mp hrule]
        exact ChainRule.found_adds Asks.amount
  · rfl
  · intro token
    exact ⟨⟨none, _⟩, Asks.number _, fun _ => rfl⟩

theorem taskSearch_asks : taskSearch.Adds (Asks tasks) := by
  apply Search.adds_of_rules
  · intro rule hrule
    rcases List.mem_cons.mp hrule with rfl | hrule
    · exact ChainRule.labelled_adds Asks.category
    · rcases List.mem_cons.mp hrule with rfl | hrule
      · exact ChainRule.compared_adds fun comparator _ => Asks.priority comparator
      · rw [List.mem_singleton.mp hrule]
        exact ChainRule.dated_adds Asks.due
  · rfl
  · intro token
    exact ⟨⟨none, _⟩, Asks.task _, fun _ => rfl⟩

theorem search_asks (stock : Stock) (reference : Date) :
    (stock.search reference).Adds (Asks stock) := by
  cases stock with
  | jobs =>
      exact jobSearch_asks reference
  | receipts =>
      exact receiptSearch_asks reference
  | tasks =>
      exact taskSearch_asks

theorem search_adds (stock : Stock) (reference : Date) :
    (stock.search reference).Adds (Fits stock) :=
  (stock.search_asks reference).mono fun _ => Asks.fits

theorem exists_fallback (stock : Stock) (reference : Date) :
    ∃ fallback, (stock.search reference).fallback = some fallback := by
  cases stock with
  | jobs =>
      exact ⟨_, rfl⟩
  | receipts =>
      exact ⟨_, rfl⟩
  | tasks =>
      exact ⟨_, rfl⟩

theorem resolved_eq (stock : Stock) (reference : Date) (cursor : Cursor) (chain other : Chain) :
    (stock.search reference).resolved cursor chain =
      (stock.search reference).resolved cursor other := by
  rcases stock.exists_fallback reference with ⟨fallback, hfallback⟩
  exact Search.resolved_congr hfallback (fun token => (stock.search_adds reference token).1)
    cursor chain other

/-!
## Growth
-/

/-- A stock search adds one condition for each token that it resolves, and the same whatever
the chain holds, but for the join of the categories, which the search for tasks adds only to a
chain that lacks it. -/
theorem compile_appends (stock : Stock) (reference : Date) :
    ∃ asks : Token → Condition, (∀ token, (asks token).isJoin = false) ∧
      ∀ query, ∃ tokens added,
        (∀ chain, (stock.search reference).resolved (Cursor.ofQuery query) chain = tokens) ∧
        ((stock.search reference).compile query .empty).outcome = .ok ⟨added⟩ ∧
        (stock ≠ tasks → added = tokens.map asks ∧
          ∀ chain, ((stock.search reference).compile query chain).outcome =
            .ok ⟨chain.conditions ++ added⟩) ∧
        (stock = tasks →
          (added.filter fun condition => condition ≠ .join "categories") = tokens.map asks ∧
          ∀ chain, ((stock.search reference).compile query chain).outcome =
            .ok ⟨chain.conditions ++ chain.following "categories" added⟩) := by
  rcases (stock.search_adds reference).exists_addition with ⟨addition, hfits, -, hcompile⟩
  have hjoin : ∀ token, (addition token).condition.isJoin = false := fun token =>
    (hfits token).not_join
  have htable : ∀ token, ∀ table ∈ (addition token).table, table = "categories" := fun token =>
    (hfits token).eq_categories
  refine ⟨fun token => (addition token).condition, hjoin, ?_⟩
  intro query
  have hresolved : ∃ tokens, ∀ chain,
      (stock.search reference).resolved (Cursor.ofQuery query) chain = tokens :=
    ⟨_, fun chain => stock.resolved_eq reference (Cursor.ofQuery query) chain .empty⟩
  rcases hresolved with ⟨tokens, hresolved⟩
  have hok : ∀ chain, ((stock.search reference).compile query chain).outcome =
      .ok (tokens.foldl (fun chain token => (addition token).extend chain) chain) := by
    intro chain
    rw [Search.compile, hcompile, hresolved chain]
  refine ⟨tokens, _, hresolved, hok .empty, ?_, ?_⟩
  · intro hstock
    have hnone : ∀ token, (addition token).table = none := by
      intro token
      by_contra hsome
      exact hstock ((hfits token).tasks_of_table hsome)
    have hadded := Chain.foldl_extend_of_no_table addition hnone
    have hempty : (tokens.foldl (fun chain token => (addition token).extend chain)
        Chain.empty).conditions = tokens.map fun token => (addition token).condition :=
      hadded tokens .empty
    refine ⟨hempty, ?_⟩
    intro chain
    rw [hok, hempty, ← hadded tokens chain]
  · intro _
    refine ⟨Chain.filter_foldl_extend addition htable hjoin tokens .empty, ?_⟩
    intro chain
    have hstart : chain.conditions =
        chain.conditions ++ chain.following "categories" Chain.empty.conditions := by
      rw [Chain.empty, Chain.following_nil, List.append_nil]
    rw [hok, ← Chain.foldl_extend_following addition htable hjoin tokens hstart]

end Stock

end SearchQuery
