import SearchQuery.Proofs.Calendar.Period
import SearchQuery.Proofs.Search.DateRule
import SearchQuery.Proofs.Search.Written
import SearchQuery.Stock

/-!
# Writing a query for jobs

Whatever the search for jobs can ask for can be written, and it is asked for in
the order in which it is written.  Items may look like one another: what stands
in quotes is a name even if it is spelled like a date or a number.
-/

namespace SearchQuery

inductive JobItem where
  | date (period : Period)
  | id (digits : Text)
  | name (part : Text)
  deriving DecidableEq

namespace JobItem

def condition : JobItem → Condition
  | date period => .date { field := Stock.jobDate, period := period, literal := none }
  | id digits => .equals Stock.jobId digits
  | name part => .like Stock.jobName (['%'] ++ part ++ ['%'])

inductive Writes : JobItem → Text → Prop where
  | date {period : Period} {piece : Text} (hperiod : period.Spelling piece) :
      Writes (date period) piece
  | id {gap digits : Text} (hgap : Text.Blank gap) (hne : digits ≠ [])
      (hdigits : Text.Digits digits) :
      Writes (id digits) (['i', 'd', ':'] ++ gap ++ digits)
  | name {part : Text} (hquote : '"' ∉ part) : Writes (name part) (Text.inQuotes part)

end JobItem

/-!
## What the rules make of a token
-/

namespace DateExpression

theorem Spelling.isToken {t : Text} {expression : DateExpression} (h : Spelling t expression) :
    Cut.IsToken t :=
  Cut.isToken_of_word h.ne_nil (fun _ hc => h.isGraph hc)
    (h.not_mem (by decide) (by decide) (by decide))
    (h.not_mem (by decide) (by decide) (by decide))

end DateExpression

theorem Pattern.number_of_digits (label : Text) {gap digits : Text} (hgap : Text.Blank gap)
    (hne : digits ≠ []) (hdigits : Text.Digits digits) :
    number label (label ++ [':'] ++ gap ++ digits) =
      some ⟨label ++ [':'] ++ gap ++ digits, [some digits]⟩ := by
  have hafter : Text.after? (label ++ [':']) (label ++ [':'] ++ gap ++ digits) =
      some (gap ++ digits) := by
    rw [List.append_assoc (label ++ [':'])]
    exact Text.after?_append _ _
  have hopens : Text.OpensOutside Text.isBlank digits :=
    Text.opensOutside_of_isGraph fun c hc => Text.isGraph_of_isDigit (hdigits c hc)
  have hstart : Text.trimStart (gap ++ digits) = digits := by
    rw [Text.trimStart_append_of_blank digits hgap, Text.trimStart_eq_self hopens]
  have hnumber : isNumber digits = true := by
    rw [isNumber, Bool.and_eq_true, List.all_eq_true]
    exact ⟨by simpa using hne, fun c hc => Text.isDecimalDigit_of_isDigit (hdigits c hc)⟩
  simp only [number, hafter, hstart, hnumber, if_true]

theorem Pattern.number_of_head?_ne {label t : Text} (hne : label ≠ [])
    (h : label.head? ≠ t.head?) : number label t = none := by
  have hafter : Text.after? (label ++ [':']) t = none := by
    cases hrest : Text.after? (label ++ [':']) t with
    | none =>
        rfl
    | some rest =>
        rw [Text.after?_eq_some_iff.mp hrest, List.append_assoc,
          List.head?_append_of_ne_nil label hne] at h
        exact absurd rfl h
  rw [number, hafter]

theorem ChainRule.found_claim? {name : Text} {pattern : Pattern} {column : Column} {token : Token}
    {t group : Text} (chain : Chain) (h : pattern token.raw = some ⟨t, [some group]⟩) :
    (found name pattern column).claim? token chain =
      some (chain.add (.equals column group)) := by
  simp [found, adding, h]

theorem ChainRule.found_claim?_of_none {name : Text} {pattern : Pattern} {column : Column}
    {token : Token} (chain : Chain) (h : pattern token.raw = none) :
    (found name pattern column).claim? token chain = none := by
  simp [found, adding, h]

namespace Stock

variable {reference : Date}

theorem dateRule_claim?_of_spelling {period : Period} {piece : Text}
    (h : period.Spelling piece) (chain : Chain) :
    (dateRule jobDate reference).claim? reference ⟨piece⟩ chain =
      some (chain.add (JobItem.date period).condition) := by
  rcases h.exists_expression with ⟨expression, hspelling, hmeans⟩
  have hperiod : (dateRule jobDate reference).period? reference ⟨piece⟩ = some period :=
    DateRule.period?_eq_some_iff.mpr
      ⟨expression, (DateRule.reads_of_label_none rfl).mpr hspelling, hmeans _⟩
  rw [DateRule.claim?, hperiod]
  rfl

theorem dateRule_claim?_of_mem {raw : Text} {c : Char} (hc : c ∈ raw) (hdigit : c.isDigit = false)
    (hslash : c ≠ '/') (hhyphen : c ≠ '-') (chain : Chain) :
    (dateRule jobDate reference).claim? reference ⟨raw⟩ chain = none := by
  have hunread : ∀ expression, ¬ (dateRule jobDate reference).Reads raw expression := by
    intro expression hreads
    rw [DateRule.reads_of_label_none rfl] at hreads
    exact hreads.not_mem hdigit hslash hhyphen hc
  rw [DateRule.claim?, DateRule.period?_eq_none_of_unread hunread]
  rfl

/-!
## What the search makes of an item
-/

theorem findSome?_jobSearch (token : Token) (chain : Chain) :
    ((jobSearch reference).rulebook.rules.findSome? fun rule => rule.claim? token chain) =
      ((dateRule jobDate reference).claim? reference token chain).or
        ((ChainRule.found "id" (Pattern.number "id") jobId).claim? token chain) := by
  have hpair : ∀ first second : Rule Chain,
      ([first, second].findSome? fun rule => rule.claim? token chain) =
        (first.claim? token chain).or (second.claim? token chain) := by
    intro first second
    rw [List.findSome?_cons, List.findSome?_singleton]
    cases first.claim? token chain with
    | none =>
        rfl
    | some left =>
        rfl
  exact hpair _ _

theorem takes_date {period : Period} {piece : Text} (h : period.Spelling piece) :
    (jobSearch reference).Takes piece fun chain => chain.add (JobItem.date period).condition := by
  rcases h.exists_expression with ⟨expression, hspelling, -⟩
  apply Search.takes_of_claim hspelling.isToken
  · exact Text.closesOutside_of_isGraph fun _ hc => hspelling.isGraph hc
  · intro chain
    rw [findSome?_jobSearch, dateRule_claim?_of_spelling h chain, Option.some_or]

theorem takes_id {gap digits : Text} (hgap : Text.Blank gap) (hne : digits ≠ [])
    (hdigits : Text.Digits digits) :
    (jobSearch reference).Takes (['i', 'd', ':'] ++ gap ++ digits) fun chain =>
      chain.add (JobItem.id digits).condition := by
  have hname : Text.Alphanumeric ['i', 'd'] := by
    decide
  have hlabel : Label.WellFormed ⟨['i', 'd'], gap⟩ := ⟨by simp, hname, hgap⟩
  have hgraph : ∀ c ∈ digits, Text.isGraph c = true := fun c hc =>
    Text.isGraph_of_isDigit (hdigits c hc)
  have hquote : '"' ∉ digits := fun hmem => absurd (hdigits '"' hmem) (by decide)
  have htoken : Cut.IsToken (['i', 'd', ':'] ++ gap ++ digits) := by
    have hlabelled := Cut.isToken_of_label hlabel hne hgraph hquote
    rwa [Label.text_eq] at hlabelled
  apply Search.takes_of_claim htoken
  · rw [List.reverse_append, Text.opensOutside_append _ (by simpa using hne)]
    exact Text.closesOutside_of_isGraph hgraph
  · intro chain
    have hcolon : ':' ∈ ['i', 'd', ':'] ++ gap ++ digits := by
      simp
    rw [findSome?_jobSearch,
      dateRule_claim?_of_mem hcolon (by decide) (by decide) (by decide) chain, Option.none_or]
    exact ChainRule.found_claim? chain (Pattern.number_of_digits ['i', 'd'] hgap hne hdigits)

theorem takes_name {part : Text} (hquote : '"' ∉ part) :
    (jobSearch reference).Takes (Text.inQuotes part) fun chain =>
      chain.add (JobItem.name part).condition := by
  have hwrites : SearchQuery.Writes (none, part) (Text.inQuotes part) := Writes.plain hquote
  have hclaim : ∀ chain, ((jobSearch reference).rulebook.rules.findSome? fun rule =>
      rule.claim? ⟨Text.inQuotes part⟩ chain) = none := by
    intro chain
    have hmem : '"' ∈ Text.inQuotes part := List.mem_cons_self
    have hhead : "id".toList.head? ≠ (Text.inQuotes part).head? := by
      simp [Text.inQuotes]
    have hnumber := Pattern.number_of_head?_ne (by simp) hhead
    rw [findSome?_jobSearch, dateRule_claim?_of_mem hmem (by decide) (by decide) (by decide) chain,
      Option.none_or]
    exact ChainRule.found_claim?_of_none chain hnumber
  have htakes := Search.takes_of_fallback hwrites.isToken hwrites.closes hclaim
    (Token.isLabelled_inQuotes part) rfl
  have hterm : Token.term ⟨Text.inQuotes part⟩ = part := congrArg Prod.snd hwrites.parts
  have hleave : Fallback.containing jobName ⟨Text.inQuotes part⟩ =
      fun chain => chain.add (JobItem.name part).condition := by
    funext chain
    rw [Fallback.containing, hterm]
    rfl
  rwa [hleave] at htakes

end Stock

theorem JobItem.Writes.takes {item : JobItem} {piece : Text} (h : item.Writes piece)
    (reference : Date) :
    (Stock.jobSearch reference).Takes piece fun chain => chain.add item.condition := by
  cases h with
  | date hperiod =>
      exact Stock.takes_date hperiod
  | id hgap hne hdigits =>
      exact Stock.takes_id hgap hne hdigits
  | name hquote =>
      exact Stock.takes_name hquote

theorem Chain.foldl_add {Item : Type} (items : List Item) (condition : Item → Condition)
    (chain : Chain) :
    items.foldl (fun left item => left.add (condition item)) chain =
      { conditions := chain.conditions ++ items.map condition } := by
  induction items generalizing chain with
  | nil =>
      simp
  | cons item items ih =>
      rw [List.foldl_cons, ih]
      simp

/-- A query for jobs is compiled back to what was written: one condition for each item, in
order, behind those that the chain has. -/
theorem jobs_of_written {reference : Date} {chain : Chain} {items : List JobItem}
    {pieces : List Text} {query : Text} (hwrites : List.Forall₂ JobItem.Writes items pieces)
    (hquery : Text.Spaced pieces query) :
    ((Stock.jobs.search reference).compile query chain).outcome =
      .ok { conditions := chain.conditions ++ items.map JobItem.condition } := by
  have htakes := hwrites.imp fun item piece h => h.takes reference
  rw [← Chain.foldl_add]
  exact Search.compile_of_spaced htakes hquery chain

theorem jobs_of_written_lookalikes :
    List.Forall₂ JobItem.Writes
        [.date (.within ⟨2020, 2, 29, by decide⟩ ⟨19, 1, 5, by decide⟩), .id ['0', '7'],
          .name ['1', '/', '2']]
        [['2', '/', '2', '9', '/', '2', '0', '2', '0', '-',
            '0', '1', '/', '5', '/', '0', '0', '1', '9'],
          ['i', 'd', ':', ' ', '0', '7'], ['"', '1', '/', '2', '"']] ∧
      Text.Spaced
        [['2', '/', '2', '9', '/', '2', '0', '2', '0', '-',
            '0', '1', '/', '5', '/', '0', '0', '1', '9'],
          ['i', 'd', ':', ' ', '0', '7'], ['"', '1', '/', '2', '"']]
        ['2', '/', '2', '9', '/', '2', '0', '2', '0', '-',
          '0', '1', '/', '5', '/', '0', '0', '1', '9', '\t',
          'i', 'd', ':', ' ', '0', '7', ' ', '"', '1', '/', '2', '"'] ∧
      ((Stock.jobs.search ⟨2024, 6, 15, by decide⟩).compile
          ['2', '/', '2', '9', '/', '2', '0', '2', '0', '-',
            '0', '1', '/', '5', '/', '0', '0', '1', '9', '\t',
            'i', 'd', ':', ' ', '0', '7', ' ', '"', '1', '/', '2', '"']
          ⟨[.equals Stock.jobId ['4']]⟩).outcome =
        .ok ⟨[.equals Stock.jobId ['4'],
          .date ⟨Stock.jobDate,
            .within ⟨2020, 2, 29, by decide⟩ ⟨19, 1, 5, by decide⟩, none⟩,
          .equals Stock.jobId ['0', '7'], .like Stock.jobName ['%', '1', '/', '2', '%']]⟩ := by
  have hfirst : Date.Spelling ⟨2020, 2, 29, by decide⟩
      ['2', '/', '2', '9', '/', '2', '0', '2', '0'] :=
    @Date.Spelling.full _ ['2'] ['2', '9'] (by decide) (Or.inl rfl) (Or.inl rfl)
  have hlast : Date.Spelling ⟨19, 1, 5, by decide⟩
      ['0', '1', '/', '5', '/', '0', '0', '1', '9'] :=
    @Date.Spelling.full _ ['0', '1'] ['5'] (by decide) (Or.inr rfl) (Or.inl rfl)
  have hdate := JobItem.Writes.date (Period.Spelling.within hfirst hlast (by decide))
  have hid : JobItem.Writes (.id ['0', '7']) ['i', 'd', ':', ' ', '0', '7'] :=
    @JobItem.Writes.id [' '] ['0', '7'] (by decide) (by decide) (by decide)
  have hname : JobItem.Writes (.name ['1', '/', '2']) ['"', '1', '/', '2', '"'] :=
    JobItem.Writes.name (by decide)
  have hwrites := List.Forall₂.cons hdate
    (List.Forall₂.cons hid (List.Forall₂.cons hname List.Forall₂.nil))
  have htab : Text.Blank ['\t'] := by
    decide
  have hspace : Text.Blank [' '] := by
    decide
  have hquery := Text.Spaced.cons
    ['2', '/', '2', '9', '/', '2', '0', '2', '0', '-', '0', '1', '/', '5', '/', '0', '0', '1', '9']
    (by simp) htab (Text.Spaced.cons ['i', 'd', ':', ' ', '0', '7'] (by simp) hspace
      (Text.Spaced.one ['"', '1', '/', '2', '"']))
  exact ⟨hwrites, hquery, jobs_of_written hwrites hquery⟩

end SearchQuery
