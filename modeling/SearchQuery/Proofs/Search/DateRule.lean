import SearchQuery.Proofs.Calendar.Expression
import SearchQuery.Search.DateRule

/-!
# What a date rule reads

A date rule reads a token that is a date expression, behind its label if it has
one, and the period that it asks for is the one that the expression means.  It
reads no token in two ways: an expression whose dates are no days of the
calendar is not tried again as something else.
-/

namespace SearchQuery

universe u

variable {Scope : Type u}

namespace DateRule

def Leads (rule : DateRule Scope) (lead : Text) : Prop :=
  match rule.label with
  | none => lead = []
  | some label => ∃ gap, Text.Blank gap ∧ lead = label ++ ':' :: gap

/-- The text is the expression, behind what the rule wants in front of it. -/
def Reads (rule : DateRule Scope) (raw : Text) (expression : DateExpression) : Prop :=
  ∃ lead t, rule.Leads lead ∧ expression.Spelling t ∧ raw = lead ++ t

theorem expression?_of_leads {rule : DateRule Scope} {lead t : Text} (hlead : rule.Leads lead)
    (ht : Text.OpensOutside Text.isBlank t) : rule.expression? (lead ++ t) = some t := by
  unfold Leads at hlead
  unfold expression?
  cases hlabel : rule.label with
  | none =>
      rw [hlabel] at hlead
      simp only at hlead ⊢
      rw [hlead]
      rfl
  | some label =>
      rw [hlabel] at hlead
      rcases hlead with ⟨gap, hgap, rfl⟩
      have hafter : Text.after? (label ++ [':']) (label ++ ':' :: gap ++ t) = some (gap ++ t) := by
        rw [Text.after?_eq_some_iff]
        simp
      simp only [hafter, Option.map_some, Text.trimStart_append_of_blank t hgap,
        Text.trimStart_eq_self ht]

theorem leads_of_expression? {rule : DateRule Scope} {raw t : Text}
    (h : rule.expression? raw = some t) : ∃ lead, rule.Leads lead ∧ raw = lead ++ t := by
  unfold expression? at h
  unfold Leads
  cases hlabel : rule.label with
  | none =>
      rw [hlabel, Option.some.injEq] at h
      exact ⟨[], rfl, h⟩
  | some label =>
      rw [hlabel] at h
      rcases Option.map_eq_some_iff.mp h with ⟨rest, hrest, rfl⟩
      rcases Text.exists_trimStart rest with ⟨gap, hgap, hsplit⟩
      refine ⟨label ++ ':' :: gap, ⟨gap, hgap, rfl⟩, ?_⟩
      rw [Text.after?_eq_some_iff.mp hrest]
      calc label ++ [':'] ++ rest = label ++ [':'] ++ (gap ++ Text.trimStart rest) := by
            rw [← hsplit]
        _ = label ++ ':' :: gap ++ Text.trimStart rest := by
            simp

theorem reads_iff {rule : DateRule Scope} {raw : Text} {expression : DateExpression} :
    rule.Reads raw expression ↔
      (rule.expression? raw).bind DateExpression.ofText? = some expression := by
  rw [Option.bind_eq_some_iff]
  constructor
  · intro h
    rcases h with ⟨lead, t, hlead, ht, rfl⟩
    exact ⟨t, expression?_of_leads hlead ht.opensOutside, DateExpression.ofText?_of_spelling ht⟩
  · intro h
    rcases h with ⟨t, ht, hread⟩
    rcases leads_of_expression? ht with ⟨lead, hlead, hraw⟩
    exact ⟨lead, t, hlead, DateExpression.spelling_of_ofText? hread, hraw⟩

theorem Reads.unique {rule : DateRule Scope} {raw : Text} {expression other : DateExpression}
    (h : rule.Reads raw expression) (hother : rule.Reads raw other) : expression = other := by
  rw [reads_iff] at h hother
  rw [h, Option.some.injEq] at hother
  exact hother

theorem period?_eq_some_iff {rule : DateRule Scope} {today : Date} {token : Token}
    {period : Period} :
    rule.period? today token = some period ↔
      ∃ expression, rule.Reads token.raw expression ∧
        expression.Means (rule.reference.getD today) period := by
  simp only [reads_iff, ← DateExpression.resolve?_eq_some_iff]
  rw [period?, ← Option.bind_assoc, Option.bind_eq_some_iff]

theorem period?_eq_none_of_unread {rule : DateRule Scope} {today : Date} {token : Token}
    (h : ∀ expression, ¬ rule.Reads token.raw expression) : rule.period? today token = none := by
  cases hperiod : rule.period? today token with
  | none =>
      rfl
  | some period =>
      rcases period?_eq_some_iff.mp hperiod with ⟨expression, hreads, -⟩
      exact absurd hreads (h expression)

theorem reads_of_label_none {rule : DateRule Scope} {raw : Text} {expression : DateExpression}
    (hlabel : rule.label = none) :
    rule.Reads raw expression ↔ expression.Spelling raw := by
  simp [Reads, Leads, hlabel]

/-- A rule asks for a period just when the token is an expression that means the period,
behind the label of the rule if it has one; otherwise it asks for nothing.  No token is two
expressions. -/
theorem period?_exact (rule : DateRule Scope) (today : Date) (token : Token) :
    (∀ period, rule.period? today token = some period ↔
        ∃ expression, rule.Reads token.raw expression ∧
          expression.Means (rule.reference.getD today) period) ∧
      (rule.period? today token = none ↔
        ∀ expression, rule.Reads token.raw expression →
          ∀ period, ¬ expression.Means (rule.reference.getD today) period) ∧
      ∀ expression other, rule.Reads token.raw expression → rule.Reads token.raw other →
        expression = other := by
  refine ⟨fun period => period?_eq_some_iff, ?_, fun expression other => Reads.unique⟩
  rw [Option.eq_none_iff_forall_ne_some]
  constructor
  · intro h expression hreads period hmeans
    exact h period (period?_eq_some_iff.mpr ⟨expression, hreads, hmeans⟩)
  · intro h period hperiod
    rcases period?_eq_some_iff.mp hperiod with ⟨expression, hreads, hmeans⟩
    exact h expression hreads period hmeans

end DateRule

end SearchQuery
