import SearchQuery.Search.Rule

/-!
# What a rulebook claims

A book claims a token by the first of its rules that does, and it claims nothing
that all its rules decline.  It follows that rules behind the first claim have no
say: a book that begins with the rules of another claims whatever the other
claims, and by the same rule.
-/

namespace SearchQuery

universe u

variable {Scope : Type u}

namespace Rulebook

/-- The rule claims the token, and no rule that is asked before it does. -/
def FirstClaims (book : Rulebook Scope) (rule : Rule Scope) (token : Token)
    (scope left : Scope) : Prop :=
  rule.claim? token scope = some left ∧
    ∃ before behind, book.rules = before ++ rule :: behind ∧
      ∀ other ∈ before, other.claim? token scope = none

def Declines (book : Rulebook Scope) (token : Token) (scope : Scope) : Prop :=
  ∀ rule ∈ book.rules, rule.claim? token scope = none

/-!
## The first claim
-/

theorem claim?_eq_some_iff {book : Rulebook Scope} {rule : Rule Scope} {token : Token}
    {scope left : Scope} :
    book.claim? token scope = some (rule, left) ↔ book.FirstClaims rule token scope left := by
  rw [claim?, List.findSome?_eq_some_iff]
  constructor
  · intro h
    rcases h with ⟨before, other, behind, hrules, hclaim, hbefore⟩
    rcases Option.map_eq_some_iff.mp hclaim with ⟨scope', hleft, hpair⟩
    cases hpair
    exact ⟨hleft, before, behind, hrules, fun other hother =>
      Option.map_eq_none_iff.mp (hbefore other hother)⟩
  · intro h
    rcases h with ⟨hleft, before, behind, hrules, hbefore⟩
    refine ⟨before, rule, behind, hrules, by rw [hleft, Option.map_some], ?_⟩
    intro other hother
    rw [hbefore other hother, Option.map_none]

theorem claim?_eq_none_iff {book : Rulebook Scope} {token : Token} {scope : Scope} :
    book.claim? token scope = none ↔ book.Declines token scope := by
  rw [claim?, List.findSome?_eq_none_iff, Declines]
  simp only [Option.map_eq_none_iff]

theorem map_snd_claim? (book : Rulebook Scope) (token : Token) (scope : Scope) :
    (book.claim? token scope).map Prod.snd =
      book.rules.findSome? fun rule => rule.claim? token scope := by
  rw [claim?]
  induction book.rules with
  | nil =>
      rfl
  | cons rule rules ih =>
      rw [List.findSome?_cons, List.findSome?_cons]
      cases rule.claim? token scope with
      | none =>
          exact ih
      | some left =>
          rfl

/-!
## More rules
-/

theorem claim?_cons (rule : Rule Scope) (rules : List (Rule Scope)) (token : Token)
    (scope : Scope) :
    claim? { rules := rule :: rules } token scope =
      ((rule.claim? token scope).map fun left => (rule, left)).or
        (claim? { rules := rules } token scope) := by
  rw [claim?, List.findSome?_cons]
  cases rule.claim? token scope with
  | none =>
      rfl
  | some left =>
      rfl

theorem claim?_of_prefix {book longer : Rulebook Scope} (h : book.rules <+: longer.rules)
    {token : Token} {scope : Scope} {claim : Rule Scope × Scope}
    (hclaim : book.claim? token scope = some claim) :
    longer.claim? token scope = some claim :=
  h.findSome?_eq_some hclaim

end Rulebook

end SearchQuery
