import Mathlib.Data.List.Perm.Basic
import SearchQuery.Proofs.Search.DateRule
import SearchQuery.Proofs.Search.Turn

/-!
# Rules that exclude one another

The first claim counts, so the order of the rules can matter only where two of
them claim one token.  Date rules with different labels never do: the text of a
token tells which label it was written with, since neither the white space
behind a label nor a date expression holds a colon.  So a search whose rules are
such date rules comes to the same whatever order they are asked in.
-/

namespace SearchQuery

universe u

variable {Scope : Type u}

/-!
## Asking in another order
-/

/-- No token is claimed by both rules, whatever scopes they find. -/
def Rule.Excludes (rule other : Rule Scope) : Prop :=
  ∀ token scope scope', rule.claim? token scope = none ∨ other.claim? token scope' = none

theorem Rule.Excludes.symm {rule other : Rule Scope} (h : rule.Excludes other) :
    other.Excludes rule := by
  intro token scope scope'
  exact (h token scope' scope).symm

namespace Rulebook

theorem claim?_perm {rules other : List (Rule Scope)} (hperm : rules.Perm other)
    (hrules : rules.Pairwise Rule.Excludes) (token : Token) (scope : Scope) :
    claim? { rules := rules } token scope = claim? { rules := other } token scope := by
  induction hperm with
  | nil =>
      rfl
  | cons rule hperm ih =>
      rw [claim?_cons, claim?_cons, ih (List.pairwise_cons.mp hrules).2]
  | swap second first rules =>
      have hexcludes := (List.pairwise_cons.mp hrules).1 second List.mem_cons_self
      rw [claim?_cons, claim?_cons, claim?_cons, claim?_cons, ← Option.or_assoc,
        ← Option.or_assoc]
      -- One of the two claims nothing, so they can trade places.
      rcases hexcludes token scope scope with hfirst | hsecond
      · simp [hfirst]
      · simp [hsecond]
  | trans hleft hright ihleft ihright =>
      have hmiddle := (hleft.pairwise_iff Rule.Excludes.symm).mp hrules
      exact (ihleft hrules).trans (ihright hmiddle)

end Rulebook

namespace Search

theorem resolve_congr {search other : Search Scope}
    (hoffer : ∀ token scope, search.offer? token scope = other.offer? token scope)
    (hfallBack : ∀ token scope, search.fallBack token scope = other.fallBack token scope)
    (cursor : Cursor) (token : Token) (scope : Scope) :
    search.resolve cursor token scope = other.resolve cursor token scope := by
  simp only [resolve, settle, hoffer, hfallBack]

theorem steps_congr {search other : Search Scope}
    (hresolve : ∀ cursor token scope,
      search.resolve cursor token scope = other.resolve cursor token scope)
    (cursor : Cursor) (scope : Scope) :
    search.steps cursor scope = other.steps cursor scope := by
  induction cursor, scope using turn_induction search with
  | exhausted cursor scope after hnext =>
      rw [search.steps_of_next_none scope hnext, other.steps_of_next_none scope hnext]
  | turn cursor scope step hturn ih =>
      have hother : other.Turn cursor scope step := by
        rcases turn_iff_resolve.mp hturn with ⟨token, after, hnext, rfl⟩
        exact turn_iff_resolve.mpr ⟨token, after, hnext, by rw [hresolve]⟩
      rw [steps_of_turn hturn, steps_of_turn hother]
      unfold later
      cases houtcome : step.outcome with
      | error error =>
          rfl
      | ok left =>
          simp only [ih left houtcome]

def asking (search : Search Scope) (rules : List (Rule Scope)) : Search Scope :=
  { search with rulebook := { rules := rules } }

theorem compile_perm (search : Search Scope) {rules other : List (Rule Scope)}
    (hperm : rules.Perm other) (hrules : rules.Pairwise Rule.Excludes) (query : Text)
    (scope : Scope) :
    (search.asking rules).compile query scope = (search.asking other).compile query scope := by
  have hoffer : ∀ token scope,
      (search.asking rules).offer? token scope = (search.asking other).offer? token scope := by
    intro token scope
    simp only [offer?, asking, Rulebook.claim?_perm hperm hrules]
    rfl
  have hresolve := resolve_congr hoffer fun _ _ => rfl
  exact congrArg (conclude · scope) (steps_congr hresolve (Cursor.ofQuery query) scope)

end Search

/-!
## The label of what a date rule reads
-/

namespace Text

def beforeLast? (c : Char) (t : Text) : Option Text :=
  match t.reverse.dropWhile (· ≠ c) with
  | [] => none
  | _ :: front => some front.reverse

theorem beforeLast?_of_not_mem {c : Char} {t : Text} (h : c ∉ t) : beforeLast? c t = none := by
  have hnot : c ∉ t.reverse := fun hmem => h (List.mem_reverse.mp hmem)
  rw [beforeLast?, dropWhile_ne_of_not_mem hnot]

theorem beforeLast?_append {c : Char} (front : Text) {t : Text} (h : c ∉ t) :
    beforeLast? c (front ++ c :: t) = some front := by
  have hnot : c ∉ t.reverse := fun hmem => h (List.mem_reverse.mp hmem)
  have hreverse : (front ++ c :: t).reverse = t.reverse ++ c :: front.reverse := by
    simp
  rw [beforeLast?, hreverse, dropWhile_ne_append front.reverse hnot]
  simp only [List.reverse_reverse]

theorem Blank.colon_not_mem {t : Text} (h : Blank t) : ':' ∉ t := by
  intro hmem
  exact absurd (h ':' hmem) (by decide)

end Text

namespace DateExpression

theorem Spelling.colon_not_mem {t : Text} {expression : DateExpression}
    (h : Spelling t expression) : ':' ∉ t :=
  h.not_mem (by decide) (by decide) (by decide)

end DateExpression

namespace DateRule

/-- The label of a rule can be read off every token that the rule reads. -/
theorem label_of_reads {rule : DateRule Scope} {raw : Text} {expression : DateExpression}
    (h : rule.Reads raw expression) : rule.label = Text.beforeLast? ':' raw := by
  rcases h with ⟨lead, t, hlead, ht, rfl⟩
  unfold Leads at hlead
  cases hlabel : rule.label with
  | none =>
      rw [hlabel] at hlead
      simp only at hlead
      rw [hlead, List.nil_append, Text.beforeLast?_of_not_mem ht.colon_not_mem]
  | some label =>
      rw [hlabel] at hlead
      rcases hlead with ⟨gap, hgap, rfl⟩
      have hcolon : ':' ∉ gap ++ t := by
        rw [List.mem_append, not_or]
        exact ⟨hgap.colon_not_mem, ht.colon_not_mem⟩
      rw [List.append_assoc, List.cons_append, Text.beforeLast?_append label hcolon]

theorem label_of_claim? [DateScope Scope] {rule : DateRule Scope} {today : Date} {token : Token}
    {scope : Scope} (h : rule.claim? today token scope ≠ none) :
    rule.label = Text.beforeLast? ':' token.raw := by
  cases hperiod : rule.period? today token with
  | none =>
      rw [claim?, hperiod] at h
      exact absurd rfl h
  | some period =>
      rcases period?_eq_some_iff.mp hperiod with ⟨expression, hreads, -⟩
      exact label_of_reads hreads

theorem excludes_of_label_ne [DateScope Scope] {rule other : DateRule Scope} (today : Date)
    (h : rule.label ≠ other.label) : (rule.toRule today).Excludes (other.toRule today) := by
  intro token scope scope'
  by_contra hboth
  rcases not_or.mp hboth with ⟨hclaim, hother⟩
  have hlabel := label_of_claim? hclaim
  rw [← label_of_claim? hother] at hlabel
  exact h hlabel

/-- Date rules with different labels claim no token in common, and a search that has such
rules and no others comes to the same in whatever order it asks them. -/
theorem compile_perm_of_labels [DateScope Scope] (today : Date)
    {rules other : List (DateRule Scope)}
    (hlabels : (rules.map DateRule.label).Nodup) (hperm : rules.Perm other)
    (search : Search Scope) (query : Text) (scope : Scope) :
    (rules.map fun rule => rule.toRule today).Pairwise Rule.Excludes ∧
      (search.asking (rules.map fun rule => rule.toRule today)).compile query scope =
        (search.asking (other.map fun rule => rule.toRule today)).compile query scope := by
  have hrules : (rules.map fun rule => rule.toRule today).Pairwise Rule.Excludes := by
    rw [List.pairwise_map]
    have hne : rules.Pairwise fun rule other => rule.label ≠ other.label :=
      List.pairwise_map.mp hlabels
    exact hne.imp fun h => excludes_of_label_ne today h
  exact ⟨hrules, search.compile_perm (hperm.map _) hrules query scope⟩

def nestedLabels : List (DateRule Chain) :=
  [none, some [], some ['a'], some ['a', ':', 'b']].map fun label =>
    { field := ⟨['t'], ['d']⟩, label := label }

def leavingOut : Search Chain :=
  { name := []
    rulebook := Rulebook.empty
    fallback := some fun _ chain => chain
    reporting := true }

theorem compile_perm_of_labels_nested :
    (nestedLabels.map DateRule.label).Nodup ∧ nestedLabels.Perm nestedLabels.reverse ∧
      (nestedLabels.map fun rule =>
        rule.toRule ⟨2016, 1, 1, by decide⟩).Pairwise Rule.Excludes ∧
      (leavingOut.asking
          (nestedLabels.map fun rule => rule.toRule ⟨2016, 1, 1, by decide⟩)).compile
          ['a', ':', 'b', ':', '7', '/', '4'] Chain.empty =
        (leavingOut.asking
          (nestedLabels.reverse.map fun rule => rule.toRule ⟨2016, 1, 1, by decide⟩)).compile
          ['a', ':', 'b', ':', '7', '/', '4'] Chain.empty := by
  have hlabels : (nestedLabels.map DateRule.label).Nodup := by
    decide
  have hperm : nestedLabels.Perm nestedLabels.reverse := (List.reverse_perm _).symm
  exact ⟨hlabels, hperm, compile_perm_of_labels _ hlabels hperm leavingOut _ _⟩

end DateRule

end SearchQuery
