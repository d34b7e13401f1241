import Mathlib.Data.List.Infix
import SearchQuery.Proofs.Filter.Growth

/-!
# Joins and the conditions that need them

A table is joined once, unless the chain came with joins of it, and it is joined
before the first condition that needs it, on account of that condition.  Nothing
else that is added to a chain may touch the joins.
-/

namespace SearchQuery

namespace Chain

/-- How the joins of a table stand to the conditions that need it, where the first conditions
were there from the start and the second ones were added. -/
structure JoinsFor (table : Text) (needs : Condition → Bool) (start added : List Condition) :
    Prop where
  /-- Joins that were there stay the only ones, else there is one if it is needed. -/
  count : (start ++ added).count (.join table) =
    if 1 ≤ start.count (.join table) then start.count (.join table)
    else if added.any needs then 1 else 0
  /-- The join stands somewhere before each added condition that needs it. -/
  earlier : ∀ before condition, before ++ [condition] <+: added → needs condition = true →
    .join table ∈ start ++ before
  /-- An added join is followed by a condition that needs it. -/
  followed : ∀ before, before ++ [.join table] <+: added →
    ∃ condition, needs condition = true ∧ before ++ [.join table, condition] <+: added

/-- One condition that needs the table was added, behind the join, or any number of others. -/
inductive Grows (table : Text) (needs : Condition → Bool) (chain : Chain) : Chain → Prop where
  | needing {condition : Condition} (hneeds : needs condition = true) :
      Grows table needs chain ((chain.join table).add condition)
  | others {left : Chain} {added : List Condition}
      (hleft : left.conditions = chain.conditions ++ added)
      (hothers : ∀ condition ∈ added, condition ≠ .join table ∧ needs condition = false) :
      Grows table needs chain left

namespace JoinsFor

variable {table : Text} {needs : Condition → Bool} {start added : List Condition}

theorem nil (table : Text) (needs : Condition → Bool) (start : List Condition) :
    JoinsFor table needs start [] := by
  constructor
  · rw [List.append_nil]
    split
    · rfl
    · next hcount =>
        exact Nat.eq_zero_of_not_pos hcount
  · intro before condition hprefix
    simp at hprefix
  · intro before hprefix
    simp at hprefix

theorem any_needs (h : JoinsFor table needs start added) (hmem : .join table ∈ start ++ added)
    (hstart : ¬ 1 ≤ start.count (.join table)) : added.any needs = true := by
  have hpos := List.count_pos_iff.mpr hmem
  rw [h.count, if_neg hstart] at hpos
  by_contra hany
  rw [if_neg hany] at hpos
  exact Nat.lt_irrefl 0 hpos

theorem concat (h : JoinsFor table needs start added) {condition : Condition}
    (hne : condition ≠ .join table)
    (hjoined : needs condition = true → .join table ∈ start ++ added) :
    JoinsFor table needs start (added ++ [condition]) := by
  constructor
  · have hcount := h.count
    rw [← List.append_assoc, List.count_append, List.count_singleton, if_neg (by simpa using hne),
      Nat.add_zero, List.any_append, List.any_cons, List.any_nil, Bool.or_false]
    cases hneeds : needs condition with
    | false =>
        rw [Bool.or_false]
        exact hcount
    | true =>
        rw [Bool.or_true, hcount]
        split
        · rfl
        · next hstart =>
            rw [h.any_needs (hjoined hneeds) hstart]
  · intro before other hprefix hother
    rcases List.prefix_concat_iff.mp hprefix with heq | hprefix
    · rcases List.append_inj' heq rfl with ⟨rfl, hlast⟩
      rw [List.singleton_inj.mp hlast] at hother
      exact hjoined hother
    · exact h.earlier before other hprefix hother
  · intro before hprefix
    rcases List.prefix_concat_iff.mp hprefix with heq | hprefix
    · rcases List.append_inj' heq rfl with ⟨-, hlast⟩
      exact absurd (List.singleton_inj.mp hlast).symm hne
    · rcases h.followed before hprefix with ⟨other, hother, hprefix⟩
      exact ⟨other, hother, hprefix.trans (List.prefix_append added [condition])⟩

theorem append_others (h : JoinsFor table needs start added) {others : List Condition}
    (hothers : ∀ condition ∈ others, condition ≠ .join table ∧ needs condition = false) :
    JoinsFor table needs start (added ++ others) := by
  induction others generalizing added with
  | nil =>
      rwa [List.append_nil]
  | cons condition others ih =>
      rcases hothers condition List.mem_cons_self with ⟨hne, hneeds⟩
      rw [List.append_cons]
      refine ih (h.concat hne ?_) fun other hother =>
        hothers other (List.mem_cons_of_mem condition hother)
      intro hneeds'
      rw [hneeds] at hneeds'
      cases hneeds'

theorem append_join (h : JoinsFor table needs start added) {condition : Condition}
    (hne : condition ≠ .join table) (hjoin : needs (.join table) = false)
    (hneeds : needs condition = true) (hjoined : .join table ∉ start ++ added) :
    JoinsFor table needs start (added ++ [.join table] ++ [condition]) := by
  have hnone := List.count_eq_zero.mpr hjoined
  constructor
  · have hstart : start.count (.join table) = 0 := by
      rw [List.count_append] at hnone
      exact Nat.eq_zero_of_add_eq_zero_right hnone
    rw [← List.append_assoc, ← List.append_assoc, List.count_append, List.count_append, hnone,
      hstart]
    simp [hne, hneeds]
  · intro before other hprefix hother
    rcases List.prefix_concat_iff.mp hprefix with heq | hprefix
    · rcases List.append_inj' heq rfl with ⟨rfl, -⟩
      simp
    · rcases List.prefix_concat_iff.mp hprefix with heq | hprefix
      · rcases List.append_inj' heq rfl with ⟨-, hlast⟩
        rw [List.singleton_inj.mp hlast, hjoin] at hother
        cases hother
      · exact h.earlier before other hprefix hother
  · intro before hprefix
    rcases List.prefix_concat_iff.mp hprefix with heq | hprefix
    · rcases List.append_inj' heq rfl with ⟨-, hlast⟩
      exact absurd (List.singleton_inj.mp hlast).symm hne
    · rcases List.prefix_concat_iff.mp hprefix with heq | hprefix
      · rcases List.append_inj' heq rfl with ⟨rfl, -⟩
        refine ⟨condition, hneeds, ?_⟩
        rw [List.append_assoc]
        exact List.prefix_rfl
      · rcases h.followed before hprefix with ⟨other, hother, hprefix⟩
        refine ⟨other, hother, hprefix.trans ?_⟩
        rw [List.append_assoc]
        exact List.prefix_append added _

theorem grow {chain left : Chain} (h : JoinsFor table needs start added)
    (hjoin : needs (.join table) = false) (hchain : chain.conditions = start ++ added)
    (hgrows : chain.Grows table needs left) :
    ∃ more, left.conditions = start ++ (added ++ more) ∧
      JoinsFor table needs start (added ++ more) := by
  cases hgrows with
  | others hleft hothers =>
      rw [hchain, List.append_assoc] at hleft
      exact ⟨_, hleft, h.append_others hothers⟩
  | needing hneeds =>
      rename_i condition
      have hne : condition ≠ .join table := by
        rintro rfl
        rw [hjoin] at hneeds
        cases hneeds
      have hmem : chain.joins table = true ↔ .join table ∈ start ++ added := by
        rw [Chain.joins_iff, hchain]
      by_cases hjoined : chain.joins table = true
      · refine ⟨[condition], ?_, h.concat hne fun _ => hmem.mp hjoined⟩
        rw [Chain.join, if_pos hjoined, Chain.conditions_add, hchain, List.append_assoc]
      · refine ⟨[.join table] ++ [condition], ?_, ?_⟩
        · rw [Chain.join, if_neg hjoined, Chain.conditions_add, Chain.conditions_add, hchain,
            List.append_assoc, List.append_assoc]
        · rw [← List.append_assoc]
          exact h.append_join hne hjoin hneeds fun h => hjoined (hmem.mpr h)

end JoinsFor

end Chain

end SearchQuery
