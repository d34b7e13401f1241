import Mathlib.Data.List.Basic
import SearchQuery.Filter.Chain

/-!
# How chains grow

What a token adds to a chain is a condition, behind a join if the condition needs
one and the chain does not have it.  All else that a chain holds is of no account,
so two chains to which the same is added stay alike but for that join.
-/

namespace SearchQuery

namespace Condition

def isJoin : Condition → Bool
  | join _ => true
  | _ => false

def isDate : Condition → Bool
  | date _ => true
  | _ => false

def column? : Condition → Option Column
  | date condition => some condition.field
  | equals column _ => some column
  | compares column _ _ => some column
  | like column _ => some column
  | join _ => none

theorem ne_join_of_isJoin {condition : Condition} (h : condition.isJoin = false) (table : Text) :
    condition ≠ join table := by
  intro heq
  rw [heq] at h
  cases h

end Condition

/-- A condition to be added, and the table to be joined before it, if there is one. -/
structure Addition where
  table : Option Text
  condition : Condition

namespace Addition

def extend (addition : Addition) (chain : Chain) : Chain :=
  match addition.table with
  | none => chain.add addition.condition
  | some table => (chain.join table).add addition.condition

def toAdd (addition : Addition) (chain : Chain) : List Condition :=
  match addition.table with
  | none => [addition.condition]
  | some table =>
      if chain.joins table then [addition.condition] else [.join table, addition.condition]

theorem conditions_extend (addition : Addition) (chain : Chain) :
    (addition.extend chain).conditions = chain.conditions ++ addition.toAdd chain := by
  unfold extend toAdd
  cases addition.table with
  | none =>
      rfl
  | some table =>
      simp only [Chain.join, Chain.conditions_add]
      split
      · rfl
      · simp

theorem eq_or_eq_join_of_mem_toAdd {addition : Addition} {chain : Chain} {condition : Condition}
    (h : condition ∈ addition.toAdd chain) :
    condition = addition.condition ∨ ∃ table ∈ addition.table, condition = .join table := by
  cases htable : addition.table with
  | none =>
      rw [toAdd, htable, List.mem_singleton] at h
      exact Or.inl h
  | some table =>
      simp only [toAdd, htable] at h
      split at h
      · exact Or.inl (List.mem_singleton.mp h)
      · rcases List.mem_cons.mp h with hjoin | hcondition
        · exact Or.inr ⟨table, rfl, hjoin⟩
        · exact Or.inl (List.mem_singleton.mp hcondition)

end Addition

/-!
## The same added to two chains
-/

namespace Chain

/-- The conditions that follow on those of the chain, given the ones that would follow on
none: a table that the chain joins is not joined again. -/
def following (start : Chain) (table : Text) (added : List Condition) : List Condition :=
  if start.joins table then added.filter fun condition => condition ≠ .join table else added

theorem joins_of_conditions_eq {start left : Chain} {added : List Condition}
    (h : left.conditions = start.conditions ++ added) (table : Text) :
    left.joins table = (start.joins table || added.any fun c => c = .join table) := by
  rw [joins, joins, h, List.any_append]

@[simp] theorem following_nil (start : Chain) (table : Text) : start.following table [] = [] := by
  unfold following
  split
  · rfl
  · rfl

theorem following_append (start : Chain) (table : Text) (added : List Condition)
    {condition : Condition} (h : condition.isJoin = false) :
    start.following table (added ++ [condition]) =
      start.following table added ++ [condition] := by
  have hne := condition.ne_join_of_isJoin h table
  unfold following
  split
  · simp [hne]
  · rfl

theorem following_append_join (start : Chain) (table : Text) (added : List Condition) :
    start.following table (added ++ [.join table]) =
      start.following table added ++ if start.joins table then [] else [.join table] := by
  unfold following
  split
  · simp
  · rfl

theorem extend_following {start left alone : Chain} {table : Text} {addition : Addition}
    (htable : ∀ other ∈ addition.table, other = table)
    (hjoin : addition.condition.isJoin = false)
    (h : left.conditions = start.conditions ++ start.following table alone.conditions) :
    (addition.extend left).conditions =
      start.conditions ++ start.following table (addition.extend alone).conditions := by
  cases hjoined : addition.table with
  | none =>
      simp only [Addition.extend, hjoined, conditions_add]
      rw [following_append _ _ _ hjoin, h, List.append_assoc]
  | some other =>
      have hother : other = table := htable other hjoined
      subst hother
      simp only [Addition.extend, hjoined, conditions_add]
      rw [following_append _ _ _ hjoin, ← List.append_assoc]
      congr 1
      have hleft := joins_of_conditions_eq h other
      cases hstart : start.joins other with
      | true =>
          rw [hstart, Bool.true_or] at hleft
          rw [join, if_pos hleft, h]
          cases halone : alone.joins other with
          | true =>
              rw [join, if_pos halone]
          | false =>
              simp [join, halone, following_append_join, hstart]
      | false =>
          have hsame : left.joins other = alone.joins other := by
            rw [hleft, hstart, Bool.false_or, following, hstart]
            rfl
          cases halone : alone.joins other with
          | true =>
              rw [halone] at hsame
              rw [join, if_pos hsame, join, if_pos halone, h]
          | false =>
              rw [halone] at hsame
              simp [join, hsame, halone, h, following_append_join, hstart]

section

variable {Item : Type} (addition : Item → Addition) {table : Text}

theorem foldl_extend_following (htable : ∀ item, ∀ other ∈ (addition item).table, other = table)
    (hjoin : ∀ item, (addition item).condition.isJoin = false) (items : List Item)
    {start left alone : Chain}
    (h : left.conditions = start.conditions ++ start.following table alone.conditions) :
    (items.foldl (fun chain item => (addition item).extend chain) left).conditions =
      start.conditions ++ start.following table
        (items.foldl (fun chain item => (addition item).extend chain) alone).conditions := by
  induction items generalizing left alone with
  | nil =>
      exact h
  | cons item items ih =>
      rw [List.foldl_cons, List.foldl_cons]
      exact ih (extend_following (htable item) (hjoin item) h)

theorem filter_foldl_extend (htable : ∀ item, ∀ other ∈ (addition item).table, other = table)
    (hjoin : ∀ item, (addition item).condition.isJoin = false) (items : List Item)
    (chain : Chain) :
    (items.foldl (fun chain item => (addition item).extend chain) chain).conditions.filter
        (fun condition => condition ≠ .join table) =
      chain.conditions.filter (fun condition => condition ≠ .join table) ++
        items.map fun item => (addition item).condition := by
  induction items generalizing chain with
  | nil =>
      simp
  | cons item items ih =>
      have hne := (addition item).condition.ne_join_of_isJoin (hjoin item) table
      have hadd : ((addition item).toAdd chain).filter (fun condition => condition ≠ .join table) =
          [(addition item).condition] := by
        unfold Addition.toAdd
        cases hjoined : (addition item).table with
        | none =>
            simp [hne]
        | some other =>
            have hother : other = table := htable item other hjoined
            simp only [hother]
            split
            · simp [hne]
            · simp [hne]
      rw [List.foldl_cons, ih, Addition.conditions_extend, List.filter_append, hadd, List.map_cons,
        List.append_assoc, List.singleton_append]

theorem foldl_extend_of_no_table (htable : ∀ item, (addition item).table = none)
    (items : List Item) (chain : Chain) :
    (items.foldl (fun chain item => (addition item).extend chain) chain).conditions =
      chain.conditions ++ items.map fun item => (addition item).condition := by
  induction items generalizing chain with
  | nil =>
      simp
  | cons item items ih =>
      have hadd : (addition item).toAdd chain = [(addition item).condition] := by
        rw [Addition.toAdd, htable item]
      rw [List.foldl_cons, ih, Addition.conditions_extend, hadd, List.map_cons, List.append_assoc,
        List.singleton_append]

end

end Chain

end SearchQuery
