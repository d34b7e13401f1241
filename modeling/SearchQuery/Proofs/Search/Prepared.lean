import Mathlib.Data.List.Induction
import SearchQuery.Search.Prepared

/-!
# Any sequence of calls

A prepared query can be asked for its query, for the scope it starts from and for its
results, in any order and any number of times.  It always answers as a query that was
never asked before, but for the events: a success that is kept has none.  Behind it is
one invariant: what is kept is what a compilation comes to.
-/

namespace SearchQuery

universe u

inductive Call where
  | query
  | scope
  | results
  deriving DecidableEq, Repr

inductive Response (Scope : Type u) where
  | query (query : Text)
  | scope (scope : Scope)
  | results (verdict : Verdict Scope)

variable {Scope : Type u}

namespace Prepared

def respond (prepared : Prepared Scope) : Call → Response Scope × Prepared Scope
  | .query => (.query prepared.query, prepared)
  | .scope => (.scope prepared.scope, prepared)
  | .results => (.results prepared.results.1, prepared.results.2)

def run (prepared : Prepared Scope) (calls : List Call) : List (Response Scope) × Prepared Scope :=
  calls.foldl
    (fun state call => (state.1 ++ [(state.2.respond call).1], (state.2.respond call).2))
    ([], prepared)

theorem run_concat (prepared : Prepared Scope) (calls : List Call) (call : Call) :
    prepared.run (calls ++ [call]) =
      ((prepared.run calls).1 ++ [((prepared.run calls).2.respond call).1],
        ((prepared.run calls).2.respond call).2) := by
  simp only [run, List.foldl_append, List.foldl_cons, List.foldl_nil]

theorem length_run (prepared : Prepared Scope) (calls : List Call) :
    (prepared.run calls).1.length = calls.length := by
  induction calls using List.reverseRecOn with
  | nil =>
      rfl
  | append_singleton calls call ih =>
      rw [run_concat, List.length_append, List.length_append, ih]
      rfl

/-- A call is answered by the prepared query as the calls before it left it. -/
theorem getElem?_run (prepared : Prepared Scope) (calls : List Call) (index : Nat) :
    (prepared.run calls).1[index]? =
      calls[index]?.map fun call => ((prepared.run (calls.take index)).2.respond call).1 := by
  induction calls using List.reverseRecOn with
  | nil =>
      rfl
  | append_singleton calls call ih =>
      rw [run_concat]
      rcases Nat.lt_trichotomy index calls.length with hlt | heq | hgt
      · rw [List.getElem?_append_left (by rwa [length_run]), List.getElem?_append_left hlt,
          List.take_append_of_le_length (Nat.le_of_lt hlt), ih]
      · subst heq
        rw [List.take_left, ← prepared.length_run calls, List.getElem?_concat_length,
          prepared.length_run calls, List.getElem?_concat_length]
        rfl
      · rw [List.getElem?_eq_none, List.getElem?_eq_none]
        · rfl
        · rw [List.length_append, List.length_singleton]
          exact hgt
        · rw [List.length_append, List.length_singleton, length_run]
          exact hgt

/-!
## One call
-/

def compiled (prepared : Prepared Scope) : Verdict Scope :=
  prepared.search.compile prepared.query prepared.scope

/-- What is kept is what a compilation comes to. -/
def Sound (prepared : Prepared Scope) : Prop :=
  ∀ left ∈ prepared.kept, prepared.compiled.outcome = .ok left

/-- The prepared query once its results were asked for: a success is kept, an error is not. -/
def settled (prepared : Prepared Scope) : Prepared Scope :=
  { prepared with kept := prepared.compiled.outcome.toOption }

variable {prepared : Prepared Scope}

@[simp] theorem settled_settled (prepared : Prepared Scope) :
    prepared.settled.settled = prepared.settled := rfl

theorem isSome_kept_settled (prepared : Prepared Scope) :
    prepared.settled.kept.isSome = prepared.compiled.outcome.isOk := by
  rw [settled]
  cases prepared.compiled.outcome with
  | error error =>
      rfl
  | ok left =>
      rfl

theorem Sound.settled (prepared : Prepared Scope) : prepared.settled.Sound := by
  intro left hleft
  change prepared.compiled.outcome = .ok left
  rw [Prepared.settled, Option.mem_def] at hleft
  cases houtcome : prepared.compiled.outcome with
  | error error =>
      rw [houtcome] at hleft
      cases hleft
  | ok kept =>
      rw [houtcome] at hleft
      rw [Option.some.inj hleft]

theorem results_of_kept_none (h : prepared.kept = none) :
    prepared.results = (prepared.compiled, prepared.settled) := by
  rw [results, h]
  change (prepared.compiled, prepared.keep prepared.compiled) = _
  rw [keep, settled]
  cases houtcome : prepared.compiled.outcome with
  | error error =>
      rw [Except.toOption, ← h]
  | ok left =>
      rfl

theorem results_of_kept_some {left : Scope} (h : prepared.kept = some left) :
    prepared.results = ({ events := [], outcome := .ok left }, prepared) := by
  rw [results, h]

theorem Sound.results_eq (h : prepared.Sound) :
    prepared.results =
      ({ events := if prepared.kept.isSome then [] else prepared.compiled.events
         outcome := prepared.compiled.outcome }, prepared.settled) := by
  cases hkept : prepared.kept with
  | none =>
      rw [results_of_kept_none hkept]
      rfl
  | some left =>
      have houtcome := h left hkept
      have hsettled : prepared.settled = prepared := by
        rw [Prepared.settled, houtcome, Except.toOption, ← hkept]
      rw [results_of_kept_some hkept, hsettled, houtcome]
      rfl

theorem Sound.respond_snd (h : prepared.Sound) (call : Call) :
    (prepared.respond call).2 = if call = .results then prepared.settled else prepared := by
  cases call with
  | query =>
      rfl
  | scope =>
      rfl
  | results =>
      rw [respond, h.results_eq]
      rfl

/-!
## All calls
-/

theorem Sound.run_snd (h : prepared.Sound) (calls : List Call) :
    (prepared.run calls).2 = if .results ∈ calls then prepared.settled else prepared := by
  induction calls using List.reverseRecOn with
  | nil =>
      rfl
  | append_singleton calls call ih =>
      rw [run_concat]
      by_cases hasked : .results ∈ calls
      · rw [if_pos hasked] at ih
        rw [ih, (Sound.settled prepared).respond_snd, settled_settled, ite_self,
          if_pos (List.mem_append_left _ hasked)]
      · rw [if_neg hasked] at ih
        rw [ih, h.respond_snd]
        simp [hasked, eq_comm]

end Prepared

/-- However a prepared query is called, it answers with its query, with the scope it starts from
and with the outcome of a compilation.  The events of a success come with the first call for
the results alone, those of an error with every such call, and no error is kept. -/
theorem Search.prepare_run_responses (search : Search Scope) (query : Option Text) (scope : Scope)
    (calls : List Call) :
    let verdict := search.compile (query.getD []) scope
    (∀ index : Nat, ((search.prepare query scope).run calls).1[index]? =
      calls[index]?.map fun call =>
        match call with
        | .query => Response.query (query.getD [])
        | .scope => Response.scope scope
        | .results =>
            Response.results
              { events :=
                  if verdict.outcome.isOk ∧ .results ∈ calls.take index then []
                  else verdict.events
                outcome := verdict.outcome }) ∧
      ((search.prepare query scope).run calls).2.kept =
        if .results ∈ calls then verdict.outcome.toOption else none := by
  intro verdict
  have hsound : (search.prepare query scope).Sound := by
    intro left hleft
    cases hleft
  constructor
  · intro index
    rw [Prepared.getElem?_run, hsound.run_snd]
    congr 1
    funext call
    cases call with
    | query =>
        split
        · rfl
        · rfl
    | scope =>
        split
        · rfl
        · rfl
    | results =>
        rw [Prepared.respond]
        by_cases hasked : .results ∈ calls.take index
        · rw [if_pos hasked, (Prepared.Sound.settled _).results_eq, Prepared.isSome_kept_settled]
          simp only [hasked, and_true]
          rfl
        · rw [if_neg hasked, hsound.results_eq]
          simp only [hasked, and_false, if_false]
          rfl
  · rw [hsound.run_snd]
    split
    · rfl
    · rfl

end SearchQuery
