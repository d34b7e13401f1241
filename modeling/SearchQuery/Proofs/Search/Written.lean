import Mathlib.Data.List.Forall2
import SearchQuery.Proofs.Search.Turn
import SearchQuery.Proofs.Token.Writing

/-!
# Compiling what was written

Items that are written one after the other, each as a token of its own, are
compiled one after the other, if the search knows what to do with each token as
it stands: a rule claims it, or it has no label and there is a fallback for it.
Then no token is cut again, and no item has a share in another.
-/

namespace SearchQuery

universe u v

variable {Scope : Type u}

namespace Search

/-- The search resolves the text as one token, whatever scope it finds, and leaves the scope
that is given. -/
structure Takes (search : Search Scope) (piece : Text) (leave : Scope → Scope) : Prop where
  isToken : Cut.IsToken piece
  closes : Text.OpensOutside Text.isBlank piece.reverse
  kept : ∀ scope, (search.offer? ⟨piece⟩ scope).isSome = true ∨ Token.isLabelled ⟨piece⟩ = false
  outcome : ∀ scope, (search.settle ⟨piece⟩ scope).outcome = .ok (leave scope)

theorem takes_of_claim {search : Search Scope} {piece : Text} {leave : Scope → Scope}
    (hpiece : Cut.IsToken piece) (hcloses : Text.OpensOutside Text.isBlank piece.reverse)
    (hclaim : ∀ scope,
      (search.rulebook.rules.findSome? fun rule => rule.claim? ⟨piece⟩ scope) =
        some (leave scope)) :
    search.Takes piece leave := by
  have hoffer : ∀ scope, ∃ verdict, search.offer? ⟨piece⟩ scope = some verdict ∧
      verdict.outcome = .ok (leave scope) := by
    intro scope
    have hscope := hclaim scope
    rw [← Rulebook.map_snd_claim?] at hscope
    rcases Option.map_eq_some_iff.mp hscope with ⟨claim, hfound, hleft⟩
    refine ⟨_, congrArg (Option.map _) hfound, ?_⟩
    rw [← hleft]
  refine ⟨hpiece, hcloses, ?_, ?_⟩
  · intro scope
    rcases hoffer scope with ⟨verdict, hverdict, -⟩
    left
    rw [hverdict]
    rfl
  · intro scope
    rcases hoffer scope with ⟨verdict, hverdict, houtcome⟩
    rw [settle_of_offer? hverdict]
    exact houtcome

theorem takes_of_fallback {search : Search Scope} {piece : Text}
    {fallback : Token → Scope → Scope} (hpiece : Cut.IsToken piece)
    (hcloses : Text.OpensOutside Text.isBlank piece.reverse)
    (hclaim : ∀ scope,
      (search.rulebook.rules.findSome? fun rule => rule.claim? ⟨piece⟩ scope) = none)
    (hlabel : Token.isLabelled ⟨piece⟩ = false) (hfallback : search.fallback = some fallback) :
    search.Takes piece (fallback ⟨piece⟩) := by
  have hoffer : ∀ scope, search.offer? ⟨piece⟩ scope = none := fun scope =>
    offer?_eq_none_iff.mpr (List.findSome?_eq_none_iff.mp (hclaim scope))
  refine ⟨hpiece, hcloses, fun _ => Or.inr hlabel, ?_⟩
  intro scope
  rw [settle_of_offer?_none (hoffer scope), fallBack, hfallback]

section

variable {search : Search Scope} {Item : Type v} {items : List Item} {pieces : List Text}
variable {leave : Item → Scope → Scope}

theorem exists_takes_of_mem
    (hitems : List.Forall₂ (fun item piece => search.Takes piece (leave item)) items pieces)
    {piece : Text} (hpiece : piece ∈ pieces) : ∃ item, search.Takes piece (leave item) := by
  induction hitems with
  | nil =>
      cases hpiece
  | cons htakes hrest ih =>
      rcases List.mem_cons.mp hpiece with rfl | hpiece
      · exact ⟨_, htakes⟩
      · exact ih hpiece

theorem compileFrom_of_spaced
    (hitems : List.Forall₂ (fun item piece => search.Takes piece (leave item)) items pieces)
    {t : Text} (ht : Text.Spaced pieces t) {cursor : Cursor}
    (hcursor : Text.trimStart cursor.rest = t) (scope : Scope) :
    (search.compileFrom cursor scope).outcome =
      .ok (items.foldl (fun left item => leave item left) scope) := by
  have hpieces : ∀ piece ∈ pieces, Cut.IsToken piece := by
    intro piece hpiece
    rcases exists_takes_of_mem hitems hpiece with ⟨item, htakes⟩
    exact htakes.isToken
  induction hitems generalizing t cursor scope with
  | nil =>
      rw [search.compileFrom_of_next_none scope (Cursor.next_of_spaced_nil ht hcursor)]
      rfl
  | cons htakes hrest ih =>
      rename_i item piece items pieces
      rcases Cursor.next_of_spaced ht hpieces hcursor with ⟨after, hnext, hafter⟩
      have hturn := Turn.whole hnext (htakes.kept scope)
      rw [compileFrom_of_turn hturn, Verdict.andThen]
      simp only [htakes.outcome scope]
      exact ih hafter rfl (leave item scope)
        fun other hother => hpieces other (List.mem_cons_of_mem piece hother)

theorem compile_of_spaced
    (hitems : List.Forall₂ (fun item piece => search.Takes piece (leave item)) items pieces)
    {query : Text} (hquery : Text.Spaced pieces query) (scope : Scope) :
    (search.compile query scope).outcome =
      .ok (items.foldl (fun left item => leave item left) scope) := by
  have hpieces : ∀ piece ∈ pieces, piece ≠ [] ∧ Text.OpensOutside Text.isBlank piece ∧
      Text.OpensOutside Text.isBlank piece.reverse := by
    intro piece hpiece
    rcases exists_takes_of_mem hitems hpiece with ⟨item, htakes⟩
    exact ⟨htakes.isToken.ne_nil, htakes.isToken.opensOutside, htakes.closes⟩
  have hstart : Text.trimStart (Cursor.ofQuery query).rest = query := by
    show Text.trimStart (Text.trim query) = query
    rw [hquery.trim_eq hpieces]
    apply Text.trimStart_eq_self
    apply hquery.opensOutside
    intro piece hpiece
    exact ⟨(hpieces piece hpiece).1, (hpieces piece hpiece).2.1⟩
  exact compileFrom_of_spaced hitems hquery hstart scope

end

end Search

end SearchQuery
