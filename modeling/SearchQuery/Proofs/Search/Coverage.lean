import Mathlib.Data.List.Chain
import SearchQuery.Proofs.Search.Turn

/-!
# What a compilation resolves of its query

The tokens that are resolved stand in the query one behind the other, with
nothing but white space between them: no part of the query is resolved twice,
and none is passed over.  That a labelled token is cut again, which takes the
cursor back, makes no difference.  Only a control character can keep a
compilation from the end of its query.
-/

namespace SearchQuery

universe u

variable {Scope : Type u}

namespace Step

def span (step : Step Scope) : Span :=
  step.cursor.lastSpan

def ResolvesAt (query : Text) (step : Step Scope) : Prop :=
  step.span.start < step.span.stop ∧ step.span.Holds query step.token.raw

end Step

namespace Text

/-- Nothing, or white space and a control character behind it that is none. -/
def Unreadable (t : Text) : Prop :=
  t = [] ∨ ∃ gap c tail, t = gap ++ c :: tail ∧ Blank gap ∧
    isControl c = true ∧ isBlank c = false

theorem unreadable_of_suffix {t rest : Text} (hrest : rest <:+ t)
    (hcloses : OpensOutside isBlank t.reverse)
    (hgraph : OpensOutside isGraph (trimStart rest)) : Unreadable rest := by
  rcases exists_trimStart rest with ⟨gap, hgap, hsplit⟩
  cases hstart : trimStart rest with
  | nil =>
      left
      rcases hrest with ⟨before, hbefore⟩
      have hblank : Blank rest := trimStart_eq_nil_iff.mp hstart
      rw [← hbefore, List.reverse_append] at hcloses
      by_cases hnil : rest = []
      · exact hnil
      · have hreverse : rest.reverse ≠ [] := by
          simpa using hnil
        rw [opensOutside_append _ hreverse] at hcloses
        rcases List.exists_cons_of_ne_nil hreverse with ⟨c, tail, hcons⟩
        have hc : c ∈ rest := by
          rw [← List.mem_reverse, hcons]
          simp
        rw [hcons, opensOutside_cons, hblank c hc] at hcloses
        cases hcloses
  | cons c tail =>
      right
      have hblank := opensOutside_trimStart rest
      rw [hstart] at hsplit hgraph hblank
      rw [opensOutside_cons] at hgraph hblank
      refine ⟨gap, c, tail, hsplit, hgap, ?_, hblank⟩
      simpa [isGraph, hblank] using hgraph

end Text

theorem Span.follows_of_stop_eq {t : Text} {last last' next : Span}
    (h : Span.Follows t last next) (hstop : last'.stop = last.stop) :
    Span.Follows t last' next := by
  unfold Span.Follows at h ⊢
  rw [hstop]
  exact h

namespace Search

theorem Turn.resolvesAt {search : Search Scope} {cursor : Cursor} {scope : Scope}
    {step : Step Scope} (h : search.Turn cursor scope step)
    (hrest : cursor.rest <:+ cursor.query) {last : Span} (hlast : last.stop = cursor.position) :
    step.ResolvesAt cursor.query ∧ Span.Follows cursor.query last step.span := by
  have hadvances := h.advances hrest
  exact ⟨⟨hadvances.start_lt_stop, hadvances.holds⟩,
    Span.follows_of_stop_eq hadvances.gap hlast⟩

theorem steps_cover (search : Search Scope) (cursor : Cursor) (scope : Scope) :
    cursor.rest <:+ cursor.query → Text.OpensOutside Text.isBlank cursor.query.reverse →
    ∀ last : Span, last.stop = cursor.position →
      (∀ step ∈ search.steps cursor scope, step.ResolvesAt cursor.query) ∧
      List.IsChain (Span.Follows cursor.query)
        (last :: (search.steps cursor scope).map Step.span) ∧
      ∀ left, (search.compileFrom cursor scope).outcome = .ok left →
        ∃ unread, Text.Unreadable unread ∧
          Span.Holds
            { start := (((search.steps cursor scope).map Step.span).getLastD last).stop
              stop := Text.byteLength cursor.query } cursor.query unread := by
  induction cursor, scope using turn_induction search with
  | exhausted cursor scope after hnext =>
      intro hrest hcloses last hlast
      rw [search.steps_of_next_none scope hnext]
      refine ⟨by simp, by simp, ?_⟩
      intro left _
      have hgraph := Cursor.next_eq_none hnext
      refine ⟨cursor.rest, Text.unreadable_of_suffix hrest hcloses hgraph, ?_⟩
      rcases hrest with ⟨before, hbefore⟩
      have hposition : cursor.position = Text.byteLength before :=
        Text.byteLength_sub_of_append hbefore.symm
      refine ⟨before, [], ?_, ?_, ?_⟩
      · rw [List.append_nil, hbefore]
      · exact hlast.trans hposition
      · rw [hbefore]
  | turn cursor scope step hturn ih =>
      intro hrest hcloses last hlast
      have hadvances := hturn.advances hrest
      rcases hturn.resolvesAt hrest hlast with ⟨hresolves, hfollows⟩
      rw [steps_of_turn hturn, compileFrom_of_turn hturn]
      cases houtcome : step.outcome with
      | error error =>
          have hlater : search.later step = [] := by
            simp [later, houtcome]
          rw [hlater]
          refine ⟨by simpa using hresolves, by simpa using hfollows, ?_⟩
          intro left hok
          simp [Verdict.andThen, houtcome] at hok
      | ok left =>
          have hlater : search.later step = search.steps step.cursor left := by
            simp [later, houtcome]
          have hquery := hadvances.query_eq
          rw [← hquery] at hcloses
          rcases ih left houtcome hadvances.rest_suffix hcloses step.span rfl with
            ⟨hall, hchain, hunread⟩
          rw [hquery] at hall hchain hunread
          rw [hlater]
          refine ⟨?_, ?_, ?_⟩
          · intro other hother
            rcases List.mem_cons.mp hother with rfl | hother
            · exact hresolves
            · exact hall other hother
          · rw [List.map_cons, List.isChain_cons_cons]
            exact ⟨hfollows, hchain⟩
          · intro final hok
            have hok' : (search.compileFrom step.cursor left).outcome = .ok final := by
              simpa [Verdict.andThen, houtcome] using hok
            rw [List.map_cons, List.getLastD_cons]
            exact hunread final hok'

/-- Compiling a query comes to an end.  What it resolves are spans of the query with
white space at most between them and before them; and unless it ends with an error,
it leaves nothing behind them but what begins with a control character. -/
theorem compile_covers_query (search : Search Scope) (query : Text) (scope : Scope) :
    let steps := search.steps (Cursor.ofQuery query) scope
    search.Completes (Cursor.ofQuery query) scope steps
        (search.compile query scope).outcome ∧
      (∀ step ∈ steps, step.ResolvesAt (Text.trim query)) ∧
      List.IsChain (Span.Follows (Text.trim query)) (Span.origin :: steps.map Step.span) ∧
      ∀ left, (search.compile query scope).outcome = .ok left →
        ∃ unread, Text.Unreadable unread ∧
          Span.Holds
            { start := ((steps.map Step.span).getLastD Span.origin).stop
              stop := Text.byteLength (Text.trim query) } (Text.trim query) unread := by
  intro steps
  have hcloses : Text.OpensOutside Text.isBlank (Cursor.ofQuery query).query.reverse := by
    rcases Text.exists_trim query with ⟨_, _, _, _, _, _, hcloses⟩
    exact hcloses
  have horigin : Span.origin.stop = (Cursor.ofQuery query).position :=
    (Nat.sub_self _).symm
  constructor
  · exact Completes.steps_compileFrom (Cursor.ofQuery query) scope
  · exact search.steps_cover (Cursor.ofQuery query) scope List.suffix_rfl hcloses
      Span.origin horigin

end Search

end SearchQuery
