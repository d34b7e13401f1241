import SearchQuery.Search.Basic
import SearchQuery.Token.Cursor

/-!
# Compiling a query

The tokens of a query are resolved one after the other, each in the scope that
the one before it left.  A labelled token that no rule claims is cut again: its
label, or what the label grew together with, is resolved on its own, and the
cursor stays right behind that, so the term is read again in the next step.
Every step takes the cursor forward, so a query has an end.
-/

namespace SearchQuery

universe u

structure Resolution (Scope : Type u) extends Verdict Scope where
  token : Token
  cursor : Cursor

structure Step (Scope : Type u) extends Resolution Scope where
  read : Token

namespace Search

variable {Scope : Type u}

def resolve (search : Search Scope) (cursor : Cursor) (token : Token)
    (scope : Scope) : Resolution Scope :=
  match search.offer? token scope with
  | some verdict => { verdict with token := token, cursor := cursor }
  | none =>
      if token.isLabelled then
        match cursor.recut with
        | (some plain, cursor) =>
            { search.settle plain scope with token := plain, cursor := cursor }
        | (none, cursor) =>
            { search.fallBack token scope with token := token, cursor := cursor }
      else
        { search.fallBack token scope with token := token, cursor := cursor }

theorem resolve_rest_length_lt (search : Search Scope) (scope : Scope)
    {cursor after : Cursor} {token : Token} (h : cursor.next = (some token, after)) :
    (search.resolve after token scope).cursor.rest.length < cursor.rest.length := by
  have hafter := Cursor.next_rest_length_lt h
  have hrecut := Cursor.recut_rest_length_lt h
  unfold resolve
  split
  · exact hafter
  · split
    · split
      · next hagain =>
          rw [hagain] at hrecut
          exact hrecut
      · next hagain =>
          rw [hagain] at hrecut
          exact hrecut
    · exact hafter

/-- The steps from the cursor on.  An error is the last of them. -/
def steps (search : Search Scope) (cursor : Cursor) (scope : Scope) :
    List (Step Scope) :=
  match h : cursor.next with
  | (none, _) => []
  | (some token, after) =>
      let resolution := search.resolve after token scope
      have := search.resolve_rest_length_lt scope h
      { resolution with read := token } ::
        match resolution.outcome with
        | .ok left => search.steps resolution.cursor left
        | .error _ => []
termination_by cursor.rest.length

def conclude (steps : List (Step Scope)) (scope : Scope) : Verdict Scope :=
  { events := steps.flatMap fun step => step.events
    outcome :=
      match steps.getLast? with
      | some step => step.outcome
      | none => .ok scope }

def compileFrom (search : Search Scope) (cursor : Cursor) (scope : Scope) :
    Verdict Scope :=
  conclude (search.steps cursor scope) scope

def compile (search : Search Scope) (query : Text) (scope : Scope) :
    Verdict Scope :=
  search.compileFrom (Cursor.ofQuery query) scope

/-!
## One step at a time
-/

theorem steps_of_next_none (search : Search Scope) (scope : Scope)
    {cursor after : Cursor} (h : cursor.next = (none, after)) :
    search.steps cursor scope = [] := by
  rw [steps]
  split
  · rfl
  · next hnext =>
      rw [h] at hnext
      simp at hnext

theorem steps_of_next_some (search : Search Scope) (scope : Scope)
    {cursor after : Cursor} {token : Token} (h : cursor.next = (some token, after)) :
    search.steps cursor scope =
      { search.resolve after token scope with read := token } ::
        match (search.resolve after token scope).outcome with
        | .ok left => search.steps (search.resolve after token scope).cursor left
        | .error _ => [] := by
  rw [steps]
  split
  · next hnext =>
      rw [h] at hnext
      simp at hnext
  · next hnext =>
      rw [h] at hnext
      simp only [Prod.mk.injEq, Option.some.injEq] at hnext
      obtain ⟨rfl, rfl⟩ := hnext
      rfl

theorem compileFrom_of_next_none (search : Search Scope) (scope : Scope)
    {cursor after : Cursor} (h : cursor.next = (none, after)) :
    search.compileFrom cursor scope = { events := [], outcome := .ok scope } := by
  simp [compileFrom, conclude, search.steps_of_next_none scope h]

theorem compileFrom_of_error (search : Search Scope) (scope : Scope)
    {cursor after : Cursor} {token : Token} {error : SearchError}
    (h : cursor.next = (some token, after))
    (herror : (search.resolve after token scope).outcome = .error error) :
    search.compileFrom cursor scope = (search.resolve after token scope).toVerdict := by
  simp only [compileFrom, conclude, search.steps_of_next_some scope h, herror]
  simp

theorem conclude_cons_of_ok {step : Step Scope} (steps : List (Step Scope)) (scope : Scope)
    {left : Scope} (hok : step.outcome = .ok left) :
    conclude (step :: steps) scope =
      { events := step.events ++ (conclude steps left).events
        outcome := (conclude steps left).outcome } := by
  cases steps with
  | nil =>
      simp [conclude, hok]
  | cons next steps =>
      simp [conclude, List.getLast?_cons]

theorem compileFrom_of_ok (search : Search Scope) (scope : Scope)
    {cursor after : Cursor} {token : Token} {left : Scope}
    (h : cursor.next = (some token, after))
    (hok : (search.resolve after token scope).outcome = .ok left) :
    search.compileFrom cursor scope =
      let resolution := search.resolve after token scope
      let tail := search.compileFrom resolution.cursor left
      { events := resolution.events ++ tail.events, outcome := tail.outcome } := by
  rw [compileFrom, search.steps_of_next_some scope h]
  simp only [hok]
  exact conclude_cons_of_ok _ scope hok

end Search

end SearchQuery
