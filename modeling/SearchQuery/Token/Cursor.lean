import SearchQuery.Token.Basic
import SearchQuery.Token.Cut

/-!
# The reading cursor

A cursor stands in a query, whose outer white space is no part of it.  It moves
forward token by token.  It also remembers where the last token began, so that
this token can be cut again without its label; the rest of it is then still to
be read.
-/

namespace SearchQuery

/-- A place in a query: the text still to be read, and the text from the start
of the last token on. -/
structure Cursor where
  query : Text
  rest : Text
  last : Option Text
  deriving DecidableEq, Repr

namespace Cursor

def ofQuery (query : Text) : Cursor :=
  { query := Text.trim query, rest := Text.trim query, last := none }

def position (cursor : Cursor) : Nat :=
  Text.byteLength cursor.query - Text.byteLength cursor.rest

def take (cursor : Cursor) (start : Text) (cut : Cut) : Cursor :=
  { cursor with rest := cut.rest, last := some start }

/-- The next token behind white space.  There is none at the end of the query
and before a control character that is no white space. -/
def next (cursor : Cursor) : Option Token × Cursor :=
  let start := Text.trimStart cursor.rest
  match Cut.token? start with
  | some cut => (some ⟨cut.text⟩, cursor.take start cut)
  | none => (none, { cursor with rest := start })

/-- The last token again, as the plain token at its start.  There is none before
the first token. -/
def recut (cursor : Cursor) : Option Token × Cursor :=
  match cursor.last with
  | none => (none, cursor)
  | some start =>
      match Cut.plain? start with
      | some cut => (some ⟨cut.text⟩, cursor.take start cut)
      | none => (none, { cursor with rest := start })

def restart (cursor : Cursor) : Cursor :=
  { cursor with rest := cursor.query, last := none }

/-!
## Reading gets on
-/

theorem next_eq_some {cursor after : Cursor} {token : Token}
    (h : cursor.next = (some token, after)) :
    ∃ cut, Cut.token? (Text.trimStart cursor.rest) = some cut ∧
      token = ⟨cut.text⟩ ∧
      after = cursor.take (Text.trimStart cursor.rest) cut := by
  unfold next at h
  simp only at h
  split at h
  · next cut hcut =>
      simp only [Prod.mk.injEq, Option.some.injEq] at h
      exact ⟨cut, hcut, h.1.symm, h.2.symm⟩
  · simp at h

theorem next_rest_length_lt {cursor after : Cursor} {token : Token}
    (h : cursor.next = (some token, after)) :
    after.rest.length < cursor.rest.length := by
  obtain ⟨cut, hcut, _, rfl⟩ := next_eq_some h
  have hlt := (Cut.divides_of_token? hcut).rest_length_lt
  have hle := Text.trimStart_length_le cursor.rest
  simp only [take]
  omega

theorem recut_rest_length_lt {cursor after : Cursor} {token : Token}
    (h : cursor.next = (some token, after)) :
    after.recut.2.rest.length < cursor.rest.length := by
  obtain ⟨cut, hcut, _, rfl⟩ := next_eq_some h
  obtain ⟨plain, hplain⟩ := Option.isSome_iff_exists.mp (Cut.plain?_isSome_of_token? hcut)
  have hlt := (Cut.divides_of_plain? hplain).rest_length_lt
  have hle := Text.trimStart_length_le cursor.rest
  simp only [recut, take, hplain]
  omega

/-!
## The tokens of a query
-/

/-- All tokens still to be read, each with the cursor behind it, and the cursor
where reading ends. -/
def readAll (cursor : Cursor) : List (Token × Cursor) × Cursor :=
  match h : cursor.next with
  | (none, after) => ([], after)
  | (some token, after) =>
      have := next_rest_length_lt h
      ((token, after) :: after.readAll.1, after.readAll.2)
termination_by cursor.rest.length

def tokens (cursor : Cursor) : List Token :=
  cursor.readAll.1.map Prod.fst

theorem readAll_of_next_none {cursor after : Cursor}
    (h : cursor.next = (none, after)) :
    cursor.readAll = ([], after) := by
  rw [readAll]
  split
  · next h' =>
      rw [h] at h'
      simp_all
  · next h' =>
      rw [h] at h'
      simp at h'

theorem readAll_of_next_some {cursor after : Cursor} {token : Token}
    (h : cursor.next = (some token, after)) :
    cursor.readAll = ((token, after) :: after.readAll.1, after.readAll.2) := by
  rw [readAll]
  split
  · next h' =>
      rw [h] at h'
      simp at h'
  · next h' =>
      rw [h] at h'
      simp only [Prod.mk.injEq, Option.some.injEq] at h'
      obtain ⟨rfl, rfl⟩ := h'
      rfl

end Cursor

end SearchQuery
