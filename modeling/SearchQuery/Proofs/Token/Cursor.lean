import SearchQuery.Proofs.Text.Span
import SearchQuery.Proofs.Token.Cut
import SearchQuery.Token.Cursor

/-!
# Moving the cursor

The text still to be read is always the end of the query.  Taking a cut moves
the cursor over white space and over the text of the cut, so the last token
stands in the query from where it began to where the cursor is.
-/

namespace SearchQuery

namespace Cursor

def lastSpan (cursor : Cursor) : Span :=
  { start := Text.byteLength cursor.query - Text.byteLength (cursor.last.getD [])
    stop := cursor.position }

def tokenStart (cursor : Cursor) : Nat :=
  Text.byteLength cursor.query - Text.byteLength (Text.trimStart cursor.rest)

/-- The cursor moves over white space, and then over the text, to get there. -/
structure Advances (cursor after : Cursor) (text : Text) : Prop where
  query_eq : after.query = cursor.query
  rest_suffix : after.rest <:+ after.query
  holds : after.lastSpan.Holds cursor.query text
  start_lt_stop : after.lastSpan.start < after.lastSpan.stop
  gap : Span.Follows cursor.query { start := 0, stop := cursor.position } after.lastSpan

theorem next_of_token? {cursor : Cursor} {cut : Cut}
    (h : Cut.token? (Text.trimStart cursor.rest) = some cut) :
    cursor.next = (some ⟨cut.text⟩, cursor.take (Text.trimStart cursor.rest) cut) := by
  simp [next, h]

theorem next_of_token?_none {cursor : Cursor}
    (h : Cut.token? (Text.trimStart cursor.rest) = none) :
    cursor.next = (none, { cursor with rest := Text.trimStart cursor.rest }) := by
  simp [next, h]

theorem next_eq_none {cursor after : Cursor} (h : cursor.next = (none, after)) :
    Text.OpensOutside Text.isGraph (Text.trimStart cursor.rest) := by
  rw [← Cut.token?_eq_none_iff]
  cases hcut : Cut.token? (Text.trimStart cursor.rest) with
  | none =>
      rfl
  | some cut =>
      rw [next_of_token? hcut] at h
      cases h

theorem recut_of_last_none {cursor : Cursor} (h : cursor.last = none) :
    cursor.recut = (none, cursor) := by
  simp [recut, h]

theorem recut_of_last_some {cursor : Cursor} {start : Text} {cut : Cut}
    (hlast : cursor.last = some start) (hcut : Cut.plain? start = some cut) :
    cursor.recut = (some ⟨cut.text⟩, cursor.take start cut) := by
  simp [recut, hlast, hcut]

theorem recut_take {cursor : Cursor} {start : Text} {cut plain : Cut}
    (h : Cut.plain? start = some plain) :
    (cursor.take start cut).recut = (some ⟨plain.text⟩, cursor.take start plain) :=
  recut_of_last_some rfl h

theorem readAll_query (cursor : Cursor) : cursor.readAll.2.query = cursor.query := by
  fun_induction readAll cursor with
  | case1 cursor after h =>
      have hquery := congrArg (fun out => out.2.query) h
      simp only [next] at hquery
      split at hquery <;> exact hquery.symm
  | case2 cursor after token h hlt ih =>
      rcases next_eq_some h with ⟨cut, -, -, rfl⟩
      exact ih

theorem tokens_of_next_none {cursor after : Cursor} (h : cursor.next = (none, after)) :
    cursor.tokens = [] := by
  rw [tokens, readAll_of_next_none h]
  rfl

theorem tokens_of_next_some {cursor after : Cursor} {token : Token}
    (h : cursor.next = (some token, after)) : cursor.tokens = token :: after.tokens := by
  rw [tokens, readAll_of_next_some h]
  rfl

/-- Which tokens are still to be read depends on the text behind the cursor alone. -/
theorem tokens_congr (cursor : Cursor) :
    ∀ other : Cursor, Text.trimStart other.rest = Text.trimStart cursor.rest →
      other.tokens = cursor.tokens := by
  fun_induction readAll cursor with
  | case1 cursor after h =>
      intro other hstart
      have hcut := Cut.token?_eq_none_iff.mpr (next_eq_none h)
      rw [← hstart] at hcut
      rw [tokens_of_next_none h, tokens_of_next_none (next_of_token?_none hcut)]
  | case2 cursor after token h hlt ih =>
      intro other hstart
      rcases next_eq_some h with ⟨cut, hcut, rfl, rfl⟩
      rw [← hstart] at hcut
      have htail := ih (other.take (Text.trimStart other.rest) cut) rfl
      rw [tokens_of_next_some h, tokens_of_next_some (next_of_token? hcut), htail]

theorem tokens_ofQuery_rest {cursor : Cursor} {query : Text}
    (h : cursor.rest <:+ Text.trim query) : (ofQuery cursor.rest).tokens = cursor.tokens := by
  apply tokens_congr
  show Text.trimStart (Text.trim cursor.rest) = Text.trimStart cursor.rest
  rw [Text.trim_of_suffix_trim h, Text.trimStart_eq_self (Text.opensOutside_trimStart _)]

theorem exists_before_start {cursor : Cursor} (hrest : cursor.rest <:+ cursor.query) :
    ∃ before gap, Text.Blank gap ∧ cursor.position = Text.byteLength before ∧
      cursor.query = before ++ gap ++ Text.trimStart cursor.rest ∧
      cursor.tokenStart = Text.byteLength (before ++ gap) := by
  rcases hrest with ⟨before, hbefore⟩
  rcases Text.exists_trimStart cursor.rest with ⟨gap, hgap, hsplit⟩
  have hquery : cursor.query = before ++ gap ++ Text.trimStart cursor.rest := by
    rw [List.append_assoc, ← hsplit]
    exact hbefore.symm
  exact ⟨before, gap, hgap, Text.byteLength_sub_of_append hbefore.symm, hquery,
    Text.byteLength_sub_of_append hquery⟩

theorem tokenStart_eq_add {cursor after : Cursor} {front : Text}
    (hquery : after.query = cursor.query) (hrest : cursor.rest <:+ cursor.query)
    (hstart : Text.trimStart cursor.rest = front ++ Text.trimStart after.rest) :
    after.tokenStart = cursor.tokenStart + Text.byteLength front := by
  rcases exists_before_start hrest with ⟨before, gap, -, -, hsplit, hbefore⟩
  rw [hstart, ← List.append_assoc, ← hquery] at hsplit
  rw [hbefore, ← Text.byteLength_append]
  exact Text.byteLength_sub_of_append hsplit

theorem exists_before_take {cursor : Cursor} {cut : Cut} (hrest : cursor.rest <:+ cursor.query)
    (hcut : cut.Divides (Text.trimStart cursor.rest)) :
    ∃ before, cursor.query = before ++ cut.text ++ cut.rest ∧
      cursor.tokenStart = Text.byteLength before ∧
      (cursor.take (Text.trimStart cursor.rest) cut).position =
        Text.byteLength (before ++ cut.text) := by
  rcases exists_before_start hrest with ⟨before, gap, -, -, hquery, hstart⟩
  rw [← hcut.whole, ← List.append_assoc] at hquery
  exact ⟨before ++ gap, hquery, hstart, Text.byteLength_sub_of_append hquery⟩

theorem lastSpan_take {cursor : Cursor} {cut : Cut} (hrest : cursor.rest <:+ cursor.query)
    (hcut : cut.Divides (Text.trimStart cursor.rest)) :
    (cursor.take (Text.trimStart cursor.rest) cut).lastSpan =
      { start := cursor.tokenStart
        stop := cursor.tokenStart + Text.byteLength cut.text } := by
  rcases exists_before_take hrest hcut with ⟨before, -, hstart, hstop⟩
  rw [Text.byteLength_append, ← hstart] at hstop
  rw [← hstop]
  rfl

theorem advances_take {cursor : Cursor} {cut : Cut} (hrest : cursor.rest <:+ cursor.query)
    (hcut : cut.Divides (Text.trimStart cursor.rest)) :
    cursor.Advances (cursor.take (Text.trimStart cursor.rest) cut) cut.text := by
  have hspan := lastSpan_take hrest hcut
  rcases exists_before_start hrest with ⟨before, gap, hgap, hposition, hquery, hstart⟩
  rw [← hcut.whole] at hquery
  refine ⟨rfl, ⟨before ++ gap ++ cut.text, ?_⟩, ?_, ?_, ?_⟩
  · rw [List.append_assoc]
    exact hquery.symm
  · rw [hspan, hstart, ← Text.byteLength_append, hquery, ← List.append_assoc]
    exact Span.holds_of_append _ _ _
  · have hpos := Text.byteLength_pos hcut.nonempty
    rw [hspan]
    simp only
    omega
  · rw [hspan, hposition, hstart]
    constructor
    · simp only [Text.byteLength_append]
      omega
    · refine ⟨gap, hgap, ?_⟩
      rw [hquery]
      exact Span.holds_of_append _ _ _

end Cursor

end SearchQuery
