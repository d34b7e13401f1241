import SearchQuery.Proofs.Token.Cursor

/-!
# How many tokens a query has

A token mostly ends where a word ends, so that a query has no more tokens than
words.  Only a phrase in quotes can end in the middle of a word, where a graph
stands right behind its closing quote: then the word goes on in the next token.
Each such phrase makes room for one token more, and there is no other way to
have more tokens than words.
-/

namespace SearchQuery

namespace Cursor

def facesGraph (cursor : Cursor) : Bool :=
  cursor.rest.head?.any Text.isGraph

/-- The tokens still to be read that end in the middle of a word. -/
def midword (cursor : Cursor) : List Token :=
  (cursor.readAll.1.filter fun entry => entry.2.facesGraph).map Prod.fst

theorem facesGraph_eq_false_iff {cursor : Cursor} :
    cursor.facesGraph = false ↔ Text.OpensOutside Text.isGraph cursor.rest := by
  unfold facesGraph
  cases cursor.rest with
  | nil =>
      simp
  | cons c t =>
      simp

end Cursor

/-!
## What ends in the middle of a word
-/

def Text.EndsInQuotes (t : Text) : Prop :=
  ∃ front phrase, phrase ≠ [] ∧ '"' ∉ phrase ∧ t = front ++ inQuotes phrase

theorem Text.EndsInQuotes.two_le_count {t : Text} (h : EndsInQuotes t) :
    2 ≤ t.count '"' := by
  rcases h with ⟨front, phrase, -, -, rfl⟩
  simp [inQuotes]
  omega

namespace Cut

theorem endsInQuotes_of_plain? {t : Text} {cut : Cut} (h : plain? t = some cut)
    (hgraph : ¬ Text.OpensOutside Text.isGraph cut.rest) : cut.text.EndsInQuotes := by
  rcases quoted?_or_bare?_of_plain? h with hquoted | ⟨-, hbare⟩
  · rcases quoted?_eq_some_iff.mp hquoted with ⟨phrase, hne, hquote, htext, -⟩
    exact ⟨[], phrase, hne, hquote, htext⟩
  · exact absurd (bare?_eq_some_iff.mp hbare).2.2.1 hgraph

theorem endsInQuotes_of_token? {t : Text} {cut : Cut} (h : token? t = some cut)
    (hgraph : ¬ Text.OpensOutside Text.isGraph cut.rest) : cut.text.EndsInQuotes := by
  rcases labelled?_or_plain?_of_token? h with hlabelled | ⟨-, hplain⟩
  · rcases labelled?_eq_some_iff.mp hlabelled with ⟨label, rest, plain, -, hplain, rfl⟩
    rcases endsInQuotes_of_plain? hplain hgraph with ⟨front, phrase, hne, hquote, htext⟩
    refine ⟨label.text ++ front, phrase, hne, hquote, ?_⟩
    rw [List.append_assoc, ← htext]
  · exact endsInQuotes_of_plain? hplain hgraph

end Cut

/-!
## Counting along the query
-/

namespace Cursor

theorem midword_of_next_none {cursor after : Cursor} (h : cursor.next = (none, after)) :
    cursor.midword = [] := by
  rw [midword, readAll_of_next_none h]
  rfl

theorem midword_of_next_some {cursor after : Cursor} {token : Token}
    (h : cursor.next = (some token, after)) :
    cursor.midword = if after.facesGraph then token :: after.midword else after.midword := by
  rw [midword, readAll_of_next_some h, List.filter_cons]
  split
  · rfl
  · rfl

theorem not_blank_of_token? {t : Text} {cut : Cut}
    (h : Cut.token? (Text.trimStart t) = some cut) : ¬ Text.Blank cut.text := by
  have hdivides := Cut.divides_of_token? h
  have hopens := Text.opensOutside_trimStart t
  rw [← hdivides.whole, Text.opensOutside_append _ hdivides.nonempty] at hopens
  intro hblank
  rw [← Text.trimStart_eq_nil_iff, Text.trimStart_eq_self hopens] at hblank
  exact hdivides.nonempty hblank

/-- Behind a token that does not end in the middle of a word, there is a word less than
before it, or else a control character at which reading ends. -/
theorem words_rest_lt {cursor after : Cursor} {token : Token}
    (h : cursor.next = (some token, after)) (hfaces : after.facesGraph = false) :
    after.tokens = [] ∧ 0 < (Text.words cursor.rest).length ∨
      (Text.words after.rest).length < (Text.words cursor.rest).length := by
  rcases next_eq_some h with ⟨cut, hcut, rfl, rfl⟩
  have hopens : Text.OpensOutside Text.isGraph cut.rest := facesGraph_eq_false_iff.mp hfaces
  have hpos := Text.words_length_pos_of_not_blank (not_blank_of_token? hcut)
  rw [← Text.words_trimStart, ← (Cut.divides_of_token? hcut).whole]
  cases hrest : cut.rest with
  | nil =>
      right
      simpa [take, hrest] using hpos
  | cons c tail =>
      cases hc : Text.isBlank c with
      | true =>
          right
          have hblank : Text.OpensBlank (c :: tail) := Text.opensBlank_cons.mpr hc
          rw [Text.words_append_of_opensBlank _ hblank, List.length_append]
          simp only [take, hrest]
          omega
      | false =>
          left
          have hstart : Text.trimStart (c :: tail) = c :: tail :=
            Text.trimStart_eq_self (Text.opensOutside_cons.mpr hc)
          rw [hrest, ← hstart, ← Cut.token?_eq_none_iff, ← hrest] at hopens
          refine ⟨tokens_of_next_none (next_of_token?_none hopens), ?_⟩
          apply Text.words_length_pos_of_not_blank
          intro hblank
          exact not_blank_of_token? hcut (Text.blank_append.mp hblank).1

theorem tokens_length_le_words (cursor : Cursor) :
    cursor.tokens.length ≤ (Text.words cursor.rest).length + cursor.midword.length := by
  fun_induction readAll cursor with
  | case1 cursor after h =>
      rw [tokens_of_next_none h]
      exact Nat.zero_le _
  | case2 cursor token after h hlt ih =>
      rw [tokens_of_next_some h, midword_of_next_some h, List.length_cons]
      cases hfaces : after.facesGraph with
      | true =>
          have hwords : (Text.words after.rest).length ≤ (Text.words cursor.rest).length := by
            rcases next_eq_some h with ⟨cut, hcut, -, rfl⟩
            rw [← Text.words_trimStart cursor.rest, ← (Cut.divides_of_token? hcut).whole]
            exact Text.words_length_le_append cut.text cut.rest
          simp only [if_true, List.length_cons]
          omega
      | false =>
          simp only [Bool.false_eq_true, if_false]
          rcases words_rest_lt h hfaces with ⟨hnil, hpos⟩ | hlt
          · rw [hnil, List.length_nil]
            omega
          · omega

theorem endsInQuotes_of_mem_midword {cursor : Cursor} {token : Token}
    (h : token ∈ cursor.midword) : token.raw.EndsInQuotes := by
  fun_induction readAll cursor with
  | case1 cursor after hnext =>
      rw [midword_of_next_none hnext] at h
      cases h
  | case2 cursor first after hnext hlt ih =>
      rw [midword_of_next_some hnext] at h
      split at h
      · next hfaces =>
          rcases List.mem_cons.mp h with rfl | hmem
          · rcases next_eq_some hnext with ⟨cut, hcut, rfl, rfl⟩
            apply Cut.endsInQuotes_of_token? hcut
            intro hopens
            rw [facesGraph_eq_false_iff.mpr hopens] at hfaces
            cases hfaces
          · exact ih hmem
      · exact ih h

theorem count_raw_add_count_rest_le {cursor after : Cursor} {token : Token} (c : Char)
    (h : cursor.next = (some token, after)) :
    token.raw.count c + after.rest.count c ≤ cursor.rest.count c := by
  rcases next_eq_some h with ⟨cut, hcut, rfl, rfl⟩
  have hsublist := List.dropWhile_sublist (l := cursor.rest) Text.isBlank
  have hcount := hsublist.count_le c
  rw [show cursor.rest.dropWhile Text.isBlank = cut.text ++ cut.rest from
    (Cut.divides_of_token? hcut).whole.symm, List.count_append] at hcount
  exact hcount

theorem two_mul_midword_le_count (cursor : Cursor) :
    2 * cursor.midword.length ≤ cursor.rest.count '"' := by
  fun_induction readAll cursor with
  | case1 cursor after h =>
      rw [midword_of_next_none h]
      exact Nat.zero_le _
  | case2 cursor token after h hlt ih =>
      have hcount := count_raw_add_count_rest_le '"' h
      rw [midword_of_next_some h]
      split
      · next hfaces =>
          have hmem : token ∈ cursor.midword := by
            rw [midword_of_next_some h, if_pos hfaces]
            exact List.mem_cons_self
          have htwo := (endsInQuotes_of_mem_midword hmem).two_le_count
          rw [List.length_cons]
          omega
      · omega

end Cursor

/-- A query has at most a token for every word, and one more for every token that ends in
the middle of a word.  Such a token ends with a phrase in quotes, so it takes two of the
query's double quotes with it. -/
theorem tokens_length_le (query : Text) :
    (Cursor.ofQuery query).tokens.length ≤
        (Text.words query).length + (Cursor.ofQuery query).midword.length ∧
      (∀ token ∈ (Cursor.ofQuery query).midword, token.raw.EndsInQuotes) ∧
      2 * (Cursor.ofQuery query).midword.length ≤ query.count '"' := by
  refine ⟨?_, fun token => Cursor.endsInQuotes_of_mem_midword, ?_⟩
  · have hlength := (Cursor.ofQuery query).tokens_length_le_words
    rwa [Cursor.ofQuery, Text.words_trim] at hlength
  · have hcount := (Cursor.ofQuery query).two_mul_midword_le_count
    exact hcount.trans ((Text.trim_sublist query).count_le '"')

theorem phrase_parts_word :
    (Text.words ['"', 'a', '"', 'b']).length = 1 ∧
      (Cursor.ofQuery ['"', 'a', '"', 'b']).tokens = [⟨['"', 'a', '"']⟩, ⟨['b']⟩] ∧
      (Cursor.ofQuery ['"', 'a', '"', 'b']).midword ≠ [] := by
  have hwords : (Text.words ['"', 'a', '"', 'b']).length = 1 := by
    rfl
  have htokens : (Cursor.ofQuery ['"', 'a', '"', 'b']).tokens =
      [⟨['"', 'a', '"']⟩, ⟨['b']⟩] := by
    rw [Cursor.tokens_of_next_some rfl, Cursor.tokens_of_next_some rfl,
      Cursor.tokens_of_next_none rfl]
    rfl
  refine ⟨hwords, htokens, ?_⟩
  intro hnil
  have hlength := (tokens_length_le ['"', 'a', '"', 'b']).1
  rw [htokens, hwords, hnil] at hlength
  simp at hlength

end SearchQuery
