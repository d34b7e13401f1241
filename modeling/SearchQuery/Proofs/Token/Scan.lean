import Mathlib.Data.List.Basic
import SearchQuery.Proofs.Token.Cursor
import SearchQuery.Proofs.Token.Parts

/-!
# Scanning a token and taking it apart

The label of a token is recognised twice: when the token is cut off the query,
with all that follows in view, and when the token is taken apart, with nothing
behind it.  Both times it is the same label, with the same text behind it, so
whether a token has a label can be asked of its text alone.
-/

namespace SearchQuery

/-!
## Quotes around a term
-/

namespace Token

/-- The second text is the first without a double quote at either end, where there is
one.  A single byte is left as it is. -/
inductive Unquotes : Text → Text → Prop where
  | short {t : Text} (h : Text.byteLength t ≤ 1) : Unquotes t t
  | quoted (t : Text) : Unquotes (Text.inQuotes t) t
  | opened {t : Text} (hne : t ≠ []) (hlast : '"' ∉ t.getLast?) : Unquotes ('"' :: t) t
  | closed {t : Text} (hne : t ≠ []) (hhead : '"' ∉ t.head?) : Unquotes (t ++ ['"']) t
  | bare {t : Text} (hhead : '"' ∉ t.head?) (hlast : '"' ∉ t.getLast?) : Unquotes t t

theorem dropQuote_of_head {t : Text} (h : '"' ∉ t.head?) : dropQuote t = t := by
  unfold dropQuote
  split
  · simp at h
  · rfl

theorem unquote_eq_self {t : Text} (hhead : '"' ∉ t.head?) (hlast : '"' ∉ t.getLast?) :
    unquote t = t := by
  rw [← List.head?_reverse] at hlast
  rw [unquote, dropQuote_of_head hhead, dropQuote_of_head hlast, List.reverse_reverse,
    ite_self]

theorem exists_unquotes (t : Text) : ∃ stripped, Unquotes t stripped := by
  by_cases hhead : '"' ∈ t.head?
  · rcases List.head?_eq_some_iff.mp hhead with ⟨tail, rfl⟩
    by_cases hne : tail = []
    · subst hne
      exact ⟨['"'], Unquotes.short (by decide)⟩
    · by_cases hlast : '"' ∈ tail.getLast?
      · rcases List.getLast?_eq_some_iff.mp hlast with ⟨middle, rfl⟩
        exact ⟨middle, Unquotes.quoted middle⟩
      · exact ⟨tail, Unquotes.opened hne hlast⟩
  · by_cases hlast : '"' ∈ t.getLast?
    · rcases List.getLast?_eq_some_iff.mp hlast with ⟨front, rfl⟩
      by_cases hne : front = []
      · subst hne
        exact absurd rfl hhead
      · rw [List.head?_append_of_ne_nil front hne] at hhead
        exact ⟨front, Unquotes.closed hne hhead⟩
    · exact ⟨t, Unquotes.bare hhead hlast⟩

theorem Unquotes.eq_unquote {t stripped : Text} (h : Unquotes t stripped) :
    stripped = unquote t := by
  cases h with
  | short h =>
      have hlength := Text.length_le_byteLength t
      rw [unquote, if_pos (by omega)]
  | quoted =>
      exact (unquote_inQuotes stripped).symm
  | opened hne hlast =>
      have hpos := List.length_pos_iff.mpr hne
      rw [← List.head?_reverse] at hlast
      rw [unquote, if_neg (by simp; omega), dropQuote_cons_quote, dropQuote_of_head hlast,
        List.reverse_reverse]
  | closed hne hhead =>
      have hpos := List.length_pos_iff.mpr hne
      have hhead' : '"' ∉ (stripped ++ ['"']).head? := by
        rwa [List.head?_append_of_ne_nil stripped hne]
      rw [unquote, if_neg (by simp; omega), dropQuote_of_head hhead', List.reverse_append,
        List.reverse_singleton, List.singleton_append, dropQuote_cons_quote, List.reverse_reverse]
  | bare hhead hlast =>
      exact (unquote_eq_self hhead hlast).symm

theorem unquotes_unquote (t : Text) : Unquotes t (unquote t) := by
  rcases exists_unquotes t with ⟨stripped, h⟩
  rwa [← h.eq_unquote]

end Token

/-!
## The two readings of a label
-/

namespace Cut

/-- How a token is scanned at the start of a text: with a label, or without one because
no plain token follows a label there.  The cut is the plain token, and what is left. -/
inductive Scans (t : Text) : Option Label → Cut → Prop where
  | labelled {label : Label} {rest : Text} {cut : Cut}
      (hread : Label.read? t = some (label, rest)) (hplain : plain? rest = some cut) :
      Scans t (some label) cut
  | plain {cut : Cut} (hlabelled : labelled? t = none) (hplain : plain? t = some cut) :
      Scans t none cut

theorem Scans.isSome_labelled? {t : Text} {label : Option Label} {cut : Cut}
    (h : Scans t label cut) : (labelled? t).isSome = label.isSome := by
  cases h with
  | labelled hread hplain =>
      rw [labelled?_eq_some_iff.mpr ⟨_, _, _, hread, hplain, rfl⟩]
      rfl
  | plain hlabelled hplain =>
      rw [hlabelled]
      rfl

theorem exists_scans_of_token? {t : Text} {cut : Cut} (h : token? t = some cut) :
    ∃ label plain, Scans t label plain ∧
      cut = ⟨label.elim [] Label.text ++ plain.text, plain.rest⟩ := by
  rcases labelled?_or_plain?_of_token? h with hlabelled | ⟨hlabelled, hplain⟩
  · rcases labelled?_eq_some_iff.mp hlabelled with ⟨label, rest, plain, hread, hplain, rfl⟩
    exact ⟨some label, plain, Scans.labelled hread hplain, rfl⟩
  · exact ⟨none, cut, Scans.plain hlabelled hplain, rfl⟩

end Cut

/-- Taking a token apart gives what it was scanned as, although what follows the token in
the query is gone. -/
theorem Token.split?_of_scans {t : Text} {label : Option Label} {plain : Cut}
    (h : Cut.Scans t label plain) :
    split? ⟨label.elim [] Label.text ++ plain.text⟩ =
      label.map fun label => (label, plain.text) := by
  cases h with
  | labelled hread hplain =>
      rcases split?_of_labelled?
        (Cut.labelled?_eq_some_iff.mpr ⟨_, _, _, hread, hplain, rfl⟩) with
        ⟨label, rest, plain', hread', hplain', -, hsplit⟩
      rw [hread] at hread'
      cases hread'
      rw [hplain] at hplain'
      cases hplain'
      exact hsplit
  | plain hlabelled hplain =>
      exact split?_of_labelled?_none hlabelled hplain

/-- A token has a label just when it was scanned with one, and then it has that label; its
term is the plain token that was scanned, without the quotes around it.  So the term of a
phrase in quotes is all that stands between the quotes, and a token that is nothing but
such a phrase has no label. -/
theorem Cursor.parts_of_next {cursor after : Cursor} {token : Token}
    (h : cursor.next = (some token, after)) :
    ∃ label plain, Cut.Scans (Text.trimStart cursor.rest) label plain ∧
      token.raw = label.elim [] Label.text ++ plain.text ∧ after.rest = plain.rest ∧
      (token.isLabelled = true ↔
        (Cut.labelled? (Text.trimStart cursor.rest)).isSome = true) ∧
      token.label? = label.map Label.name ∧
      Token.Unquotes plain.text token.term ∧
      (∀ phrase, plain.text = Text.inQuotes phrase → token.term = phrase) ∧
      ∀ phrase, token.raw = Text.inQuotes phrase →
        token.isLabelled = false ∧ token.term = phrase := by
  rcases next_eq_some h with ⟨cut, hcut, rfl, rfl⟩
  rcases Cut.exists_scans_of_token? hcut with ⟨label, plain, hscans, rfl⟩
  have hsplit := Token.split?_of_scans hscans
  have hlabel : Token.label? ⟨label.elim [] Label.text ++ plain.text⟩ =
      label.map Label.name := by
    rw [Token.label?, hsplit, Option.map_map]
    rfl
  have hbody : Token.body ⟨label.elim [] Label.text ++ plain.text⟩ = plain.text := by
    cases label with
    | none =>
        exact Token.body_of_split?_none hsplit
    | some label =>
        exact Token.body_of_split? hsplit
  refine ⟨label, plain, hscans, rfl, rfl, ?_, hlabel, ?_, ?_, ?_⟩
  · rw [Token.isLabelled, hlabel, hscans.isSome_labelled?, Option.isSome_map]
  · rw [Token.term, hbody]
    exact Token.unquotes_unquote plain.text
  · intro phrase hphrase
    rw [Token.term, hbody, hphrase, Token.unquote_inQuotes]
  · intro phrase hphrase
    simp only at hphrase
    rw [hphrase]
    refine ⟨Token.isLabelled_inQuotes phrase, ?_⟩
    have hnone : Token.split? ⟨Text.inQuotes phrase⟩ = none := Token.split?_cons_quote _
    rw [Token.term, Token.body_of_split?_none hnone, Token.unquote_inQuotes]

theorem Cursor.parts_of_next_phrase :
    ∃ after, (Cursor.ofQuery ['f', ':', ' ', '"', 'a', ':', ' ', 'b', '"', 'c']).next =
        (some ⟨['f', ':', ' ', '"', 'a', ':', ' ', 'b', '"']⟩, after) ∧
      Token.isLabelled ⟨['f', ':', ' ', '"', 'a', ':', ' ', 'b', '"']⟩ = true ∧
      Token.label? ⟨['f', ':', ' ', '"', 'a', ':', ' ', 'b', '"']⟩ = some ['f'] ∧
      Token.Unquotes ['"', 'a', ':', ' ', 'b', '"']
        (Token.term ⟨['f', ':', ' ', '"', 'a', ':', ' ', 'b', '"']⟩) := by
  have hnext : (Cursor.ofQuery ['f', ':', ' ', '"', 'a', ':', ' ', 'b', '"', 'c']).next =
      (some ⟨['f', ':', ' ', '"', 'a', ':', ' ', 'b', '"']⟩, _) := rfl
  have hlabelled : Cut.labelled? ['f', ':', ' ', '"', 'a', ':', ' ', 'b', '"', 'c'] =
      some ⟨['f', ':', ' ', '"', 'a', ':', ' ', 'b', '"'], ['c']⟩ := rfl
  have hread : Label.read? ['f', ':', ' ', '"', 'a', ':', ' ', 'b', '"', 'c'] =
      some (⟨['f'], [' ']⟩, ['"', 'a', ':', ' ', 'b', '"', 'c']) := rfl
  have hplain : Cut.plain? ['"', 'a', ':', ' ', 'b', '"', 'c'] =
      some ⟨['"', 'a', ':', ' ', 'b', '"'], ['c']⟩ := rfl
  rcases parts_of_next hnext with ⟨label, plain, hscans, -, -, hlabel, hname, hterm, -⟩
  cases hscans with
  | labelled hread' hplain' =>
      cases hread.symm.trans hread'
      cases hplain.symm.trans hplain'
      exact ⟨_, hnext, hlabel.mpr rfl, hname, hterm⟩
  | plain hnone =>
      cases hlabelled.symm.trans hnone

end SearchQuery
