import SearchQuery.Proofs.Token.Moves
import SearchQuery.Proofs.Token.Scan

/-!
# Cutting the last token again

A token that was just read can be cut again without its label.  If white space
stands behind the colon, the label is cut off and the term is left to be read, as
a query of its own.  If none does, the label and a bare word are cut together as
before, and a token without a label is what it was.  Cutting again a second time
gives what it gave the first time.
-/

namespace SearchQuery

namespace Cut

/-- Without white space behind its colon, a label and a bare word are one plain token. -/
theorem plain?_of_no_gap {t body : Text} {cut : Cut} {label : Label} (h : token? t = some cut)
    (hsplit : Token.split? ⟨cut.text⟩ = some (label, body)) (hgap : label.gap = [])
    (hphrase : ∀ phrase, ¬ Token.Quotes ⟨cut.text⟩ phrase) : plain? t = some cut := by
  rcases Token.exists_label_of_split? h hsplit with ⟨rest, hlabel, htext, rfl, hplain⟩
  rcases quoted?_or_bare?_of_plain? hplain with hquoted | ⟨-, hbare⟩
  · rcases quoted?_eq_some_iff.mp hquoted with ⟨phrase, hne, hquote, hbody, -⟩
    exact absurd ⟨(Token.body_of_split? hsplit).trans hbody, hne, hquote⟩ (hphrase phrase)
  · rcases bare?_eq_some_iff.mp hbare with ⟨-, hgraph, hopens, hrest⟩
    rw [hrest, plain?_label_of_no_gap hlabel hgap hgraph hopens, ← htext]

end Cut

namespace Cursor

theorem recut_of_recut {cursor behind : Cursor} {token : Token}
    (h : cursor.recut = (some token, behind)) : behind.recut = (some token, behind) := by
  cases hlast : cursor.last with
  | none =>
      rw [recut_of_last_none hlast] at h
      cases h
  | some start =>
      cases hplain : Cut.plain? start with
      | none =>
          simp [recut, hlast, hplain] at h
      | some plain =>
          rw [recut_of_last_some hlast hplain] at h
          cases h
          exact recut_take hplain

/-- Wherever a token has just been read: a token without a label is cut again to itself.  A
label with white space behind its colon is cut off, with the cursor right behind the colon,
and what is left is read as a query of its own.  Without such white space, a token that does
not end with a phrase is cut again to itself.  Whatever is cut again, a second time gives the
same. -/
theorem recut_of_next {query : Text} {moves : List Move} {token : Token} {after : Cursor}
    (h : ((ofQuery query).run moves).2.next = (some token, after)) :
    (token.isLabelled = false → after.recut = (some token, after)) ∧
      (∀ label body, token.split? = some (label, body) → label.gap ≠ [] →
        ∃ before rest behind,
          Text.trim query = before ++ (label.name ++ [':']) ++ rest ∧
            after.lastSpan.start = Text.byteLength before ∧
            after.recut = (some ⟨label.name ++ [':']⟩, behind) ∧
            Token.isLabelled ⟨label.name ++ [':']⟩ = false ∧
            behind.position = Text.byteLength (before ++ (label.name ++ [':'])) ∧
            behind.tokens = (ofQuery rest).tokens) ∧
      (∀ label body, token.split? = some (label, body) → label.gap = [] →
        (∀ phrase, ¬ token.Quotes phrase) → after.recut = (some token, after)) ∧
      ∃ plain behind, after.recut = (some plain, behind) ∧
        behind.recut = (some plain, behind) := by
  rcases run_ofQuery query moves with ⟨hquery, hplaced, -⟩
  generalize ((ofQuery query).run moves).2 = cursor at h hquery hplaced
  rcases next_eq_some h with ⟨cut, hcut, rfl, rfl⟩
  refine ⟨?_, ?_, ?_, ?_⟩
  · intro hlabel
    rw [Token.isLabelled_eq_isSome_split?, Option.isSome_eq_false_iff,
      Option.isNone_iff_eq_none] at hlabel
    exact recut_take (Token.plain?_of_split?_none hcut hlabel)
  · intro label body hsplit hgap
    rcases Token.exists_label_of_split? hcut hsplit with ⟨rest, hlabel, -, hstart, -⟩
    have hplain := Cut.plain?_label_of_gap hlabel hgap rest
    rw [← hstart] at hplain
    rcases exists_before_take hplaced.rest_suffix (Cut.divides_of_plain? hplain) with
      ⟨before, hwhole, hbegin, hposition⟩
    rw [hquery] at hwhole
    have hsuffix : label.gap ++ rest <:+ Text.trim query :=
      ⟨before ++ (label.name ++ [':']), hwhole.symm⟩
    exact ⟨before, label.gap ++ rest, _, hwhole, hbegin, recut_take hplain,
      Token.isLabelled_of_split?_none (Token.split?_name_colon hlabel), hposition,
      (tokens_ofQuery_rest hsuffix).symm⟩
  · intro label body hsplit hgap hphrase
    exact recut_take (Cut.plain?_of_no_gap hcut hsplit hgap hphrase)
  · rcases Cut.exists_plain?_of_token? hcut with ⟨plain, hplain⟩
    have hrecut : (cursor.take _ cut).recut = _ := recut_take hplain
    exact ⟨_, _, hrecut, recut_of_recut hrecut⟩

theorem recut_of_next_regrouped :
    ∃ after behind,
      ((ofQuery ['a', ':', ' ', 'b', ':', ' ', 'c']).run []).2.next =
          (some ⟨['a', ':', ' ', 'b', ':']⟩, after) ∧
        after.recut = (some ⟨['a', ':']⟩, behind) ∧ behind.position = 2 ∧
        behind.tokens = (ofQuery [' ', 'b', ':', ' ', 'c']).tokens ∧
        behind.recut = (some ⟨['a', ':']⟩, behind) := by
  have hnext : ((ofQuery ['a', ':', ' ', 'b', ':', ' ', 'c']).run []).2.next =
      (some ⟨['a', ':', ' ', 'b', ':']⟩, _) := rfl
  have hsplit : Token.split? ⟨['a', ':', ' ', 'b', ':']⟩ = some (⟨['a'], [' ']⟩, ['b', ':']) := rfl
  rcases recut_of_next hnext with ⟨-, hparted, -, plain, behind, hrecut, hagain⟩
  rcases hparted _ _ hsplit (by simp) with
    ⟨before, rest, other, hwhole, hbegin, hcut, -, hposition, htokens⟩
  have hbefore : before = [] := by
    cases before with
    | nil =>
        rfl
    | cons c before =>
        have hpos := Text.byteLength_pos (List.cons_ne_nil c before)
        rw [← hbegin] at hpos
        exact absurd hpos (by decide)
  subst hbefore
  have hsame : ['a', ':'] ++ [' ', 'b', ':', ' ', 'c'] = ['a', ':'] ++ rest := hwhole
  rw [← List.append_cancel_left hsame] at htokens
  rw [hcut] at hrecut
  cases hrecut
  exact ⟨_, behind, hnext, hcut, hposition, htokens, hagain⟩

end Cursor

end SearchQuery
