import SearchQuery.Proofs.Token.Scan

/-!
# Tokens on their own

Where a token ends can depend on text that is no part of it: a double quote opens
a phrase if there is another one somewhere behind it, and a colon ends a label if
there is a word somewhere behind it.  A token that was cut is a token also when
nothing else is there, so nothing of what followed it has to be kept with it.
-/

namespace SearchQuery

namespace Cut

theorem quoted?_append {t : Text} {cut : Cut} (tail : Text) (h : quoted? t = some cut) :
    quoted? (t ++ tail) = some (cut.extend tail) := by
  rcases quoted?_eq_some_iff.mp h with ⟨phrase, hne, hquote, htext, rfl⟩
  exact quoted?_eq_some_iff.mpr ⟨phrase, hne, hquote, htext, List.append_assoc _ _ _⟩

/-!
## What was cut is cut again
-/

theorem plain?_text {t : Text} {cut : Cut} (h : plain? t = some cut) :
    plain? cut.text = some ⟨cut.text, []⟩ := by
  rcases quoted?_or_bare?_of_plain? h with hquoted | ⟨hquoted, hbare⟩
  · rcases quoted?_eq_some_iff.mp hquoted with ⟨phrase, hne, hquote, htext, -⟩
    have hphrase := plain?_inQuotes [] hne hquote
    rwa [List.append_nil, ← htext] at hphrase
  · rcases bare?_eq_some_iff.mp hbare with ⟨hne, hgraph, -, rfl⟩
    -- A phrase at the start of the word would have been one in the query.
    have hnone : quoted? cut.text = none := by
      cases hphrase : quoted? cut.text with
      | none =>
          rfl
      | some phraseCut =>
          rw [quoted?_append cut.rest hphrase] at hquoted
          cases hquoted
    rw [plain?_of_quoted?_none hnone, bare?_eq_some_iff]
    exact ⟨hne, hgraph, Text.opensOutside_nil _, (List.append_nil _).symm⟩

theorem labelled?_of_split?_none {t : Text} (h : Token.split? ⟨t⟩ = none) :
    labelled? t = none := by
  cases hlabelled : labelled? t with
  | none =>
      rfl
  | some cut =>
      rcases labelled?_eq_some_iff.mp hlabelled with ⟨label, rest, plain, hread, hplain, -⟩
      rcases Label.read?_eq_some_iff.mp hread with ⟨hlabel, hopens, hwhole⟩
      rcases head_isGraph_of_plain? hplain with ⟨c, tail, hrest, -⟩
      have hsplit : Token.split? ⟨t⟩ = some (label, rest) :=
        Token.split?_eq_some_iff.mpr ⟨hlabel, by simp [hrest], hopens, hwhole⟩
      rw [h] at hsplit
      cases hsplit

theorem token?_text {t : Text} {cut : Cut} (h : token? t = some cut) :
    token? cut.text = some ⟨cut.text, []⟩ := by
  rcases exists_scans_of_token? h with ⟨label, plain, hscans, rfl⟩
  cases hscans with
  | labelled hread hplain =>
      rename_i label rest
      rcases Label.read?_eq_some_iff.mp hread with ⟨hlabel, hopens, -⟩
      have hdivides := divides_of_plain? hplain
      rw [← hdivides.whole, Text.opensOutside_append _ hdivides.nonempty] at hopens
      have hagain : Label.read? (label.text ++ plain.text) = some (label, plain.text) :=
        Label.read?_eq_some_iff.mpr ⟨hlabel, hopens, rfl⟩
      exact token?_of_labelled?
        (labelled?_eq_some_iff.mpr ⟨label, plain.text, _, hagain, plain?_text hplain, rfl⟩)
  | plain hlabelled hplain =>
      have hnone := labelled?_of_split?_none (Token.split?_of_labelled?_none hlabelled hplain)
      exact (token?_of_labelled?_none hnone).trans (plain?_text hplain)

/-!
## No white space at the ends of a token
-/

theorem opensOutside_of_token? {t : Text} {cut : Cut} (h : token? t = some cut) :
    Text.OpensOutside Text.isBlank cut.text := by
  rcases exists_plain?_of_token? (token?_text h) with ⟨plain, hplain⟩
  rcases head_isGraph_of_plain? hplain with ⟨c, tail, htext, hc⟩
  rw [htext]
  exact Text.opensOutside_cons.mpr (Text.isBlank_eq_false_of_isGraph hc)

theorem closesOutside_of_plain? {t : Text} {cut : Cut} (h : plain? t = some cut) :
    Text.OpensOutside Text.isBlank cut.text.reverse := by
  rcases quoted?_or_bare?_of_plain? h with hquoted | ⟨-, hbare⟩
  · rcases quoted?_eq_some_iff.mp hquoted with ⟨phrase, -, -, htext, -⟩
    rw [htext]
    simp [Text.inQuotes, Text.isBlank_quote]
  · exact Text.closesOutside_of_isGraph (bare?_eq_some_iff.mp hbare).2.1

theorem closesOutside_of_token? {t : Text} {cut : Cut} (h : token? t = some cut) :
    Text.OpensOutside Text.isBlank cut.text.reverse := by
  rcases exists_scans_of_token? h with ⟨label, plain, hscans, rfl⟩
  have hplain : ∃ t, plain? t = some plain := by
    cases hscans with
    | labelled hread hplain =>
        exact ⟨_, hplain⟩
    | plain hlabelled hplain =>
        exact ⟨t, hplain⟩
  rcases hplain with ⟨t, hplain⟩
  have hne : plain.text.reverse ≠ [] := by
    simpa using (divides_of_plain? hplain).nonempty
  rw [List.reverse_append, Text.opensOutside_append _ hne]
  exact closesOutside_of_plain? hplain

theorem trim_text_of_token? {t : Text} {cut : Cut} (h : token? t = some cut) :
    Text.trim cut.text = cut.text := by
  have htrim := Text.trim_surrounded Text.blank_nil Text.blank_nil (opensOutside_of_token? h)
    (closesOutside_of_token? h)
  simpa using htrim

end Cut

namespace Cursor

/-- A query that is the text of a token is read as that token, and there is nothing behind
it. -/
theorem next_ofQuery_raw {cursor after : Cursor} {token : Token}
    (h : cursor.next = (some token, after)) :
    ∃ first, (ofQuery token.raw).next = (some token, first) ∧
      first.next = (none, first) ∧ (ofQuery token.raw).tokens = [token] := by
  rcases next_eq_some h with ⟨cut, hcut, rfl, rfl⟩
  have hstart : Text.trimStart (ofQuery cut.text).rest = cut.text := by
    show Text.trimStart (Text.trim cut.text) = cut.text
    rw [Cut.trim_text_of_token? hcut, Text.trimStart_eq_self (Cut.opensOutside_of_token? hcut)]
  have hagain : Cut.token? (Text.trimStart (ofQuery cut.text).rest) = some ⟨cut.text, []⟩ := by
    rw [hstart]
    exact Cut.token?_text hcut
  have hfirst := next_of_token? hagain
  have hnone : ((ofQuery cut.text).take
      (Text.trimStart (ofQuery cut.text).rest) ⟨cut.text, []⟩).next = (none, _) :=
    next_of_token?_none Cut.token?_nil
  refine ⟨_, hfirst, hnone, ?_⟩
  rw [tokens, readAll_of_next_some hfirst, readAll_of_next_none hnone]
  rfl

theorem next_ofQuery_raw_unclosed :
    ∃ after first,
      (ofQuery ['f', ':', ' ', '"', 'a', ' ', 'b']).next =
          (some ⟨['f', ':', ' ', '"', 'a']⟩, after) ∧
        (ofQuery ['f', ':', ' ', '"', 'a']).next =
          (some ⟨['f', ':', ' ', '"', 'a']⟩, first) ∧
        first.next = (none, first) ∧
        (ofQuery ['f', ':', ' ', '"', 'a']).tokens = [⟨['f', ':', ' ', '"', 'a']⟩] := by
  have hnext : (ofQuery ['f', ':', ' ', '"', 'a', ' ', 'b']).next =
      (some ⟨['f', ':', ' ', '"', 'a']⟩, _) := rfl
  rcases next_ofQuery_raw hnext with ⟨first, hfirst, hnone, htokens⟩
  exact ⟨_, first, hnext, hfirst, hnone, htokens⟩

end Cursor

end SearchQuery
