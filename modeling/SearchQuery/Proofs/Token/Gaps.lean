import SearchQuery.Proofs.Text.Gaps
import SearchQuery.Proofs.Token.Parts

/-!
# Cutting a text without double quotes

Where no double quote stands, a plain token is the next word, and a token is that
word as well unless the word is a label alone and a word stands behind it: then
it is the two of them and all the white space between.  So the same tokens are
cut off texts with the same words, but for the white space inside of them.
-/

namespace SearchQuery

namespace Text

/-- The first word is a label alone, and there is a word behind it. -/
structure Labels (t : Text) : Prop where
  bare_label : IsBareLabel (firstWord t)
  next_ne_nil : firstWord (behindWord t) ≠ []

def compound (t : Text) : Text :=
  firstWord t ++ firstGap t ++ firstWord (behindWord t)

theorem quote_not_mem_trimStart {t : Text} (h : '"' ∉ t) : '"' ∉ trimStart t :=
  fun hmem => h ((List.dropWhile_suffix isBlank).subset hmem)

theorem quote_not_mem_behindWord {t : Text} (h : '"' ∉ t) : '"' ∉ behindWord t :=
  fun hmem => quote_not_mem_trimStart h ((List.dropWhile_suffix isGraph).subset hmem)

theorem quote_not_mem_behindWords {t : Text} (h : '"' ∉ t) (n : Nat) : '"' ∉ behindWords t n := by
  induction n generalizing t with
  | zero =>
      exact h
  | succ n ih =>
      exact ih (quote_not_mem_behindWord h)

theorem labels_congr {s t : Text} (h : words s = words t) : Labels s ↔ Labels t := by
  have hfirst := firstWord_congr h
  have hnext := firstWord_congr (words_behindWord_congr h)
  constructor
  · intro hlabels
    exact ⟨hfirst ▸ hlabels.bare_label, hnext ▸ hlabels.next_ne_nil⟩
  · intro hlabels
    exact ⟨hfirst ▸ hlabels.bare_label, hnext ▸ hlabels.next_ne_nil⟩

end Text

namespace Cut

variable {t : Text}

theorem plain?_trimStart (hquote : '"' ∉ t) (hne : Text.firstWord t ≠ []) :
    plain? (Text.trimStart t) = some ⟨Text.firstWord t, Text.behindWord t⟩ := by
  rw [plain?_of_quote_not_mem (Text.quote_not_mem_trimStart hquote), bare?_eq_some_iff]
  exact ⟨hne, fun c hc => Text.isGraph_of_mem_firstWord hc, Text.behindWord_opensOutside t,
    (Text.firstWord_append_behindWord t).symm⟩

theorem token?_trimStart_of_labels (hquote : '"' ∉ t) (h : Text.Labels t) :
    token? (Text.trimStart t) =
      some ⟨Text.compound t, Text.behindWord (Text.behindWord t)⟩ := by
  rcases h.bare_label with ⟨name, hname, halphanumeric, hword⟩
  have htext : Label.text ⟨name, Text.firstGap t⟩ = Text.firstWord t ++ Text.firstGap t := by
    rw [Label.text_eq, hword]
  have hread : Label.read? (Text.trimStart t) =
      some (⟨name, Text.firstGap t⟩, Text.trimStart (Text.behindWord t)) := by
    rw [Label.read?_eq_some_iff]
    refine ⟨⟨hname, halphanumeric, Text.blank_firstGap t⟩, Text.opensOutside_trimStart _, ?_⟩
    rw [htext, List.append_assoc, Text.firstGap_append_trimStart, Text.firstWord_append_behindWord]
  have hplain := plain?_trimStart (Text.quote_not_mem_behindWord hquote) h.next_ne_nil
  apply token?_of_labelled?
  rw [labelled?_eq_some_iff]
  refine ⟨_, _, _, hread, hplain, ?_⟩
  rw [htext]
  rfl

theorem token?_trimStart_of_word (hquote : '"' ∉ t) (hne : Text.firstWord t ≠ [])
    (h : ¬ Text.Labels t) :
    token? (Text.trimStart t) = some ⟨Text.firstWord t, Text.behindWord t⟩ := by
  have hplain := plain?_trimStart hquote hne
  cases hlabelled : labelled? (Text.trimStart t) with
  | none =>
      rw [token?_of_labelled?_none hlabelled, hplain]
  | some cut =>
      rw [token?_of_labelled? hlabelled, ← hplain]
      rcases labelled?_eq_some_iff.mp hlabelled with ⟨label, rest, body, hread, hbody, rfl⟩
      rcases Label.read?_eq_some_iff.mp hread with ⟨hlabel, hrest, htext⟩
      have hquote' : '"' ∉ rest := by
        intro hmem
        apply Text.quote_not_mem_trimStart hquote
        rw [htext]
        exact List.mem_append_right _ hmem
      rw [plain?_of_quote_not_mem hquote'] at hbody
      rcases bare?_eq_some_iff.mp hbody with ⟨hbodyne, hgraph, hopens, rfl⟩
      by_cases hgap : label.gap = []
      · rw [htext, plain?_label_of_no_gap hlabel hgap hgraph hopens]
      · -- The label stands alone, so it would have been read together with the next word.
        rw [htext, plain?_label_of_gap hlabel hgap, Option.some.injEq, Cut.mk.injEq] at hplain
        rcases hplain with ⟨hword, hbehind⟩
        have hlabels : Text.Labels t := by
          constructor
          · exact ⟨label.name, hlabel.name_ne_nil, hlabel.name_alphanumeric, hword.symm⟩
          · rw [← hbehind, Text.firstWord,
              Text.trimStart_append_of_blank _ hlabel.gap_blank, Text.trimStart_eq_self hrest,
              Text.takeWhile_append_of_all hgraph hopens]
            exact hbodyne
        exact absurd hlabels h

theorem token?_trimStart_of_no_word (h : Text.firstWord t = []) :
    token? (Text.trimStart t) = none :=
  token?_eq_none_iff.mpr (Text.takeWhile_eq_nil_iff.mp h)

end Cut

/-!
## The white space inside of a token
-/

namespace Token

/-- Two tokens with the same label and the same body, whatever white space stands between. -/
def Respaced (token other : Token) : Prop :=
  ∃ name gap gap' body, token.split? = some (⟨name, gap⟩, body) ∧
    other.split? = some (⟨name, gap'⟩, body)

theorem split?_compound {t : Text} {name : Text} (h : Text.Labels t)
    (hname : Text.firstWord t = name ++ [':']) :
    split? ⟨Text.compound t⟩ =
      some (⟨name, Text.firstGap t⟩, Text.firstWord (Text.behindWord t)) := by
  rcases h.bare_label with ⟨other, hne, halphanumeric, hother⟩
  have hsame : other = name := List.append_cancel_right (hother.symm.trans hname)
  subst hsame
  rw [split?_eq_some_iff]
  refine ⟨⟨hne, halphanumeric, Text.blank_firstGap t⟩, h.next_ne_nil, ?_, ?_⟩
  · exact Text.opensOutside_of_isGraph fun c hc => Text.isGraph_of_mem_firstWord hc
  · rw [Label.text_eq, ← hname]
    rfl

theorem split?_compound_of_words {s t : Text} {name : Text}
    (hwords : Text.words s = Text.words t) (h : Text.Labels s)
    (hname : Text.firstWord s = name ++ [':']) :
    split? ⟨Text.compound t⟩ =
      some (⟨name, Text.firstGap t⟩, Text.firstWord (Text.behindWord s)) := by
  rw [Text.firstWord_congr hwords] at hname
  rw [split?_compound ((Text.labels_congr hwords).mp h) hname,
    Text.firstWord_congr (Text.words_behindWord_congr hwords)]

theorem respaced_compound {s t : Text} (hwords : Text.words s = Text.words t)
    (h : Text.Labels s) : Respaced ⟨Text.compound s⟩ ⟨Text.compound t⟩ := by
  rcases h.bare_label with ⟨name, -, -, hname⟩
  exact ⟨name, _, _, _, split?_compound h hname, split?_compound_of_words hwords h hname⟩

end Token

end SearchQuery
