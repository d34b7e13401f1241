import SearchQuery.Proofs.Token.Cut

/-!
# The parts of a token

A token has a label when its text is a label with something behind it.  For a
token that was read, this is the label that it was read with, and its body is
the plain token that was read behind that label: what follows the token in the
query is of no account.
-/

namespace SearchQuery

namespace Token

theorem split?_eq_some_iff {raw body : Text} {label : Label} :
    split? ⟨raw⟩ = some (label, body) ↔
      label.WellFormed ∧ body ≠ [] ∧ Text.OpensOutside Text.isBlank body ∧
        raw = label.text ++ body := by
  unfold split?
  rw [Option.filter_eq_some_iff, Label.read?_eq_some_iff]
  constructor
  · intro h
    rcases h with ⟨⟨hlabel, hbody, hraw⟩, hne⟩
    exact ⟨hlabel, by simpa using hne, hbody, hraw⟩
  · intro h
    rcases h with ⟨hlabel, hne, hbody, hraw⟩
    exact ⟨⟨hlabel, hbody, hraw⟩, by simpa using hne⟩

theorem split?_cons_quote (t : Text) : split? ⟨'"' :: t⟩ = none := by
  simp [split?, Label.read?_cons_quote]

/-- A name and a colon are a label with nothing behind it, and so no label. -/
theorem split?_name_colon {label : Label} (hlabel : label.WellFormed) :
    split? ⟨label.name ++ [':']⟩ = none := by
  have hread : Label.read? (label.name ++ [':']) = some (⟨label.name, []⟩, []) := by
    rw [Label.read?_eq_some_iff]
    exact ⟨⟨hlabel.name_ne_nil, hlabel.name_alphanumeric, Text.blank_nil⟩,
      Text.opensOutside_nil _, by simp [Label.text]⟩
  simp [split?, hread]

theorem body_of_split? {token : Token} {label : Label} {body : Text}
    (h : token.split? = some (label, body)) : token.body = body := by
  simp [Token.body, h]

theorem body_of_split?_none {token : Token} (h : token.split? = none) :
    token.body = token.raw := by
  simp [Token.body, h]

theorem label?_of_split? {token : Token} {label : Label} {body : Text}
    (h : token.split? = some (label, body)) : token.label? = some label.name := by
  simp [Token.label?, h]

theorem label?_of_split?_none {token : Token} (h : token.split? = none) :
    token.label? = none := by
  simp [Token.label?, h]

theorem isLabelled_eq_isSome_split? (token : Token) :
    token.isLabelled = token.split?.isSome := by
  simp [isLabelled, Token.label?]

theorem isLabelled_of_split? {token : Token} {parts : Label × Text}
    (h : token.split? = some parts) : token.isLabelled = true := by
  rw [isLabelled_eq_isSome_split?, h]
  rfl

theorem isLabelled_of_split?_none {token : Token} (h : token.split? = none) :
    token.isLabelled = false := by
  rw [isLabelled_eq_isSome_split?, h]
  rfl

theorem isLabelled_inQuotes (phrase : Text) :
    isLabelled ⟨Text.inQuotes phrase⟩ = false :=
  isLabelled_of_split?_none (split?_cons_quote _)

@[simp] theorem dropQuote_cons_quote (t : Text) : dropQuote ('"' :: t) = t := rfl

@[simp] theorem unquote_inQuotes (phrase : Text) :
    unquote (Text.inQuotes phrase) = phrase := by
  have hlength : ¬ (Text.inQuotes phrase).length < 2 := by
    simp [Text.inQuotes]
  rw [unquote, if_neg hlength]
  simp [Text.inQuotes]

structure Quotes (token : Token) (phrase : Text) : Prop where
  body_eq : token.body = Text.inQuotes phrase
  phrase_ne_nil : phrase ≠ []
  quote_not_mem : '"' ∉ phrase

/-!
## Reading and taking apart agree
-/

theorem split?_of_labelled? {t : Text} {cut : Cut} (h : Cut.labelled? t = some cut) :
    ∃ label rest plain, Label.read? t = some (label, rest) ∧
      Cut.plain? rest = some plain ∧ cut = ⟨label.text ++ plain.text, plain.rest⟩ ∧
      split? ⟨cut.text⟩ = some (label, plain.text) := by
  rcases Cut.labelled?_eq_some_iff.mp h with ⟨label, rest, plain, hread, hplain, rfl⟩
  refine ⟨label, rest, plain, hread, hplain, rfl, ?_⟩
  rcases Label.read?_eq_some_iff.mp hread with ⟨hlabel, hopens, -⟩
  have hdivides := Cut.divides_of_plain? hplain
  rw [← hdivides.whole] at hopens
  rw [split?_eq_some_iff]
  refine ⟨hlabel, hdivides.nonempty, ?_, rfl⟩
  exact (Text.opensOutside_append _ hdivides.nonempty).mp hopens

theorem split?_of_labelled?_none {t : Text} {cut : Cut}
    (hlabelled : Cut.labelled? t = none) (hplain : Cut.plain? t = some cut) :
    split? ⟨cut.text⟩ = none := by
  rcases Cut.quoted?_or_bare?_of_plain? hplain with hquoted | ⟨-, hbare⟩
  · rcases Cut.quoted?_eq_some_iff.mp hquoted with ⟨phrase, -, -, htext, -⟩
    rw [htext]
    exact split?_cons_quote _
  · rcases Cut.bare?_eq_some_iff.mp hbare with ⟨-, hgraph, -, rfl⟩
    cases hsplit : split? ⟨cut.text⟩ with
    | none =>
        rfl
    | some parts =>
        -- A label inside the word would have been read, with the rest of the word behind it.
        rcases split?_eq_some_iff.mp hsplit with ⟨hlabel, hne, hopens, htext⟩
        have hread : Label.read? cut.text = some parts :=
          Label.read?_eq_some_iff.mpr ⟨hlabel, hopens, htext⟩
        have hread' := Label.read?_append cut.rest hread hne
        rcases List.exists_cons_of_ne_nil hne with ⟨c, body, hbody⟩
        have hc : Text.isGraph c = true := by
          apply hgraph c
          rw [htext, hbody]
          simp
        rcases Option.isSome_iff_exists.mp
          (Cut.plain?_isSome_of_isGraph (body ++ cut.rest) hc) with ⟨plain, hplain'⟩
        rw [hbody] at hread'
        have hlabelled' := Cut.labelled?_eq_some_iff.mpr
          ⟨parts.1, _, plain, hread', hplain', rfl⟩
        rw [hlabelled] at hlabelled'
        cases hlabelled'

theorem plain?_of_split?_none {t : Text} {cut : Cut} (h : Cut.token? t = some cut)
    (hsplit : split? ⟨cut.text⟩ = none) : Cut.plain? t = some cut := by
  rcases Cut.labelled?_or_plain?_of_token? h with hlabelled | ⟨-, hplain⟩
  · rcases split?_of_labelled? hlabelled with ⟨label, rest, plain, -, -, -, hparts⟩
    rw [hsplit] at hparts
    cases hparts
  · exact hplain

theorem exists_label_of_split? {t body : Text} {cut : Cut} {label : Label}
    (h : Cut.token? t = some cut) (hsplit : split? ⟨cut.text⟩ = some (label, body)) :
    ∃ rest, label.WellFormed ∧ cut.text = label.text ++ body ∧ t = label.text ++ rest ∧
      Cut.plain? rest = some ⟨body, cut.rest⟩ := by
  rcases Cut.labelled?_or_plain?_of_token? h with hlabelled | ⟨hlabelled, hplain⟩
  · rcases split?_of_labelled? hlabelled with ⟨read, rest, plain, hread, hplain, rfl, hparts⟩
    rw [hsplit] at hparts
    cases hparts
    rcases Label.read?_eq_some_iff.mp hread with ⟨hlabel, -, hwhole⟩
    exact ⟨rest, hlabel, rfl, hwhole, hplain⟩
  · rw [split?_of_labelled?_none hlabelled hplain] at hsplit
    cases hsplit

end Token

end SearchQuery
