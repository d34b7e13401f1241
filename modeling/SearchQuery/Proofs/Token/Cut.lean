import SearchQuery.Proofs.Text.Words
import SearchQuery.Token.Basic
import SearchQuery.Token.Cut

/-!
# What a cut takes

Each way of cutting is said without the scan that does it: a label, a quoted
phrase and a bare word are stretches that end where something else begins.  It
follows when text added behind leaves a cut as it is, and that a token falls
into the same label and term when it is read off the query and when it stands
alone.
-/

namespace SearchQuery

namespace Text

def inQuotes (phrase : Text) : Text :=
  '"' :: phrase ++ ['"']

theorem inQuotes_append (phrase t : Text) :
    inQuotes phrase ++ t = '"' :: (phrase ++ '"' :: t) := by
  simp [inQuotes]

theorem utf8Size_quote : Char.utf8Size '"' = 1 := by
  decide

theorem byteLength_inQuotes (phrase : Text) :
    byteLength (inQuotes phrase) = 2 + byteLength phrase := by
  simp [inQuotes, utf8Size_quote]
  omega

theorem isBlank_eq_false_of_isAlphanumeric {c : Char} (h : isAlphanumeric c = true) :
    isBlank c = false :=
  isBlank_eq_false_of_isGraph (isGraph_of_isAlphanumeric h)

theorem isAlphanumeric_quote : isAlphanumeric '"' = false := by
  decide

theorem isAlphanumeric_colon : isAlphanumeric ':' = false := by
  decide

theorem isGraph_colon : isGraph ':' = true := by
  decide

theorem isGraph_quote : isGraph '"' = true := by
  decide

theorem isBlank_quote : isBlank '"' = false :=
  isBlank_eq_false_of_isGraph isGraph_quote

theorem opensOutside_inQuotes (phrase t : Text) :
    OpensOutside isBlank (inQuotes phrase ++ t) := by
  rw [inQuotes_append]
  exact opensOutside_cons.mpr isBlank_quote

end Text

/-!
## Labels
-/

namespace Label

/-- A label that can be written: it has a name of letters and digits, and nothing
but white space behind its colon. -/
structure WellFormed (label : Label) : Prop where
  name_ne_nil : label.name ≠ []
  name_alphanumeric : Text.Alphanumeric label.name
  gap_blank : Text.Blank label.gap

theorem text_append (label : Label) (t : Text) :
    label.text ++ t = label.name ++ ':' :: (label.gap ++ t) := by
  simp [text]

theorem text_eq (label : Label) : label.text = label.name ++ [':'] ++ label.gap := by
  simp [text]

theorem rest_suffix_of_read? {t rest : Text} {label : Label}
    (h : read? t = some (label, rest)) : rest <:+ t :=
  ⟨label.text, text_append_of_read? h⟩

theorem read?_eq_some_iff {t rest : Text} {label : Label} :
    read? t = some (label, rest) ↔
      label.WellFormed ∧ Text.OpensOutside Text.isBlank rest ∧ t = label.text ++ rest := by
  constructor
  · intro h
    have hwhole := text_append_of_read? h
    unfold read? at h
    split at h
    · next c name after hname hafter =>
        simp only [Option.some.injEq, Prod.mk.injEq] at h
        rcases h with ⟨rfl, rfl⟩
        refine ⟨⟨by simp, ?_, ?_⟩, Text.opensOutside_trimStart after, hwhole.symm⟩
        · intro d hd
          rw [← hname] at hd
          exact List.mem_takeWhile_imp hd
        · intro d hd
          exact List.mem_takeWhile_imp hd
    · cases h
  · intro h
    rcases h with ⟨hlabel, hrest, rfl⟩
    cases label with
    | mk name gap =>
        cases name with
        | nil =>
            exact absurd rfl hlabel.name_ne_nil
        | cons c name =>
            have hcolon : Text.OpensOutside Text.isAlphanumeric (':' :: (gap ++ rest)) :=
              Text.opensOutside_cons.mpr Text.isAlphanumeric_colon
            have htake := Text.takeWhile_append_of_all hlabel.name_alphanumeric hcolon
            have hdrop := Text.dropWhile_append_of_all hlabel.name_alphanumeric hcolon
            have hgap : (gap ++ rest).takeWhile Text.isBlank = gap :=
              Text.takeWhile_append_of_all hlabel.gap_blank hrest
            have hafter : Text.trimStart (gap ++ rest) = rest :=
              Text.dropWhile_append_of_all hlabel.gap_blank hrest
            rw [text_append]
            unfold read?
            rw [htake, hdrop]
            simp only [hgap, hafter]

theorem read?_append {t rest : Text} {label : Label} (tail : Text)
    (h : read? t = some (label, rest)) (hne : rest ≠ []) :
    read? (t ++ tail) = some (label, rest ++ tail) := by
  rcases read?_eq_some_iff.mp h with ⟨hlabel, hrest, rfl⟩
  rw [read?_eq_some_iff]
  refine ⟨hlabel, ?_, List.append_assoc _ _ _⟩
  exact (Text.opensOutside_append tail hne).mpr hrest

theorem read?_append_of_opensBlank {t tail : Text} (htail : Text.OpensBlank tail)
    (hlast : ∀ label, read? t ≠ some (label, [])) :
    read? (t ++ tail) = (read? t).map fun parts => (parts.1, parts.2 ++ tail) := by
  cases hread : read? t with
  | some parts =>
      have hne : parts.2 ≠ [] := by
        intro hnil
        apply hlast parts.1
        rw [hread, ← hnil]
      exact read?_append tail hread hne
  | none =>
      have halnum := htail.opensOutside fun _ => Text.isBlank_eq_false_of_isAlphanumeric
      unfold read? at hread ⊢
      rw [Text.takeWhile_append_of_opensOutside t halnum,
        Text.dropWhile_append_of_opensOutside t halnum]
      cases hname : t.takeWhile Text.isAlphanumeric with
      | nil =>
          rfl
      | cons c name =>
          rw [hname] at hread
          cases hafter : t.dropWhile Text.isAlphanumeric with
          | nil =>
              cases tail with
              | nil =>
                  rfl
              | cons b tail =>
                  have hb : b ≠ ':' := by
                    intro hcolon
                    subst hcolon
                    exact absurd (Text.opensBlank_cons.mp htail) (by decide)
                  simp [hb]
          | cons d after =>
              have hd : d ≠ ':' := by
                intro hcolon
                subst hcolon
                rw [hafter] at hread
                cases hread
              simp [hd]

theorem read?_cons_quote (t : Text) : read? ('"' :: t) = none := by
  simp [read?, Text.isAlphanumeric_quote]

end Label

namespace Cut

def extend (cut : Cut) (tail : Text) : Cut :=
  { cut with rest := cut.rest ++ tail }

@[simp] theorem extend_nil (cut : Cut) : cut.extend [] = cut := by
  simp [extend]

/-!
## Quoted phrases and bare words
-/

theorem quoted?_eq_some_iff {t : Text} {cut : Cut} :
    quoted? t = some cut ↔
      ∃ phrase, phrase ≠ [] ∧ '"' ∉ phrase ∧ cut.text = Text.inQuotes phrase ∧
        t = cut.text ++ cut.rest := by
  constructor
  · intro h
    have hwhole := (divides_of_quoted? h).whole
    unfold quoted? at h
    split at h
    · next t =>
        split at h
        · next c phrase d rest hphrase hrest =>
            simp only [Option.some.injEq] at h
            subst h
            refine ⟨c :: phrase, by simp, ?_, rfl, hwhole.symm⟩
            intro hmem
            rw [← hphrase] at hmem
            have hquote := List.mem_takeWhile_imp hmem
            simp at hquote
        · cases h
    · cases h
  · intro h
    rcases h with ⟨phrase, hne, hquote, htext, rfl⟩
    cases cut with
    | mk text rest =>
        cases phrase with
        | nil =>
            exact absurd rfl hne
        | cons c phrase =>
            have htake := Text.takeWhile_ne_append rest hquote
            have hdrop := Text.dropWhile_ne_append rest hquote
            simp only at htext
            subst htext
            rw [Text.inQuotes_append]
            unfold quoted?
            simp only [htake, hdrop]
            rfl

theorem quoted?_inQuotes {phrase : Text} (rest : Text) (hne : phrase ≠ [])
    (hquote : '"' ∉ phrase) :
    quoted? (Text.inQuotes phrase ++ rest) = some ⟨Text.inQuotes phrase, rest⟩ :=
  quoted?_eq_some_iff.mpr ⟨phrase, hne, hquote, rfl, rfl⟩

theorem quoted?_eq_none_of_head {t : Text} (h : '"' ∉ t.head?) : quoted? t = none := by
  cases hcut : quoted? t with
  | none =>
      rfl
  | some cut =>
      rcases quoted?_eq_some_iff.mp hcut with ⟨phrase, -, -, htext, rfl⟩
      rw [htext, Text.inQuotes_append] at h
      simp at h

theorem bare?_eq_some_iff {t : Text} {cut : Cut} :
    bare? t = some cut ↔
      cut.text ≠ [] ∧ (∀ c ∈ cut.text, Text.isGraph c = true) ∧
        Text.OpensOutside Text.isGraph cut.rest ∧ t = cut.text ++ cut.rest := by
  constructor
  · intro h
    have hcut := divides_of_bare? h
    unfold bare? at h
    split at h
    · cases h
    · next c word hword =>
        simp only [Option.some.injEq] at h
        subst h
        refine ⟨hcut.nonempty, ?_, Text.opensOutside_dropWhile _ _, hcut.whole.symm⟩
        intro d hd
        simp only [← hword] at hd
        exact List.mem_takeWhile_imp hd
  · intro h
    rcases h with ⟨hne, hgraph, hrest, rfl⟩
    cases cut with
    | mk text rest =>
        cases text with
        | nil =>
            exact absurd rfl hne
        | cons c word =>
            have htake := Text.takeWhile_append_of_all hgraph hrest
            have hdrop := Text.dropWhile_append_of_all hgraph hrest
            simp only at htake hdrop ⊢
            unfold bare?
            rw [htake, hdrop]

theorem bare?_append_of_opensBlank (t : Text) {tail : Text}
    (htail : Text.OpensBlank tail) :
    bare? (t ++ tail) = (bare? t).map fun cut => cut.extend tail := by
  have hgraph := htail.opensOutside fun _ => Text.isBlank_eq_false_of_isGraph
  unfold bare?
  rw [Text.takeWhile_append_of_opensOutside t hgraph,
    Text.dropWhile_append_of_opensOutside t hgraph]
  cases t.takeWhile Text.isGraph with
  | nil =>
      rfl
  | cons c word =>
      rfl

/-!
## Plain tokens
-/

theorem plain?_of_quoted?_none {t : Text} (h : quoted? t = none) :
    plain? t = bare? t := by
  simp [plain?, h]

theorem plain?_of_quote_not_mem {t : Text} (h : '"' ∉ t) : plain? t = bare? t := by
  have hhead : '"' ∉ t.head? := fun hmem => h (List.mem_of_mem_head? hmem)
  exact plain?_of_quoted?_none (quoted?_eq_none_of_head hhead)

theorem quoted?_or_bare?_of_plain? {t : Text} {cut : Cut} (h : plain? t = some cut) :
    quoted? t = some cut ∨ quoted? t = none ∧ bare? t = some cut := by
  cases hquoted : quoted? t with
  | some found =>
      rw [plain?, hquoted] at h
      exact Or.inl h
  | none =>
      rw [plain?_of_quoted?_none hquoted] at h
      exact Or.inr ⟨rfl, h⟩

theorem plain?_inQuotes {phrase : Text} (rest : Text) (hne : phrase ≠ [])
    (hquote : '"' ∉ phrase) :
    plain? (Text.inQuotes phrase ++ rest) = some ⟨Text.inQuotes phrase, rest⟩ := by
  simp [plain?, quoted?_inQuotes rest hne hquote]

theorem plain?_isSome_of_isGraph {c : Char} (t : Text) (h : Text.isGraph c = true) :
    (plain? (c :: t)).isSome = true := by
  unfold plain?
  split
  · rfl
  · exact bare?_isSome_of_isGraph t h

theorem head_isGraph_of_plain? {t : Text} {cut : Cut} (h : plain? t = some cut) :
    ∃ c tail, t = c :: tail ∧ Text.isGraph c = true := by
  rcases quoted?_or_bare?_of_plain? h with hquoted | ⟨-, hbare⟩
  · rcases quoted?_eq_some_iff.mp hquoted with ⟨phrase, -, -, htext, rfl⟩
    rw [htext, Text.inQuotes_append]
    exact ⟨'"', _, rfl, Text.isGraph_quote⟩
  · rcases bare?_eq_some_iff.mp hbare with ⟨hne, hgraph, -, rfl⟩
    rcases List.exists_cons_of_ne_nil hne with ⟨c, word, hword⟩
    rw [hword] at hgraph ⊢
    exact ⟨c, word ++ cut.rest, rfl, hgraph c List.mem_cons_self⟩

theorem plain?_append_of_opensBlank {t tail : Text} (hquote : '"' ∉ t)
    (htail : Text.OpensBlank tail) :
    plain? (t ++ tail) = (plain? t).map fun cut => cut.extend tail := by
  have hhead : '"' ∉ (t ++ tail).head? := by
    cases t with
    | nil =>
        intro h
        rcases htail with ⟨b, hb, hblank⟩
        have hbq := Option.mem_unique hb h
        subst hbq
        exact absurd hblank (by decide)
    | cons c t =>
        exact fun h => hquote (List.mem_of_mem_head? h)
  rw [plain?_of_quote_not_mem hquote, plain?_of_quoted?_none (quoted?_eq_none_of_head hhead)]
  exact bare?_append_of_opensBlank t htail

/-!
## Plain tokens in place of a label
-/

theorem plain?_label {label : Label} (hlabel : label.WellFormed) (t : Text) :
    plain? (label.text ++ t) = bare? (label.text ++ t) := by
  apply plain?_of_quoted?_none
  apply quoted?_eq_none_of_head
  rw [Label.text_append]
  cases hname : label.name with
  | nil =>
      exact absurd hname hlabel.name_ne_nil
  | cons c name =>
      have hc : Text.isAlphanumeric c = true := by
        apply hlabel.name_alphanumeric c
        rw [hname]
        simp
      intro hquote
      have hcq : c = '"' := by simpa using hquote
      rw [hcq, Text.isAlphanumeric_quote] at hc
      cases hc

theorem isGraph_of_mem_label {label : Label} (hlabel : label.WellFormed) {c : Char}
    (hc : c ∈ label.name ++ [':']) : Text.isGraph c = true := by
  rcases List.mem_append.mp hc with hname | hcolon
  · exact Text.isGraph_of_isAlphanumeric (hlabel.name_alphanumeric c hname)
  · rw [List.mem_singleton.mp hcolon]
    exact Text.isGraph_colon

theorem plain?_label_of_gap {label : Label} (hlabel : label.WellFormed)
    (hgap : label.gap ≠ []) (t : Text) :
    plain? (label.text ++ t) = some ⟨label.name ++ [':'], label.gap ++ t⟩ := by
  rw [plain?_label hlabel, bare?_eq_some_iff]
  refine ⟨by simp, fun c hc => isGraph_of_mem_label hlabel hc, ?_, ?_⟩
  · have hblank := Text.opensBlank_append_of_blank t hgap hlabel.gap_blank
    exact hblank.opensOutside fun _ => Text.isBlank_eq_false_of_isGraph
  · rw [Label.text_eq, List.append_assoc]

theorem plain?_label_of_no_gap {label : Label} (hlabel : label.WellFormed)
    (hgap : label.gap = []) {word t : Text} (hword : ∀ c ∈ word, Text.isGraph c = true)
    (ht : Text.OpensOutside Text.isGraph t) :
    plain? (label.text ++ (word ++ t)) = some ⟨label.text ++ word, t⟩ := by
  have htext : label.text = label.name ++ [':'] := by
    simp [Label.text, hgap]
  rw [plain?_label hlabel, bare?_eq_some_iff]
  refine ⟨by simp [htext], ?_, ht, by simp⟩
  intro c hc
  rcases List.mem_append.mp hc with hlabelled | hc
  · rw [htext] at hlabelled
    exact isGraph_of_mem_label hlabel hlabelled
  · exact hword c hc

/-!
## Tokens
-/

theorem labelled?_eq_some_iff {t : Text} {cut : Cut} :
    labelled? t = some cut ↔
      ∃ label rest plain, Label.read? t = some (label, rest) ∧ plain? rest = some plain ∧
        cut = ⟨label.text ++ plain.text, plain.rest⟩ := by
  unfold labelled?
  constructor
  · intro h
    split at h
    · cases h
    · next label rest hread =>
        rcases Option.map_eq_some_iff.mp h with ⟨plain, hplain, rfl⟩
        exact ⟨label, rest, plain, hread, hplain, rfl⟩
  · intro h
    rcases h with ⟨label, rest, plain, hread, hplain, rfl⟩
    simp [hread, hplain]

theorem token?_of_labelled? {t : Text} {cut : Cut} (h : labelled? t = some cut) :
    token? t = some cut := by
  simp [token?, h]

theorem token?_of_labelled?_none {t : Text} (h : labelled? t = none) :
    token? t = plain? t := by
  simp [token?, h]

theorem labelled?_or_plain?_of_token? {t : Text} {cut : Cut} (h : token? t = some cut) :
    labelled? t = some cut ∨ labelled? t = none ∧ plain? t = some cut := by
  cases hlabelled : labelled? t with
  | some found =>
      rw [token?_of_labelled? hlabelled] at h
      exact Or.inl h
  | none =>
      rw [token?_of_labelled?_none hlabelled] at h
      exact Or.inr ⟨rfl, h⟩

theorem labelled?_cons_quote (t : Text) : labelled? ('"' :: t) = none := by
  simp [labelled?, Label.read?_cons_quote]

theorem token?_inQuotes {phrase : Text} (rest : Text) (hne : phrase ≠ [])
    (hquote : '"' ∉ phrase) :
    token? (Text.inQuotes phrase ++ rest) = some ⟨Text.inQuotes phrase, rest⟩ := by
  have hlabelled : labelled? (Text.inQuotes phrase ++ rest) = none := by
    rw [Text.inQuotes_append]
    exact labelled?_cons_quote _
  rw [token?_of_labelled?_none hlabelled]
  exact plain?_inQuotes rest hne hquote

theorem token?_isSome_of_isGraph {c : Char} (t : Text) (h : Text.isGraph c = true) :
    (token? (c :: t)).isSome = true := by
  unfold token?
  split
  · rfl
  · exact plain?_isSome_of_isGraph t h

theorem exists_plain?_of_token? {t : Text} {cut : Cut} (h : token? t = some cut) :
    ∃ plain, plain? t = some plain :=
  Option.isSome_iff_exists.mp (plain?_isSome_of_token? h)

theorem exists_token?_of_plain? {t : Text} {plain : Cut} (h : plain? t = some plain) :
    ∃ cut, token? t = some cut := by
  rcases head_isGraph_of_plain? h with ⟨c, tail, rfl, hc⟩
  exact Option.isSome_iff_exists.mp (token?_isSome_of_isGraph tail hc)

@[simp] theorem token?_nil : token? [] = none := rfl

theorem token?_eq_none_iff {t : Text} :
    token? t = none ↔ Text.OpensOutside Text.isGraph t := by
  cases t with
  | nil =>
      simp [token?, labelled?, Label.read?, plain?, quoted?, bare?]
  | cons c t =>
      rw [Text.opensOutside_cons]
      constructor
      · intro h
        cases hc : Text.isGraph c with
        | false =>
            rfl
        | true =>
            have hsome := token?_isSome_of_isGraph t hc
            rw [h] at hsome
            cases hsome
      · intro hc
        cases hcut : token? (c :: t) with
        | none =>
            rfl
        | some cut =>
            rcases exists_plain?_of_token? hcut with ⟨plain, hplain⟩
            rcases head_isGraph_of_plain? hplain with ⟨d, tail, hcons, hd⟩
            simp only [List.cons.injEq] at hcons
            rw [hcons.1, hd] at hc
            cases hc

theorem labelled?_append_of_opensBlank {t tail : Text} (hquote : '"' ∉ t)
    (htail : Text.OpensBlank tail) (hlast : ∀ label, Label.read? t ≠ some (label, [])) :
    labelled? (t ++ tail) = (labelled? t).map fun cut => cut.extend tail := by
  unfold labelled?
  rw [Label.read?_append_of_opensBlank htail hlast]
  cases hread : Label.read? t with
  | none =>
      rfl
  | some parts =>
      have hrest : '"' ∉ parts.2 :=
        fun hmem => hquote ((Label.rest_suffix_of_read? hread).subset hmem)
      simp only [Option.map_some, plain?_append_of_opensBlank hrest htail]
      cases plain? parts.2 with
      | none =>
          rfl
      | some plain =>
          rfl

/-- Where no double quote stands, white space behind a text leaves its tokens as
they are, but for a label that stands last. -/
theorem token?_append_of_opensBlank {t tail : Text} (hquote : '"' ∉ t)
    (htail : Text.OpensBlank tail) (hlast : ∀ label, Label.read? t ≠ some (label, [])) :
    token? (t ++ tail) = (token? t).map fun cut => cut.extend tail := by
  unfold token?
  rw [labelled?_append_of_opensBlank hquote htail hlast,
    plain?_append_of_opensBlank hquote htail]
  cases labelled? t with
  | none =>
      rfl
  | some cut =>
      rfl

/-!
## What follows a cut
-/

theorem rest_opensOutside_of_plain? {t : Text} {cut : Cut} (hquote : '"' ∉ t)
    (h : plain? t = some cut) : Text.OpensOutside Text.isGraph cut.rest := by
  rw [plain?_of_quote_not_mem hquote] at h
  exact (bare?_eq_some_iff.mp h).2.2.1

theorem rest_opensOutside_of_token? {t : Text} {cut : Cut} (hquote : '"' ∉ t)
    (h : token? t = some cut) : Text.OpensOutside Text.isGraph cut.rest := by
  rcases labelled?_or_plain?_of_token? h with hlabelled | ⟨-, hplain⟩
  · rcases labelled?_eq_some_iff.mp hlabelled with ⟨label, rest, plain, hread, hplain, rfl⟩
    have hrest : '"' ∉ rest :=
      fun hmem => hquote ((Label.rest_suffix_of_read? hread).subset hmem)
    have hopens := rest_opensOutside_of_plain? hrest hplain
    exact hopens
  · exact rest_opensOutside_of_plain? hquote hplain

end Cut

end SearchQuery
