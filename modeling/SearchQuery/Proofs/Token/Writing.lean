import Mathlib.Data.List.Forall2
import SearchQuery.Proofs.Token.Cursor
import SearchQuery.Proofs.Token.Parts

/-!
# Writing a query

A list of terms, each with or without a label, is written as a query by putting
every term in quotes, its label in front, and white space between neighbours.
Whatever white space is chosen, reading the query gives the list back and goes
to the end of the query.
-/

namespace SearchQuery

inductive Writes : Option Text × Text → Text → Prop where
  | plain {term : Text} (hterm : '"' ∉ term) : Writes (none, term) (Text.inQuotes term)
  | labelled {label : Label} {term : Text} (hlabel : label.WellFormed)
      (hterm : '"' ∉ term) :
      Writes (some label.name, term) (label.text ++ Text.inQuotes term)

namespace Cut

/-- The text is read as one token, unless a graph follows it. -/
def IsToken (piece : Text) : Prop :=
  ∀ tail, Text.OpensOutside Text.isGraph tail → token? (piece ++ tail) = some ⟨piece, tail⟩

theorem IsToken.ne_nil {piece : Text} (h : IsToken piece) : piece ≠ [] :=
  (divides_of_token? (h [] (Text.opensOutside_nil _))).nonempty

theorem IsToken.opensOutside {piece : Text} (h : IsToken piece) :
    Text.OpensOutside Text.isBlank piece := by
  have hcut := h [] (Text.opensOutside_nil _)
  rw [List.append_nil] at hcut
  cases piece with
  | nil =>
      exact Text.opensOutside_nil _
  | cons c piece =>
      rw [Text.opensOutside_cons]
      cases hc : Text.isBlank c with
      | false =>
          rfl
      | true =>
          have hnone := token?_eq_none_iff.mpr
            (Text.opensOutside_cons.mpr (Text.isGraph_eq_false_of_isBlank hc) :
              Text.OpensOutside Text.isGraph (c :: piece))
          rw [hnone] at hcut
          cases hcut

theorem plain?_word_append {word tail : Text} (hne : word ≠ [])
    (hgraph : ∀ c ∈ word, Text.isGraph c = true) (hquote : '"' ∉ word)
    (htail : Text.OpensOutside Text.isGraph tail) :
    plain? (word ++ tail) = some ⟨word, tail⟩ := by
  have hhead : '"' ∉ (word ++ tail).head? := by
    rw [List.head?_append_of_ne_nil word hne]
    exact fun hmem => hquote (List.mem_of_mem_head? hmem)
  rw [plain?_of_quoted?_none (quoted?_eq_none_of_head hhead), bare?_eq_some_iff]
  exact ⟨hne, hgraph, htail, rfl⟩

theorem isToken_of_word {word : Text} (hne : word ≠ [])
    (hgraph : ∀ c ∈ word, Text.isGraph c = true) (hquote : '"' ∉ word) (hcolon : ':' ∉ word) :
    IsToken word := by
  intro tail htail
  have hlabelled : labelled? (word ++ tail) = none := by
    cases hread : Label.read? (word ++ tail) with
    | none =>
        simp [labelled?, hread]
    | some parts =>
        -- The colon of a label is a graph behind graphs, so it stands in the word.
        rcases Label.read?_eq_some_iff.mp hread with ⟨hlabel, -, hsplit⟩
        have htake := Text.takeWhile_append_of_all hgraph htail
        rw [hsplit, Label.text_eq, List.append_assoc, List.takeWhile_append_of_pos
          fun c hc => isGraph_of_mem_label hlabel hc] at htake
        rw [← htake] at hcolon
        exact absurd (by simp) hcolon
  rw [token?_of_labelled?_none hlabelled]
  exact plain?_word_append hne hgraph hquote htail

theorem token?_label_append {label : Label} {t : Text} {cut : Cut} (hlabel : label.WellFormed)
    (hopens : Text.OpensOutside Text.isBlank t) (hplain : plain? t = some cut) :
    token? (label.text ++ t) = some ⟨label.text ++ cut.text, cut.rest⟩ := by
  have hread : Label.read? (label.text ++ t) = some (label, t) :=
    Label.read?_eq_some_iff.mpr ⟨hlabel, hopens, rfl⟩
  exact token?_of_labelled? (labelled?_eq_some_iff.mpr ⟨label, t, cut, hread, hplain, rfl⟩)

theorem isToken_of_label {label : Label} {word : Text} (hlabel : label.WellFormed)
    (hne : word ≠ []) (hgraph : ∀ c ∈ word, Text.isGraph c = true) (hquote : '"' ∉ word) :
    IsToken (label.text ++ word) := by
  intro tail htail
  have hopens : Text.OpensOutside Text.isBlank (word ++ tail) := by
    rw [Text.opensOutside_append tail hne]
    exact Text.opensOutside_of_isGraph hgraph
  rw [List.append_assoc]
  exact token?_label_append hlabel hopens (plain?_word_append hne hgraph hquote htail)

/-- An empty pair of quotes is no phrase but a bare word, so something has to end it. -/
theorem plain?_inQuotes_of_opensOutside {term tail : Text} (hterm : '"' ∉ term)
    (htail : Text.OpensOutside Text.isGraph tail) :
    plain? (Text.inQuotes term ++ tail) = some ⟨Text.inQuotes term, tail⟩ := by
  cases term with
  | nil =>
      have hquoted : quoted? (Text.inQuotes [] ++ tail) = none := by
        simp [Text.inQuotes, quoted?]
      rw [plain?_of_quoted?_none hquoted, bare?_eq_some_iff]
      refine ⟨by simp [Text.inQuotes], ?_, htail, rfl⟩
      intro c hc
      have hcq : c = '"' := by simpa [Text.inQuotes] using hc
      rw [hcq]
      exact Text.isGraph_quote
  | cons c term =>
      exact plain?_inQuotes tail (by simp) hterm

end Cut

namespace Writes

theorem isToken {pair : Option Text × Text} {piece : Text} (h : Writes pair piece) :
    Cut.IsToken piece := by
  intro tail htail
  cases h with
  | plain hterm =>
      rename_i term
      have hlabelled : Cut.labelled? (Text.inQuotes term ++ tail) = none := by
        rw [Text.inQuotes_append]
        exact Cut.labelled?_cons_quote _
      rw [Cut.token?_of_labelled?_none hlabelled]
      exact Cut.plain?_inQuotes_of_opensOutside hterm htail
  | labelled hlabel hterm =>
      rename_i label term
      have hplain := Cut.plain?_inQuotes_of_opensOutside hterm htail
      rw [List.append_assoc]
      exact Cut.token?_label_append hlabel (Text.opensOutside_inQuotes term tail) hplain

theorem closes {pair : Option Text × Text} {piece : Text} (h : Writes pair piece) :
    Text.OpensOutside Text.isBlank piece.reverse := by
  cases h with
  | plain hterm =>
      simp [Text.inQuotes, Text.isBlank_quote]
  | labelled hlabel hterm =>
      simp [Text.inQuotes, Text.isBlank_quote]

theorem parts {pair : Option Text × Text} {piece : Text} (h : Writes pair piece) :
    ((⟨piece⟩ : Token).label?, (⟨piece⟩ : Token).term) = pair := by
  cases h with
  | plain hterm =>
      rename_i term
      have hsplit : Token.split? ⟨Text.inQuotes term⟩ = none := Token.split?_cons_quote _
      rw [Token.label?_of_split?_none hsplit, Token.term, Token.body_of_split?_none hsplit,
        Token.unquote_inQuotes]
  | labelled hlabel hterm =>
      rename_i label term
      have hsplit :
          Token.split? ⟨label.text ++ Text.inQuotes term⟩ =
            some (label, Text.inQuotes term) := by
        rw [Token.split?_eq_some_iff]
        refine ⟨hlabel, by simp [Text.inQuotes], ?_, rfl⟩
        simp [Text.inQuotes, Text.isBlank_quote]
      rw [Token.label?_of_split? hsplit, Token.term, Token.body_of_split? hsplit,
        Token.unquote_inQuotes]

theorem all_parts {pairs : List (Option Text × Text)} {pieces : List Text}
    (h : List.Forall₂ Writes pairs pieces) :
    (pieces.map Token.mk).map (fun token => (token.label?, token.term)) = pairs := by
  induction h with
  | nil =>
      rfl
  | cons hpair hrest ih =>
      rw [List.map_cons, List.map_cons, ih, hpair.parts]

end Writes

/-!
## Reading it back
-/

namespace Cursor

theorem next_of_spaced {piece t : Text} {pieces : List Text}
    (ht : Text.Spaced (piece :: pieces) t)
    (hpieces : ∀ other ∈ piece :: pieces, Cut.IsToken other) {cursor : Cursor}
    (hcursor : Text.trimStart cursor.rest = t) :
    ∃ after, cursor.next = (some ⟨piece⟩, after) ∧
      Text.Spaced pieces (Text.trimStart after.rest) := by
  have hpiece := hpieces piece List.mem_cons_self
  cases ht with
  | one =>
      have hcut : Cut.token? (Text.trimStart cursor.rest) = some ⟨piece, []⟩ := by
        rw [hcursor]
        simpa using hpiece [] (Text.opensOutside_nil _)
      exact ⟨_, next_of_token? hcut, Text.Spaced.nil⟩
  | cons _ hne hgap htail =>
      rename_i gap next t pieces
      have hopens : Text.OpensBlank (gap ++ t) :=
        Text.opensBlank_append_of_blank t hne hgap
      have hcut : Cut.token? (Text.trimStart cursor.rest) = some ⟨piece, gap ++ t⟩ := by
        rw [hcursor, List.append_assoc]
        exact hpiece (gap ++ t) (hopens.opensOutside fun _ => Text.isBlank_eq_false_of_isGraph)
      have hstart : Text.trimStart (gap ++ t) = t := by
        rw [Text.trimStart_append_of_blank t hgap]
        apply Text.trimStart_eq_self
        apply htail.opensOutside
        intro other hother
        have htoken := hpieces other (List.mem_cons_of_mem _ hother)
        exact ⟨htoken.ne_nil, htoken.opensOutside⟩
      refine ⟨_, next_of_token? hcut, ?_⟩
      show Text.Spaced (next :: pieces) (Text.trimStart (gap ++ t))
      rw [hstart]
      exact htail

theorem next_of_spaced_nil {t : Text} (ht : Text.Spaced [] t) {cursor : Cursor}
    (hcursor : Text.trimStart cursor.rest = t) :
    cursor.next = (none, { cursor with rest := [] }) := by
  cases ht
  have hnone : Cut.token? (Text.trimStart cursor.rest) = none := by
    rw [hcursor]
    exact Cut.token?_nil
  rw [next_of_token?_none hnone, hcursor]

theorem readAll_of_spaced {pieces : List Text} {t : Text} (ht : Text.Spaced pieces t)
    (hpieces : ∀ piece ∈ pieces, Cut.IsToken piece) {cursor : Cursor}
    (hcursor : Text.trimStart cursor.rest = t) :
    cursor.tokens = pieces.map Token.mk ∧ cursor.readAll.2.rest = [] := by
  induction pieces generalizing t cursor with
  | nil =>
      rw [tokens, readAll_of_next_none (next_of_spaced_nil ht hcursor)]
      exact ⟨rfl, rfl⟩
  | cons piece pieces ih =>
      rcases next_of_spaced ht hpieces hcursor with ⟨after, hnext, hafter⟩
      have htokens := fun other hother => hpieces other (List.mem_cons_of_mem piece hother)
      rcases ih hafter htokens rfl with ⟨hread, hrest⟩
      rw [tokens, readAll_of_next_some hnext]
      constructor
      · simpa [tokens] using hread
      · exact hrest

end Cursor

/-- Terms that are written as a query are read back with their labels, and reading
ends where the query does. -/
theorem tokens_of_written {pairs : List (Option Text × Text)} {pieces : List Text}
    {query : Text} (hwrites : List.Forall₂ Writes pairs pieces)
    (hquery : Text.Spaced pieces query) :
    (Cursor.ofQuery query).tokens.map (fun token => (token.label?, token.term)) = pairs ∧
      (Cursor.ofQuery query).readAll.2.rest = [] ∧
      (Cursor.ofQuery query).readAll.2.position = Text.byteLength (Text.trim query) := by
  have hpieces : ∀ piece ∈ pieces, ∃ pair, Writes pair piece := by
    intro piece hpiece
    rcases List.forall₂_iff_get.mp hwrites with ⟨hlength, hget⟩
    rcases List.mem_iff_get.mp hpiece with ⟨i, rfl⟩
    exact ⟨_, hget i (by rw [hlength]; exact i.2) i.2⟩
  have htokens : ∀ piece ∈ pieces, Cut.IsToken piece := by
    intro piece hpiece
    rcases hpieces piece hpiece with ⟨pair, hpair⟩
    exact hpair.isToken
  have htrim : Text.trim query = query := by
    apply hquery.trim_eq
    intro piece hpiece
    rcases hpieces piece hpiece with ⟨pair, hpair⟩
    exact ⟨hpair.isToken.ne_nil, hpair.isToken.opensOutside, hpair.closes⟩
  have hstart : Text.trimStart (Cursor.ofQuery query).rest = query := by
    show Text.trimStart (Text.trim query) = query
    rw [htrim]
    apply Text.trimStart_eq_self
    apply hquery.opensOutside
    intro piece hpiece
    exact ⟨(htokens piece hpiece).ne_nil, (htokens piece hpiece).opensOutside⟩
  rcases Cursor.readAll_of_spaced hquery htokens hstart with ⟨hread, hrest⟩
  refine ⟨?_, hrest, ?_⟩
  · rw [hread]
    exact Writes.all_parts hwrites
  · rw [Cursor.position, hrest, Cursor.readAll_query]
    rfl

theorem tokens_of_written_label_and_phrase :
    List.Forall₂ Writes [(some ['i', 'd'], []), (none, ['a', ':', ' ', 'b'])]
        [['i', 'd', ':', ' ', '"', '"'], ['"', 'a', ':', ' ', 'b', '"']] ∧
      Text.Spaced [['i', 'd', ':', ' ', '"', '"'], ['"', 'a', ':', ' ', 'b', '"']]
        ['i', 'd', ':', ' ', '"', '"', '\t', '"', 'a', ':', ' ', 'b', '"'] ∧
      (Cursor.ofQuery ['i', 'd', ':', ' ', '"', '"', '\t', '"', 'a', ':', ' ', 'b', '"']).tokens.map
          (fun token => (token.label?, token.term)) =
        [(some ['i', 'd'], []), (none, ['a', ':', ' ', 'b'])] := by
  have hlabelled : Writes (some ['i', 'd'], []) ['i', 'd', ':', ' ', '"', '"'] :=
    @Writes.labelled ⟨['i', 'd'], [' ']⟩ [] ⟨by decide, by decide, by decide⟩ (by decide)
  have hphrase : Writes (none, ['a', ':', ' ', 'b']) ['"', 'a', ':', ' ', 'b', '"'] :=
    Writes.plain (by decide)
  have hwrites := List.Forall₂.cons hlabelled (List.Forall₂.cons hphrase List.Forall₂.nil)
  have hgap : Text.Blank ['\t'] := by
    decide
  have hquery := Text.Spaced.cons ['i', 'd', ':', ' ', '"', '"'] (by simp) hgap
    (Text.Spaced.one ['"', 'a', ':', ' ', 'b', '"'])
  exact ⟨hwrites, hquery, (tokens_of_written hwrites hquery).1⟩

end SearchQuery
