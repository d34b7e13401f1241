import SearchQuery.Proofs.Search.Turn

/-!
# Compiling in two parts

White space behind a text leaves the tokens of the text as they are, if there is
no double quote in it, no control character that is no white space, and no label
alone at its end.  A compilation then comes to the end of the text just when a
token of what follows is next, whatever was claimed on the way, so it goes on
with what follows as if it had started there.

A label alone at the end is such a text only where no rule claims it together
with a word behind it: then it is cut off, and compiling goes on behind it.
-/

namespace SearchQuery

universe u

variable {Scope : Type u}

namespace Text

/-- A text that white space ends, whatever stands behind the white space. -/
structure SelfContained (t : Text) : Prop where
  bare : Bare t
  last_word : ∀ word ∈ (words t).getLast?, ¬ IsBareLabel word

namespace SelfContained

theorem quote_not_mem {t : Text} (h : SelfContained t) : '"' ∉ t :=
  h.bare.quote_not_mem

theorem trim {t : Text} (h : SelfContained t) : SelfContained (Text.trim t) := by
  constructor
  · exact h.bare.trim
  · rw [words_trim]
    exact h.last_word

theorem trimStart {t : Text} (h : SelfContained t) : SelfContained (Text.trimStart t) := by
  constructor
  · exact h.bare.trimStart
  · rw [words_trimStart]
    exact h.last_word

theorem append_right {s t : Text} (h : SelfContained (s ++ t))
    (hgraph : OpensOutside isGraph t) : SelfContained t := by
  have hbare := h.bare.append_right
  constructor
  · exact hbare
  · intro word hword
    apply h.last_word word
    have hne : t ≠ [] := by
      intro hnil
      rw [hnil] at hword
      cases hword
    rw [words_append_of_opensBlank s (hbare.opensBlank hne hgraph), List.getLast?_append,
      Option.mem_def.mp hword]
    rfl

theorem read?_ne {t : Text} (h : SelfContained t) (label : Label) :
    Label.read? t ≠ some (label, []) := by
  intro hread
  rcases Label.read?_eq_some_iff.mp hread with ⟨hlabel, -, htext⟩
  have hname : words (label.name ++ [':']) = [label.name ++ [':']] := by
    apply words_of_no_blank
    · simp
    · intro c hc
      exact isBlank_eq_false_of_isGraph (Cut.isGraph_of_mem_label hlabel hc)
  have hwords : words t = [label.name ++ [':']] := by
    rw [htext, List.append_nil, Label.text_eq, words_append_blank _ hlabel.gap_blank, hname]
  apply h.last_word (label.name ++ [':'])
  · rw [hwords]
    rfl
  · exact ⟨label.name, hlabel.name_ne_nil, hlabel.name_alphanumeric, rfl⟩

end SelfContained

end Text

namespace Search

/-!
## What a compilation depends on
-/

theorem compileFrom_congr (search : Search Scope) (cursor : Cursor) (scope : Scope) :
    ∀ other : Cursor, Text.trimStart other.rest = Text.trimStart cursor.rest →
      search.compileFrom other scope = search.compileFrom cursor scope := by
  induction cursor, scope using turn_induction search with
  | exhausted cursor scope after hnext =>
      intro other hstart
      have hcut := Cut.token?_eq_none_iff.mpr (Cursor.next_eq_none hnext)
      rw [← hstart] at hcut
      rw [search.compileFrom_of_next_none scope hnext,
        search.compileFrom_of_next_none scope (Cursor.next_of_token?_none hcut)]
  | turn cursor scope step hturn ih =>
      intro other hstart
      rw [← List.append_nil (Text.trimStart cursor.rest)] at hstart
      rcases hturn.extend hstart (by simp) (by simp) with ⟨next, hnext, hverdict, hrest⟩
      rw [compileFrom_of_turn hnext, compileFrom_of_turn hturn, hverdict]
      apply Verdict.andThen_congr
      intro left hok
      apply ih left hok
      rw [hrest, List.append_nil]

/-!
## The seam
-/

theorem Turn.selfContained_rest {search : Search Scope} {cursor : Cursor} {scope : Scope}
    {step : Step Scope} (h : search.Turn cursor scope step)
    (hself : Text.SelfContained cursor.rest) : Text.SelfContained step.cursor.rest := by
  have hstart := hself.trimStart
  rcases turn_iff_chosen.mp h with ⟨cut, chosen, hcut, rfl, rfl⟩
  -- Either cut ends a word, whichever the rules and the scope have chosen.
  have hopens : Text.OpensOutside Text.isGraph
      (search.chosen (Text.trimStart cursor.rest) cut scope).rest := by
    rcases search.token?_or_plain?_chosen scope hcut with htoken | hplain
    · exact Cut.rest_opensOutside_of_token? hstart.quote_not_mem htoken
    · exact Cut.rest_opensOutside_of_plain? hstart.quote_not_mem hplain
  rw [← (divides_chosen search scope hcut).whole] at hstart
  exact hstart.append_right hopens

/-- A compilation comes to the end of a self-contained text before it reads any of what
follows. -/
theorem compileFrom_append (search : Search Scope) {tail : Text}
    (htail : Text.OpensBlank tail) {behind : Cursor}
    (hbehind : Text.trimStart behind.rest = Text.trimStart tail)
    (cursor : Cursor) (scope : Scope) :
    Text.SelfContained cursor.rest → ∀ other : Cursor, other.rest = cursor.rest ++ tail →
      search.compileFrom other scope =
        (search.compileFrom cursor scope).andThen (search.compileFrom behind) := by
  induction cursor, scope using turn_induction search with
  | exhausted cursor scope after hnext =>
      intro hself other hrest
      -- Nothing but white space is left of the text, as no control character can be.
      have hblank := hself.bare.blank (Cursor.next_eq_none hnext)
      have hstart : Text.trimStart other.rest = Text.trimStart behind.rest := by
        rw [hrest, hbehind, Text.trimStart_append_of_blank tail hblank]
      rw [search.compileFrom_of_next_none scope hnext]
      exact (search.compileFrom_congr behind scope other hstart).trans
        (Verdict.unchanged_andThen scope _).symm
  | turn cursor scope step hturn ih =>
      intro hself other hrest
      have hself' := hself.trimStart
      have hstart : Text.trimStart other.rest = Text.trimStart cursor.rest ++ tail := by
        rw [hrest, Text.trimStart_append_of_not_blank tail hturn.not_blank]
      -- The same turn, and it leaves the same seam.
      rcases hturn.extend hstart
        (Cut.token?_append_of_opensBlank hself'.quote_not_mem htail hself'.read?_ne)
        (Cut.plain?_append_of_opensBlank hself'.quote_not_mem htail) with
        ⟨next, hnext, hverdict, hrest'⟩
      rw [compileFrom_of_turn hnext, compileFrom_of_turn hturn, hverdict, Verdict.andThen_assoc]
      apply Verdict.andThen_congr
      intro left hok
      exact ih left hok (hturn.selfContained_rest hself) next.cursor hrest'

theorem compile_of_blank (search : Search Scope) {query : Text} (scope : Scope)
    (h : Text.Blank query) : search.compile query scope = Verdict.unchanged scope := by
  have hcut : Cut.token? (Text.trimStart (Cursor.ofQuery query).rest) = none := by
    show Cut.token? (Text.trimStart (Text.trim query)) = none
    rw [Text.trim_eq_nil_iff.mpr h]
    exact Cut.token?_nil
  exact search.compileFrom_of_next_none scope (Cursor.next_of_token?_none hcut)

theorem compile_of_trim_eq (search : Search Scope) {query other : Text} (scope : Scope)
    (h : Text.trim query = Text.trim other) :
    search.compile query scope = search.compile other scope := by
  simp only [compile, Cursor.ofQuery, h]

/-- Compiling goes word by word: two queries with white space between them are compiled one
after the other, if the first has no double quote in it, no control character that is no
white space, and no label alone for its last word. -/
theorem compile_append (search : Search Scope) {query : Text} (next : Text) {gap : Text}
    (scope : Scope) (hbare : Text.Bare query)
    (hlast : ∀ word ∈ (Text.words query).getLast?, ¬ Text.IsBareLabel word)
    (hne : gap ≠ []) (hgap : Text.Blank gap) :
    search.compile (query ++ gap ++ next) scope =
      (search.compile query scope).andThen (search.compile next) := by
  by_cases hquery : Text.Blank query
  · have htrim : Text.trim (query ++ gap ++ next) = Text.trim next :=
      Text.trim_append_of_blank_left next (Text.blank_append.mpr ⟨hquery, hgap⟩)
    rw [search.compile_of_blank scope hquery, Verdict.unchanged_andThen]
    exact search.compile_of_trim_eq scope htrim
  · by_cases hnext : Text.Blank next
    · have htrim : Text.trim (query ++ gap ++ next) = Text.trim query := by
        rw [List.append_assoc]
        exact Text.trim_append_of_blank_right query (Text.blank_append.mpr ⟨hgap, hnext⟩)
      have hunchanged : search.compile next = Verdict.unchanged := by
        funext left
        exact search.compile_of_blank left hnext
      rw [hunchanged, Verdict.andThen_unchanged]
      exact search.compile_of_trim_eq scope htrim
    · rcases Text.trim_append_of_not_blank hquery hnext hne hgap with
        ⟨wide, hwide, hblank, htrim⟩
      have hself : Text.SelfContained (Text.trim query) :=
        Text.SelfContained.trim ⟨hbare, hlast⟩
      have hbehind : Text.trimStart (Cursor.ofQuery next).rest =
          Text.trimStart (wide ++ Text.trim next) :=
        (Text.trimStart_append_of_blank (Text.trim next) hblank).symm
      exact search.compileFrom_append (Text.opensBlank_append_of_blank _ hwide hblank) hbehind
        (Cursor.ofQuery query) scope hself (Cursor.ofQuery (query ++ gap ++ next)) htrim

theorem compile_append_phrase :
    Text.Bare ['a', ':', 'b'] ∧
      (∀ word ∈ (Text.words ['a', ':', 'b']).getLast?, ¬ Text.IsBareLabel word) ∧
      [' '] ≠ [] ∧ Text.Blank [' '] ∧
      collecting.compile (['a', ':', 'b'] ++ [' '] ++ ['"', 'c', '"']) [] =
        (collecting.compile ['a', ':', 'b'] []).andThen
          (collecting.compile ['"', 'c', '"']) := by
  have hbare : Text.Bare ['a', ':', 'b'] := by
    decide
  have hgap : Text.Blank [' '] := by
    decide
  have hlast : ∀ word ∈ (Text.words ['a', ':', 'b']).getLast?, ¬ Text.IsBareLabel word := by
    intro word hword hlabel
    have hwords : Text.words ['a', ':', 'b'] = [['a', ':', 'b']] := by
      rfl
    rw [hwords, List.getLast?_singleton] at hword
    rcases hlabel with ⟨name, -, -, rfl⟩
    have hend := congrArg List.getLast? (Option.mem_some_iff.mp hword)
    rw [List.getLast?_concat] at hend
    cases hend
  exact ⟨hbare, hlast, by simp, hgap,
    collecting.compile_append ['"', 'c', '"'] [] hbare hlast (by simp) hgap⟩

/-!
## A label that stands apart

A label alone may be read together with a word behind it.  If no rule claims what
was read, the label is resolved alone, and compiling goes on with what follows.
-/

theorem compileFrom_of_unclaimed_label (search : Search Scope) {cursor behind : Cursor}
    (scope : Scope) {label : Label} {rest : Text} (hlabel : label.WellFormed)
    (hgap : label.gap ≠ []) (hstart : Text.trimStart cursor.rest = label.text ++ rest)
    (hbehind : Text.trimStart behind.rest = Text.trimStart rest)
    (hunclaimed : ∀ token ∈ cursor.next.1, search.offer? token scope = none) :
    search.compileFrom cursor scope =
      (search.settle ⟨label.name ++ [':']⟩ scope).andThen (search.compileFrom behind) := by
  have hplain := Cut.plain?_label_of_gap hlabel hgap rest
  rw [← hstart] at hplain
  rcases Cut.exists_token?_of_plain? hplain with ⟨cut, hcut⟩
  have hoffer : search.offer? ⟨cut.text⟩ scope = none := by
    apply hunclaimed
    rw [Cursor.next_of_token? hcut]
    rfl
  have hchosen := plain?_chosen hoffer hcut
  rw [hplain, Option.some.injEq] at hchosen
  rw [compileFrom_of_turn (turn_iff_chosen.mpr ⟨cut, _, hcut, hchosen, rfl⟩)]
  apply Verdict.andThen_congr
  intro left hok
  apply search.compileFrom_congr
  show Text.trimStart (label.gap ++ rest) = Text.trimStart behind.rest
  rw [hbehind, Text.trimStart_append_of_blank rest hlabel.gap_blank]

/-- A label that white space parts from what follows is a word of its own, if no rule claims
the first token of the query: the label is resolved alone, by the rules or else by the
fallback, and what follows is compiled as a query of its own. -/
theorem compile_of_unclaimed_label (search : Search Scope) (scope : Scope) {label : Label}
    {rest : Text} (hlabel : label.WellFormed) (hgap : label.gap ≠ []) (hrest : ¬ Text.Blank rest)
    (hunclaimed : ∀ token ∈ (Cursor.ofQuery (label.text ++ rest)).next.1,
      ∀ rule ∈ search.rulebook.rules, rule.claim? token scope = none) :
    search.compile (label.text ++ rest) scope =
      (search.settle ⟨label.name ++ [':']⟩ scope).andThen (search.compile rest) := by
  have hgraph : ∀ c ∈ label.name ++ [':'], Text.isGraph c = true :=
    fun c hc => Cut.isGraph_of_mem_label hlabel hc
  have hname : Text.trim (label.name ++ [':']) = label.name ++ [':'] := by
    have hmiddle := Text.trim_surrounded Text.blank_nil Text.blank_nil
      (Text.opensOutside_of_isGraph hgraph) (Text.closesOutside_of_isGraph hgraph)
    simpa using hmiddle
  have hword : ¬ Text.Blank (label.name ++ [':']) := by
    intro hblank
    exact absurd (hblank ':' (by simp)) (by decide)
  rcases Text.trim_append_of_not_blank hword hrest hgap hlabel.gap_blank with
    ⟨wide, hwide, hblank, htrim⟩
  have hstart : Text.trimStart (Cursor.ofQuery (label.text ++ rest)).rest =
      Label.text ⟨label.name, wide⟩ ++ Text.trim rest := by
    show Text.trimStart (Text.trim (label.text ++ rest)) = _
    rw [Text.trimStart_trim, Label.text_eq, htrim, hname, Label.text_eq]
    simp only [List.append_assoc]
  have hwide' : Label.WellFormed ⟨label.name, wide⟩ :=
    ⟨hlabel.name_ne_nil, hlabel.name_alphanumeric, hblank⟩
  have hbehind : Text.trimStart (Cursor.ofQuery rest).rest = Text.trimStart (Text.trim rest) :=
    rfl
  have hcompile := search.compileFrom_of_unclaimed_label scope hwide' hwide hstart hbehind
    fun token htoken => offer?_eq_none_iff.mpr (hunclaimed token htoken)
  exact hcompile

def skipping : Search (List Token) :=
  { collecting with
    rulebook := Rulebook.empty.add
      ⟨['s'], fun token tokens => if token.label? = some ['b'] then some tokens else none⟩ }

theorem compile_of_unclaimed_label_regrouped :
    Label.WellFormed ⟨['a'], [' ']⟩ ∧ [' '] ≠ [] ∧ ¬ Text.Blank ['b', ':', ' ', 'c'] ∧
      (∀ token ∈ (Cursor.ofQuery ['a', ':', ' ', 'b', ':', ' ', 'c']).next.1,
        ∀ rule ∈ skipping.rulebook.rules, rule.claim? token [] = none) ∧
      skipping.compile ['a', ':', ' ', 'b', ':', ' ', 'c'] [] =
        (skipping.settle ⟨['a', ':']⟩ []).andThen (skipping.compile ['b', ':', ' ', 'c']) ∧
      (skipping.compile ['a', ':', ' ', 'b', ':', ' ', 'c'] []).outcome = .ok [⟨['a', ':']⟩] := by
  have hlabel : Label.WellFormed ⟨['a'], [' ']⟩ := ⟨by simp, by decide, by decide⟩
  have hrest : ¬ Text.Blank ['b', ':', ' ', 'c'] := by
    decide
  have hunclaimed : ∀ token ∈ (Cursor.ofQuery ['a', ':', ' ', 'b', ':', ' ', 'c']).next.1,
      ∀ rule ∈ skipping.rulebook.rules, rule.claim? token [] = none := by
    intro token htoken rule hrule
    cases htoken
    rw [skipping, Rulebook.rules_add, Rulebook.rules_empty, List.nil_append,
      List.mem_singleton] at hrule
    rw [hrule]
    rfl
  exact ⟨hlabel, by simp, hrest, hunclaimed,
    skipping.compile_of_unclaimed_label [] hlabel (by simp) hrest hunclaimed, by decide +kernel⟩

end Search

end SearchQuery
