import SearchQuery.Proofs.Search.Coverage
import SearchQuery.Proofs.Token.Parts

/-!
# What becomes of a quoted phrase

A token that is read may end with a phrase in quotes.  A token that is resolved
whole holds all of it.  A token that is cut again gives it up: behind a label
with white space the phrase is the next token, but behind a label without any
it is torn at its first character that is no graph, if there is one.
-/

namespace SearchQuery

universe u

variable {Scope : Type u}

def Token.gap? (token : Token) : Option Text :=
  token.split?.map fun parts => parts.1.gap

namespace Step

def bodySpan (step : Step Scope) : Span :=
  { start :=
      step.span.start + (Text.byteLength step.read.raw - Text.byteLength step.read.body)
    stop := step.span.start + Text.byteLength step.read.raw }

/-- The body that was read lies inside one token that was resolved, in this step or in
the one after it. -/
def KeepsBody (step : Step Scope) (later : List (Step Scope)) : Prop :=
  step.bodySpan.Within step.span ∨ ∃ next ∈ later.head?, step.bodySpan.Within next.span

/-- The token that was resolved ends inside the body that was read. -/
def TearsBody (step : Step Scope) : Prop :=
  step.bodySpan.start < step.span.stop ∧ step.span.stop < step.bodySpan.stop

structure CutAgain (step : Step Scope) (cursor : Cursor) (phrase : Text) (label : Label)
    (rest : Text) : Prop where
  label_wellFormed : label.WellFormed
  raw_eq : step.read.raw = label.text ++ Text.inQuotes phrase
  start_eq : Text.trimStart cursor.rest = label.text ++ (Text.inQuotes phrase ++ rest)
  plain_eq : Cut.plain? (Text.trimStart cursor.rest) = some ⟨step.token.raw, step.cursor.rest⟩

end Step

namespace Text

theorem isGraph_of_mem_inQuotes {phrase : Text} (h : ∀ c ∈ phrase, isGraph c = true)
    {c : Char} (hc : c ∈ inQuotes phrase) : isGraph c = true := by
  have hmem : c = '"' ∨ c ∈ phrase := by
    simpa [inQuotes, or_comm, or_left_comm] using hc
  rcases hmem with rfl | hmem
  · exact isGraph_quote
  · exact h c hmem

theorem exists_first_not_graph {t : Text} (h : ∃ c ∈ t, isGraph c = false) :
    ∃ word c rest, t = word ++ c :: rest ∧ (∀ d ∈ word, isGraph d = true) ∧
      isGraph c = false := by
  have hsplit := List.takeWhile_append_dropWhile (p := isGraph) (l := t)
  have hopens := opensOutside_dropWhile isGraph t
  cases hrest : t.dropWhile isGraph with
  | nil =>
      rcases h with ⟨c, hc, hgraph⟩
      rw [List.dropWhile_eq_nil_iff.mp hrest c hc] at hgraph
      cases hgraph
  | cons c rest =>
      rw [hrest] at hsplit hopens
      exact ⟨t.takeWhile isGraph, c, rest, hsplit.symm,
        fun d hd => List.mem_takeWhile_imp hd, opensOutside_cons.mp hopens⟩

end Text

theorem Token.body_suffix (token : Token) : token.body <:+ token.raw := by
  cases hsplit : token.split? with
  | none =>
      simp [Token.body_of_split?_none hsplit]
  | some parts =>
      rcases Token.split?_eq_some_iff.mp hsplit with ⟨-, -, -, hraw⟩
      rw [Token.body_of_split? hsplit, hraw]
      exact List.suffix_append _ _

namespace Search

/-- No rule claims the token, and white space parts its label from its body. -/
def PartsLabel (search : Search Scope) (scope : Scope) (token : Token) : Prop :=
  search.offer? token scope = none ∧ ∃ gap ∈ token.gap?, gap ≠ []

/-- No rule claims the token, and its label stands right before a phrase with more in it
than graphs. -/
def TearsPhrase (search : Search Scope) (scope : Scope) (token : Token) (phrase : Text) : Prop :=
  search.offer? token scope = none ∧ token.gap? = some [] ∧ ∃ c ∈ phrase, Text.isGraph c = false

theorem Trail.rest_suffix {search : Search Scope} {cursor last : Cursor}
    {scope final : Scope} {steps : List (Step Scope)}
    (h : search.Trail cursor scope steps last final) (hrest : cursor.rest <:+ cursor.query) :
    last.query = cursor.query ∧ last.rest <:+ last.query := by
  induction h with
  | nil cursor scope =>
      exact ⟨rfl, hrest⟩
  | cons hturn hok htail ih =>
      have hadvances := hturn.advances hrest
      rcases ih hadvances.rest_suffix with ⟨hquery, hsuffix⟩
      exact ⟨hquery.trans hadvances.query_eq, hsuffix⟩

theorem exists_turn_inQuotes (search : Search Scope) {cursor : Cursor} (scope : Scope)
    {phrase rest : Text} (hstart : Text.trimStart cursor.rest = Text.inQuotes phrase ++ rest)
    (hne : phrase ≠ []) (hquote : '"' ∉ phrase) :
    ∃ step, search.Turn cursor scope step ∧ step.token.raw = Text.inQuotes phrase := by
  have hcut := Cut.token?_inQuotes rest hne hquote
  rw [← hstart] at hcut
  have hkeep : Token.isLabelled ⟨Text.inQuotes phrase⟩ = false :=
    Token.isLabelled_inQuotes phrase
  exact ⟨_, Turn.whole (Cursor.next_of_token? hcut) (Or.inr hkeep), rfl⟩

namespace Turn

variable {search : Search Scope} {cursor : Cursor} {scope : Scope} {step : Step Scope}

/-!
## Where the phrase stands
-/

theorem span_start (h : search.Turn cursor scope step) (hrest : cursor.rest <:+ cursor.query) :
    step.span.start = cursor.tokenStart := by
  rcases turn_iff_chosen.mp h with ⟨cut, chosen, hcut, rfl, rfl⟩
  rw [Step.span, Cursor.lastSpan_take hrest (divides_chosen search scope hcut)]

theorem span_stop (h : search.Turn cursor scope step) (hrest : cursor.rest <:+ cursor.query) :
    step.span.stop = cursor.tokenStart + Text.byteLength step.token.raw := by
  rcases turn_iff_chosen.mp h with ⟨cut, chosen, hcut, rfl, rfl⟩
  rw [Step.span, Cursor.lastSpan_take hrest (divides_chosen search scope hcut)]

theorem bodySpan_holds (h : search.Turn cursor scope step)
    (hrest : cursor.rest <:+ cursor.query) :
    step.bodySpan.Holds cursor.query step.read.body := by
  have hspan := h.span_start hrest
  rcases turn_iff_chosen.mp h with ⟨cut, chosen, hcut, rfl, rfl⟩
  rcases Cursor.exists_before_start hrest with ⟨before, gap, -, -, hquery, hstart⟩
  rcases Token.body_suffix ⟨cut.text⟩ with ⟨front, hraw⟩
  have hlength := congrArg Text.byteLength hraw
  rw [Text.byteLength_append] at hlength
  simp only at hlength
  have hwhole := (Cut.divides_of_token? hcut).whole
  rw [← hwhole] at hquery
  refine ⟨before ++ gap ++ front, cut.rest, ?_, ?_, ?_⟩
  · rw [hquery, List.append_assoc (before ++ gap) front, hraw]
    exact (List.append_assoc _ _ _).symm
  · rw [Step.bodySpan, hspan, hstart, Text.byteLength_append (before ++ gap) front, ← hlength]
    simp only
    omega
  · rw [Step.bodySpan, hspan, hstart, List.append_assoc (before ++ gap) front, hraw]
    simp only [Text.byteLength_append]

theorem bodySpan_start_lt_stop (h : search.Turn cursor scope step)
    (hrest : cursor.rest <:+ cursor.query) {phrase : Text} (hphrase : step.read.Quotes phrase) :
    step.bodySpan.start < step.bodySpan.stop := by
  rcases h.bodySpan_holds hrest with ⟨before, behind, -, hstart, hstop⟩
  rw [hphrase.body_eq, Text.byteLength_append, Text.byteLength_inQuotes] at hstop
  omega

theorem bodySpan_within_of_kept (h : search.Turn cursor scope step)
    (hrest : cursor.rest <:+ cursor.query)
    (hkeep : (search.offer? step.read scope).isSome = true ∨ step.read.isLabelled = false) :
    step.bodySpan.Within step.span ∧ step.bodySpan.stop = step.span.stop := by
  have hstart := h.span_start hrest
  have hstop := h.span_stop hrest
  have hwhole : step.token = step.read := by
    rcases turn_iff_chosen.mp h with ⟨cut, chosen, hcut, hchosen, rfl⟩
    rw [chosen_of_kept hkeep] at hchosen
    rw [hchosen]
  rw [hwhole] at hstop
  simp only [Step.bodySpan, Span.Within]
  omega

theorem exists_cutAgain (h : search.Turn cursor scope step) {phrase body : Text}
    {label : Label} (hphrase : step.read.Quotes phrase)
    (hsplit : step.read.split? = some (label, body))
    (hoffer : search.offer? step.read scope = none) :
    ∃ rest, step.CutAgain cursor phrase label rest := by
  have hlabelled := Token.isLabelled_of_split? hsplit
  have hbody : body = Text.inQuotes phrase := by
    rw [← hphrase.body_eq, Token.body_of_split? hsplit]
  rcases Token.split?_eq_some_iff.mp hsplit with ⟨hlabel, -, -, hraw⟩
  rcases turn_iff_chosen.mp h with ⟨cut, chosen, hcut, hchosen, rfl⟩
  rcases Cut.exists_plain?_of_token? hcut with ⟨plain, hplain⟩
  rw [chosen_of_recut hoffer hlabelled hplain] at hchosen
  rw [hbody] at hraw
  refine ⟨cut.rest, hlabel, hraw, ?_, ?_⟩
  · rw [← (Cut.divides_of_token? hcut).whole, ← List.append_assoc]
    exact congrArg (· ++ cut.rest) hraw
  · rw [hplain, ← hchosen]
    rfl

theorem stop_le_start_of_later (h : search.Turn cursor scope step)
    (hrest : cursor.rest <:+ cursor.query) {next : Step Scope}
    (hnext : next ∈ (search.later step).head?) : step.span.stop ≤ next.span.start := by
  rcases List.head?_eq_some_iff.mp hnext with ⟨steps, hsteps⟩
  rcases turn_of_later_eq_cons hsteps with ⟨left, -, hturn, -⟩
  exact (hturn.resolvesAt (h.advances hrest).rest_suffix rfl).2.1

/-!
## What is resolved of a phrase behind a label

With white space between them the label is resolved alone, and the phrase is the
next token.  Without any the label is resolved with the graphs behind it: with
the phrase, if that has graphs only, and else with the phrase up to the first
character that is none.
-/

variable {phrase rest : Text} {label : Label}

theorem bodySpan_of_cutAgain (h : search.Turn cursor scope step)
    (hrest : cursor.rest <:+ cursor.query) (hphrase : step.read.Quotes phrase)
    (hagain : step.CutAgain cursor phrase label rest) :
    step.bodySpan.start = cursor.tokenStart + Text.byteLength label.text ∧
      step.bodySpan.stop =
        cursor.tokenStart + Text.byteLength label.text +
          Text.byteLength (Text.inQuotes phrase) := by
  have hstart := h.span_start hrest
  simp only [Step.bodySpan, hagain.raw_eq, hphrase.body_eq, hstart, Text.byteLength_append]
  omega

theorem stop_le_bodySpan_of_gap (h : search.Turn cursor scope step)
    (hrest : cursor.rest <:+ cursor.query) (hphrase : step.read.Quotes phrase)
    (hagain : step.CutAgain cursor phrase label rest) (hgap : label.gap ≠ []) :
    step.span.stop ≤ step.bodySpan.start ∧
      step.cursor.rest = label.gap ++ (Text.inQuotes phrase ++ rest) := by
  have hplain := Cut.plain?_label_of_gap hagain.label_wellFormed hgap
    (Text.inQuotes phrase ++ rest)
  rw [← hagain.start_eq, hagain.plain_eq, Option.some.injEq, Cut.mk.injEq] at hplain
  rcases hplain with ⟨htoken, hbehind⟩
  constructor
  · have hstop := h.span_stop hrest
    have hbody := (h.bodySpan_of_cutAgain hrest hphrase hagain).1
    rw [Label.text_eq, Text.byteLength_append _ label.gap] at hbody
    rw [htoken] at hstop
    omega
  · exact hbehind

theorem exists_later_of_gap (h : search.Turn cursor scope step)
    (hrest : cursor.rest <:+ cursor.query) (hphrase : step.read.Quotes phrase)
    (hagain : step.CutAgain cursor phrase label rest) (hgap : label.gap ≠ []) {left : Scope}
    (hok : step.outcome = .ok left) :
    ∃ next ∈ (search.later step).head?, step.bodySpan.Within next.span := by
  have hadvances := h.advances hrest
  have hstart : Text.trimStart step.cursor.rest = Text.inQuotes phrase ++ rest := by
    rw [(h.stop_le_bodySpan_of_gap hrest hphrase hagain hgap).2]
    exact Text.dropWhile_append_of_all hagain.label_wellFormed.gap_blank
      (Text.opensOutside_inQuotes phrase rest)
  rcases search.exists_turn_inQuotes left hstart hphrase.phrase_ne_nil
    hphrase.quote_not_mem with ⟨next, hturn, hraw⟩
  have hlater : search.later step = next :: search.later next := by
    simp only [later, hok]
    exact steps_of_turn hturn
  refine ⟨next, by simp [hlater], ?_⟩
  have hbody := h.bodySpan_of_cutAgain hrest hphrase hagain
  have hnextStart := hturn.span_start hadvances.rest_suffix
  have hnextStop := hturn.span_stop hadvances.rest_suffix
  -- The label and the white space are all that stands between the two tokens' starts.
  have hwhole := hagain.start_eq
  rw [← hstart] at hwhole
  rw [Cursor.tokenStart_eq_add hadvances.query_eq hrest hwhole] at hnextStart hnextStop
  rw [hraw] at hnextStop
  simp only [Span.Within]
  omega

theorem bodySpan_within_of_graphs (h : search.Turn cursor scope step)
    (hrest : cursor.rest <:+ cursor.query) (hphrase : step.read.Quotes phrase)
    (hagain : step.CutAgain cursor phrase label rest) (hgap : label.gap = [])
    (hgraph : ∀ c ∈ phrase, Text.isGraph c = true) :
    step.bodySpan.Within step.span := by
  have hword : ∀ c ∈ Text.inQuotes phrase ++ rest.takeWhile Text.isGraph,
      Text.isGraph c = true := by
    intro c hc
    rcases List.mem_append.mp hc with hc | hc
    · exact Text.isGraph_of_mem_inQuotes hgraph hc
    · exact List.mem_takeWhile_imp hc
  have hplain := Cut.plain?_label_of_no_gap hagain.label_wellFormed hgap hword
    (Text.opensOutside_dropWhile Text.isGraph rest)
  rw [List.append_assoc, List.takeWhile_append_dropWhile, ← hagain.start_eq, hagain.plain_eq,
    Option.some.injEq, Cut.mk.injEq] at hplain
  have hbody := h.bodySpan_of_cutAgain hrest hphrase hagain
  have hstart := h.span_start hrest
  have hstop := h.span_stop hrest
  rw [hplain.1] at hstop
  simp only [Text.byteLength_append] at hstop
  simp only [Span.Within]
  omega

theorem tearsBody_of_not_graph (h : search.Turn cursor scope step)
    (hrest : cursor.rest <:+ cursor.query) (hphrase : step.read.Quotes phrase)
    (hagain : step.CutAgain cursor phrase label rest) (hgap : label.gap = [])
    (hgraph : ∃ c ∈ phrase, Text.isGraph c = false) : step.TearsBody := by
  rcases Text.exists_first_not_graph hgraph with ⟨before, c, behind, rfl, hbefore, hc⟩
  have hword : ∀ d ∈ '"' :: before, Text.isGraph d = true := by
    intro d hd
    rcases List.mem_cons.mp hd with rfl | hd
    · exact Text.isGraph_quote
    · exact hbefore d hd
  have hopens : Text.OpensOutside Text.isGraph (c :: (behind ++ '"' :: rest)) :=
    Text.opensOutside_cons.mpr hc
  have hplain := Cut.plain?_label_of_no_gap hagain.label_wellFormed hgap hword hopens
  have hsame : '"' :: before ++ c :: (behind ++ '"' :: rest) =
      Text.inQuotes (before ++ c :: behind) ++ rest := by
    simp [Text.inQuotes]
  rw [hsame, ← hagain.start_eq, hagain.plain_eq, Option.some.injEq, Cut.mk.injEq] at hplain
  rcases h.bodySpan_of_cutAgain hrest hphrase hagain with ⟨hbody, hbodyStop⟩
  have hstop := h.span_stop hrest
  rw [hplain.1] at hstop
  have hpos := Char.utf8Size_pos c
  have hquote := Text.utf8Size_quote
  rw [Text.byteLength_inQuotes] at hbodyStop
  simp only [Text.byteLength_append, Text.byteLength_cons] at hstop hbodyStop
  constructor
  · omega
  · omega

/-- What a turn can do to the phrase it reads: resolve all of it, part the label from it,
or tear it. -/
theorem phrase_cases (h : search.Turn cursor scope step) (hrest : cursor.rest <:+ cursor.query)
    (hphrase : step.read.Quotes phrase) :
    (¬ search.TearsPhrase scope step.read phrase ∧ ¬ search.PartsLabel scope step.read ∧
        step.bodySpan.Within step.span) ∨
      (¬ search.TearsPhrase scope step.read phrase ∧ search.PartsLabel scope step.read ∧
        step.span.stop ≤ step.bodySpan.start ∧
        ∀ left, step.outcome = .ok left →
          ∃ next ∈ (search.later step).head?, step.bodySpan.Within next.span) ∨
      (search.TearsPhrase scope step.read phrase ∧ step.TearsBody) := by
  cases hoffer : search.offer? step.read scope with
  | some verdict =>
      left
      have hkeep : (search.offer? step.read scope).isSome = true := by
        rw [hoffer]
        rfl
      refine ⟨?_, ?_, (h.bodySpan_within_of_kept hrest (Or.inl hkeep)).1⟩
      · simp [TearsPhrase, hoffer]
      · simp [PartsLabel, hoffer]
  | none =>
      cases hsplit : step.read.split? with
      | none =>
          left
          have hkeep := Token.isLabelled_of_split?_none hsplit
          refine ⟨?_, ?_, (h.bodySpan_within_of_kept hrest (Or.inr hkeep)).1⟩
          · simp [TearsPhrase, Token.gap?, hsplit]
          · simp [PartsLabel, Token.gap?, hsplit]
      | some parts =>
          rcases parts with ⟨label, body⟩
          have hgap? : step.read.gap? = some label.gap := by
            simp [Token.gap?, hsplit]
          rcases h.exists_cutAgain hphrase hsplit hoffer with ⟨rest, hagain⟩
          by_cases hgap : label.gap = []
          · by_cases hgraph : ∃ c ∈ phrase, Text.isGraph c = false
            · right
              right
              rw [hgap] at hgap?
              exact ⟨⟨hoffer, hgap?, hgraph⟩,
                h.tearsBody_of_not_graph hrest hphrase hagain hgap hgraph⟩
            · left
              refine ⟨fun htears => hgraph htears.2.2, ?_, ?_⟩
              · intro hparts
                rcases hparts with ⟨-, gap, hmem, hne⟩
                rw [hgap?, hgap] at hmem
                exact hne (Option.mem_some_iff.mp hmem).symm
              · apply h.bodySpan_within_of_graphs hrest hphrase hagain hgap
                intro c hc
                by_contra hc'
                exact hgraph ⟨c, hc, by simpa using hc'⟩
          · right
            left
            refine ⟨?_, ⟨hoffer, label.gap, hgap?, hgap⟩,
              (h.stop_le_bodySpan_of_gap hrest hphrase hagain hgap).1, ?_⟩
            · intro htears
              have hnil := htears.2.1
              rw [hgap?, Option.some.injEq] at hnil
              exact hgap hnil
            · intro left hok
              exact h.exists_later_of_gap hrest hphrase hagain hgap hok

theorem tearsBody_iff (h : search.Turn cursor scope step) (hrest : cursor.rest <:+ cursor.query)
    (hphrase : step.read.Quotes phrase) :
    step.TearsBody ↔ search.TearsPhrase scope step.read phrase := by
  rcases h.phrase_cases hrest hphrase with
    ⟨hnot, -, hwithin⟩ | ⟨hnot, -, hstop, -⟩ | ⟨htears, htorn⟩
  · constructor
    · intro htorn
      exact absurd htorn.2 (Nat.not_lt.mpr hwithin.2)
    · intro htears
      exact absurd htears hnot
  · constructor
    · intro htorn
      exact absurd htorn.1 (Nat.not_lt.mpr hstop)
    · intro htears
      exact absurd htears hnot
  · exact ⟨fun _ => htears, fun _ => htorn⟩

theorem keepsBody_iff (h : search.Turn cursor scope step) (hrest : cursor.rest <:+ cursor.query)
    (hphrase : step.read.Quotes phrase) :
    step.KeepsBody (search.later step) ↔
      ¬ search.TearsPhrase scope step.read phrase ∧
        ∀ error, step.outcome = .error error → ¬ search.PartsLabel scope step.read := by
  rcases h.phrase_cases hrest hphrase with
    ⟨hnot, hparts, hwithin⟩ | ⟨hnot, hparts, hstop, hnext⟩ | ⟨htears, htorn⟩
  · exact ⟨fun _ => ⟨hnot, fun _ _ => hparts⟩, fun _ => Or.inl hwithin⟩
  · cases houtcome : step.outcome with
    | ok left =>
        constructor
        · intro _
          exact ⟨hnot, fun _ herror => by cases herror⟩
        · intro _
          exact Or.inr (hnext left houtcome)
    | error error =>
        constructor
        · intro hkept
          rcases hkept with hwithin | ⟨next, hmem, -⟩
          · have hlt := h.bodySpan_start_lt_stop hrest hphrase
            have hle := hwithin.2
            omega
          · simp [later, houtcome] at hmem
        · intro hboth
          rcases hboth with ⟨-, hnone⟩
          exact absurd hparts (hnone error rfl)
  · constructor
    · intro hkept
      rcases hkept with hwithin | ⟨next, hmem, hwithin⟩
      · exact absurd htorn.2 (Nat.not_lt.mpr hwithin.2)
      · have hle := h.stop_le_start_of_later hrest hmem
        exact absurd htorn.1 (Nat.not_lt.mpr (hle.trans hwithin.1))
    · intro hboth
      rcases hboth with ⟨hnot, -⟩
      exact absurd htears hnot

end Turn

/-- A phrase that a step reads lies inside one token that is resolved, in that step or in
the next, unless no rule claims the token and it begins with a label.  Then a phrase right
behind the label is torn if there is more in it than graphs, and a phrase that white space
parts from the label is never reached if resolving the label is an error. -/
theorem phrase_kept_iff {search : Search Scope} {query : Text} {scope : Scope}
    {first behind : List (Step Scope)} {step : Step Scope} {phrase : Text}
    (hsteps : search.steps (Cursor.ofQuery query) scope = first ++ step :: behind)
    (hphrase : step.read.Quotes phrase) :
    ∃ cursor before, search.Trail (Cursor.ofQuery query) scope first cursor before ∧
      search.Turn cursor before step ∧
      step.bodySpan.Holds (Text.trim query) (Text.inQuotes phrase) ∧
      (step.TearsBody ↔ search.TearsPhrase before step.read phrase) ∧
      (step.KeepsBody behind ↔
        ¬ search.TearsPhrase before step.read phrase ∧
          ∀ error, step.outcome = .error error → ¬ search.PartsLabel before step.read) := by
  rcases exists_trail_of_steps_eq first hsteps with ⟨cursor, before, htrail, hturn, hlater⟩
  rcases htrail.rest_suffix List.suffix_rfl with ⟨hquery, hrest⟩
  have hholds := hturn.bodySpan_holds hrest
  rw [hphrase.body_eq, hquery] at hholds
  rw [hlater]
  exact ⟨cursor, before, htrail, hturn, hholds, hturn.tearsBody_iff hrest hphrase,
    hturn.keepsBody_iff hrest hphrase⟩

theorem phrase_behind_label_torn :
    ∃ step behind,
      collecting.steps (Cursor.ofQuery ['f', ':', '"', 'a', ' ', 'b', '"']) [] =
          [] ++ step :: behind ∧
        step.read.Quotes ['a', ' ', 'b'] ∧ step.token.raw = ['f', ':', '"', 'a'] ∧
        step.TearsBody ∧ ¬ step.KeepsBody behind := by
  have hturn : ∃ step, collecting.Turn
      (Cursor.ofQuery ['f', ':', '"', 'a', ' ', 'b', '"']) [] step ∧
      step.read = ⟨['f', ':', '"', 'a', ' ', 'b', '"']⟩ ∧
      step.token.raw = ['f', ':', '"', 'a'] :=
    ⟨_, Turn.recut rfl rfl rfl rfl, rfl, rfl⟩
  rcases hturn with ⟨step, hturn, hread, htoken⟩
  have hsteps : collecting.steps (Cursor.ofQuery ['f', ':', '"', 'a', ' ', 'b', '"']) [] =
      [] ++ step :: collecting.later step :=
    steps_of_turn hturn
  have hphrase : step.read.Quotes ['a', ' ', 'b'] := by
    rw [hread]
    exact ⟨rfl, by simp, by simp⟩
  rcases phrase_kept_iff hsteps hphrase with ⟨cursor, before, -, -, -, htears, hkeeps⟩
  have hcondition : collecting.TearsPhrase before step.read ['a', ' ', 'b'] := by
    rw [hread]
    exact ⟨rfl, rfl, ' ', by simp, by decide⟩
  exact ⟨step, _, hsteps, hphrase, htoken, htears.mpr hcondition,
    fun hkept => (hkeeps.mp hkept).1 hcondition⟩

end Search

end SearchQuery
