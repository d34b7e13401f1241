import SearchQuery.Proofs.Text.Span
import SearchQuery.Proofs.Token.Scan

/-!
# Where the parts of a token stand

The name of the label and the term are stretches of the text of a token.  Where
they begin and end is reckoned from lengths in bytes, and from the characters at
the two ends of the body.  In every text, also in one that was cut out of no
query, these places fall between characters, and the name and the term stand
there.
-/

namespace SearchQuery

namespace Span

def shift (span : Span) (count : Nat) : Span :=
  { start := count + span.start, stop := count + span.stop }

theorem holds_whole (t : Text) : Holds { start := 0, stop := Text.byteLength t } t t :=
  ⟨[], [], by simp, rfl, rfl⟩

theorem Holds.shift {span : Span} {t part : Text} (front : Text) (h : span.Holds t part) :
    (span.shift (Text.byteLength front)).Holds (front ++ t) part := by
  rcases h with ⟨before, behind, rfl, hstart, hstop⟩
  refine ⟨front ++ before, behind, by simp, ?_, ?_⟩
  · rw [Span.shift, hstart, Text.byteLength_append]
  · rw [Span.shift, hstop, List.append_assoc, Text.byteLength_append front]

end Span

namespace Token

def front (token : Token) : Text :=
  match token.split? with
  | some parts => parts.1.text
  | none => []

def unquotedSpan (t : Text) : Span :=
  let length := Text.byteLength t
  if length < 2 then { start := 0, stop := length }
  else
    { start := if t.head? = some '"' then 1 else 0
      stop := if t.getLast? = some '"' then length - 1 else length }

def labelSpan? (token : Token) : Option Span :=
  token.split?.map fun parts => { start := 0, stop := Text.byteLength parts.1.name }

def termSpan (token : Token) : Span :=
  (unquotedSpan token.body).shift (Text.byteLength token.front)

/-- The text is a label with a body behind it, and the white space between the two
belongs to the label. -/
structure Labels (label : Label) (body raw : Text) : Prop where
  label_wellFormed : label.WellFormed
  body_ne_nil : body ≠ []
  body_opens : Text.OpensOutside Text.isBlank body
  raw_eq : raw = label.text ++ body

theorem labels_iff {raw body : Text} {label : Label} :
    Labels label body raw ↔ split? ⟨raw⟩ = some (label, body) := by
  rw [split?_eq_some_iff]
  constructor
  · intro h
    exact ⟨h.label_wellFormed, h.body_ne_nil, h.body_opens, h.raw_eq⟩
  · intro h
    rcases h with ⟨hlabel, hne, hopens, hraw⟩
    exact ⟨hlabel, hne, hopens, hraw⟩

theorem label?_eq_some_iff {raw name : Text} :
    label? ⟨raw⟩ = some name ↔ ∃ gap body, Labels ⟨name, gap⟩ body raw := by
  simp only [labels_iff, label?, Option.map_eq_some_iff]
  constructor
  · intro h
    rcases h with ⟨⟨label, body⟩, hsplit, rfl⟩
    exact ⟨label.gap, body, hsplit⟩
  · intro h
    rcases h with ⟨gap, body, hsplit⟩
    exact ⟨_, hsplit, rfl⟩

theorem split?_eq_none_of_label?_none {token : Token} (h : token.label? = none) :
    token.split? = none :=
  Option.map_eq_none_iff.mp h

theorem front_of_split? {token : Token} {parts : Label × Text}
    (h : token.split? = some parts) : token.front = parts.1.text := by
  simp [front, h]

theorem front_of_split?_none {token : Token} (h : token.split? = none) :
    token.front = [] := by
  simp [front, h]

theorem front_append_body (token : Token) : token.front ++ token.body = token.raw := by
  cases hsplit : token.split? with
  | none =>
      rw [front_of_split?_none hsplit, body_of_split?_none hsplit, List.nil_append]
  | some parts =>
      rw [front_of_split? hsplit, body_of_split? hsplit]
      exact (split?_eq_some_iff.mp hsplit).2.2.2.symm

/-!
## The quotes around a term
-/

namespace Unquotes

variable {t stripped : Text}

theorem exists_quotes (h : Unquotes t stripped) :
    ∃ opening closing, (opening = [] ∨ opening = ['"']) ∧ (closing = [] ∨ closing = ['"']) ∧
      t = opening ++ stripped ++ closing := by
  cases h with
  | short h =>
      exact ⟨[], [], Or.inl rfl, Or.inl rfl, by simp⟩
  | quoted =>
      exact ⟨['"'], ['"'], Or.inr rfl, Or.inr rfl, rfl⟩
  | opened hne hlast =>
      exact ⟨['"'], [], Or.inr rfl, Or.inl rfl, by simp⟩
  | closed hne hhead =>
      exact ⟨[], ['"'], Or.inl rfl, Or.inr rfl, rfl⟩
  | bare hhead hlast =>
      exact ⟨[], [], Or.inl rfl, Or.inl rfl, by simp⟩

theorem holds (h : Unquotes t stripped) : (unquotedSpan t).Holds t stripped := by
  have hquote := Text.utf8Size_quote
  cases h with
  | short h =>
      rw [unquotedSpan, if_pos (Nat.lt_succ_of_le h)]
      exact Span.holds_whole t
  | quoted =>
      have hlength := Text.byteLength_inQuotes stripped
      have hhead : (Text.inQuotes stripped).head? = some '"' := rfl
      have hlast : (Text.inQuotes stripped).getLast? = some '"' := List.getLast?_concat
      rw [unquotedSpan, if_neg (by omega), if_pos hhead, if_pos hlast]
      refine ⟨['"'], ['"'], rfl, rfl, ?_⟩
      simp only [Text.byteLength_append, Text.byteLength_cons, Text.byteLength_nil, hlength, hquote]
      omega
  | opened hne hlast =>
      have hpos := Text.byteLength_pos hne
      have hhead : ('"' :: stripped).head? = some '"' := rfl
      have hlast' : ('"' :: stripped).getLast? ≠ some '"' := by
        rwa [List.getLast?_cons_of_ne_nil hne]
      have hlength : Text.byteLength ('"' :: stripped) = 1 + Text.byteLength stripped := by
        rw [Text.byteLength_cons, hquote]
      rw [unquotedSpan, if_neg (by omega), if_pos hhead, if_neg hlast']
      exact ⟨['"'], [], by simp, rfl, rfl⟩
  | closed hne hhead =>
      have hpos := Text.byteLength_pos hne
      have hhead' : (stripped ++ ['"']).head? ≠ some '"' := by
        rwa [List.head?_append_of_ne_nil stripped hne]
      have hlast : (stripped ++ ['"']).getLast? = some '"' := List.getLast?_concat
      have hlength : Text.byteLength (stripped ++ ['"']) = Text.byteLength stripped + 1 := by
        simp [hquote]
      rw [unquotedSpan, if_neg (by omega), if_neg hhead', if_pos hlast, hlength]
      exact ⟨[], ['"'], rfl, rfl, rfl⟩
  | bare hhead hlast =>
      have hhead' : t.head? ≠ some '"' := hhead
      have hlast' : t.getLast? ≠ some '"' := hlast
      by_cases hlength : Text.byteLength t < 2
      · rw [unquotedSpan, if_pos hlength]
        exact Span.holds_whole t
      · rw [unquotedSpan, if_neg hlength, if_neg hhead', if_neg hlast']
        exact Span.holds_whole t

end Unquotes

/-!
## Both parts
-/

theorem holds_termSpan (token : Token) : token.termSpan.Holds token.raw token.term := by
  have hholds := (unquotes_unquote token.body).holds.shift token.front
  rw [front_append_body] at hholds
  exact hholds

theorem holds_labelSpan? {token : Token} {label : Label} {body : Text}
    (h : token.split? = some (label, body)) :
    token.labelSpan? = some { start := 0, stop := Text.byteLength label.name } ∧
      Span.Holds { start := 0, stop := Text.byteLength label.name } token.raw label.name ∧
      Text.byteLength label.name ≤ token.termSpan.start := by
  have hraw := (split?_eq_some_iff.mp h).2.2.2
  refine ⟨by simp [labelSpan?, h], ⟨[], ':' :: label.gap ++ body, ?_, rfl, rfl⟩, ?_⟩
  · rw [hraw, Label.text_append]
    simp
  · simp only [termSpan, Span.shift, front_of_split? h, Label.text, Text.byteLength_append]
    omega

/-- A text has a label just when it is one with a body behind it, and the body is all of it
otherwise.  The term is the body without a double quote at either end, where there is one,
so nothing of the text is lost but a quote on either side of the term.  The name of the
label and the term stand in the text from one character to another, and apart. -/
theorem parts_exact (raw : Text) :
    (∀ name, label? ⟨raw⟩ = some name ↔ ∃ gap body, Labels ⟨name, gap⟩ body raw) ∧
      (∀ label body, Labels label body raw →
        front ⟨raw⟩ = label.text ∧ Token.body ⟨raw⟩ = body) ∧
      (label? ⟨raw⟩ = none → front ⟨raw⟩ = [] ∧ Token.body ⟨raw⟩ = raw) ∧
      Unquotes (Token.body ⟨raw⟩) (term ⟨raw⟩) ∧
      (∃ opening closing, (opening = [] ∨ opening = ['"']) ∧
        (closing = [] ∨ closing = ['"']) ∧
        raw = front ⟨raw⟩ ++ (opening ++ term ⟨raw⟩ ++ closing)) ∧
      (termSpan ⟨raw⟩).Holds raw (term ⟨raw⟩) ∧
      (∀ name, label? ⟨raw⟩ = some name →
        ∃ span, labelSpan? ⟨raw⟩ = some span ∧ span.Holds raw name ∧
          span.stop ≤ (termSpan ⟨raw⟩).start) ∧
      (label? ⟨raw⟩ = none → labelSpan? ⟨raw⟩ = none) := by
  have hunquotes : Unquotes (Token.body ⟨raw⟩) (term ⟨raw⟩) := unquotes_unquote _
  refine ⟨fun name => label?_eq_some_iff, ?_, ?_, hunquotes, ?_, holds_termSpan ⟨raw⟩, ?_, ?_⟩
  · intro label body hlabels
    have hsplit := labels_iff.mp hlabels
    exact ⟨front_of_split? hsplit, body_of_split? hsplit⟩
  · intro hnone
    have hsplit := split?_eq_none_of_label?_none hnone
    exact ⟨front_of_split?_none hsplit, body_of_split?_none hsplit⟩
  · rcases hunquotes.exists_quotes with ⟨opening, closing, hopening, hclosing, hbody⟩
    refine ⟨opening, closing, hopening, hclosing, ?_⟩
    rw [← hbody, front_append_body]
  · intro name hname
    rcases label?_eq_some_iff.mp hname with ⟨gap, body, hlabels⟩
    exact ⟨_, holds_labelSpan? (labels_iff.mp hlabels)⟩
  · intro hnone
    rw [labelSpan?, split?_eq_none_of_label?_none hnone, Option.map_none]

-- The quote that opens is left out, and the character behind it is two bytes long.
example : termSpan ⟨['a', ':', ' ', '"', 'é']⟩ = { start := 4, stop := 6 } := by rfl

end Token

end SearchQuery
