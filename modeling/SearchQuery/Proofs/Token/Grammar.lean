import SearchQuery.Proofs.Token.Cut

/-!
# The grammar of tokens

A token is described by a regular expression: perhaps a label, and then a phrase
in quotes or a word.  A backtracking reader of that expression tries the label
before it goes without, the phrase before the word, and a long repetition before
a short one; it gives up what it has tried only when the rest of the expression
finds nothing behind it.  Cutting a token never goes back like this, and yet it
takes what such a reader takes, for what a repetition gives back is nothing that
the rest of the expression could begin with.
-/

namespace SearchQuery

inductive Grammar where
  | empty
  | char (kind : Char → Bool)
  | many (kind : Char → Bool)
  | seq (first second : Grammar)
  | alt (first second : Grammar)

def Cut.prepend (front : Text) (cut : Cut) : Cut :=
  { cut with text := front ++ cut.text }

theorem Cut.prepend_nil : Cut.prepend [] = id := rfl

namespace Grammar

inductive Derives : Grammar → Text → Prop where
  | empty : Derives empty []
  | char {kind : Char → Bool} {c : Char} (hc : kind c = true) : Derives (char kind) [c]
  | many {kind : Char → Bool} {t : Text} (ht : ∀ c ∈ t, kind c = true) :
      Derives (many kind) t
  | seq {first second : Grammar} {s t : Text} (hfirst : Derives first s)
      (hsecond : Derives second t) : Derives (seq first second) (s ++ t)
  | left {first second : Grammar} {t : Text} (h : Derives first t) :
      Derives (alt first second) t
  | right {first second : Grammar} {t : Text} (h : Derives second t) :
      Derives (alt first second) t

def runs (kind : Char → Bool) : Text → List Cut
  | [] => [⟨[], []⟩]
  | c :: t =>
      if kind c then (runs kind t).map (Cut.prepend [c]) ++ [⟨[], c :: t⟩]
      else [⟨[], c :: t⟩]

/-- What the expression can take off the start of a text, in the order in which it is
tried. -/
def attempts : Grammar → Text → List Cut
  | empty, t => [⟨[], t⟩]
  | char _, [] => []
  | char kind, c :: t => if kind c then [⟨[c], t⟩] else []
  | many kind, t => runs kind t
  | seq first second, t =>
      (first.attempts t).flatMap fun cut => (second.attempts cut.rest).map (Cut.prepend cut.text)
  | alt first second, t => first.attempts t ++ second.attempts t

/-- What a backtracking reader takes off the start of a text. -/
def match? (grammar : Grammar) (t : Text) : Option Cut :=
  (grammar.attempts t).head?

/-!
## The expression for tokens
-/

def atLeastOne (kind : Char → Bool) : Grammar :=
  seq (char kind) (many kind)

def optional (grammar : Grammar) : Grammar :=
  alt grammar empty

def quote : Grammar :=
  char fun c => c = '"'

def phrase : Grammar :=
  seq quote (seq (atLeastOne fun c => c ≠ '"') quote)

def plain : Grammar :=
  alt phrase (atLeastOne Text.isGraph)

def label : Grammar :=
  seq (atLeastOne Text.isAlphanumeric) (seq (char fun c => c = ':') (many Text.isBlank))

def token : Grammar :=
  seq (optional label) plain

/-!
## What is tried is what is derived
-/

theorem mem_runs_iff {kind : Char → Bool} {t : Text} {cut : Cut} :
    cut ∈ runs kind t ↔ t = cut.text ++ cut.rest ∧ ∀ c ∈ cut.text, kind c = true := by
  induction t generalizing cut with
  | nil =>
      cases cut with
      | mk text rest =>
          simp only [runs, List.mem_singleton, Cut.mk.injEq, List.nil_eq, List.append_eq_nil_iff]
          constructor
          · rintro ⟨rfl, rfl⟩
            simp
          · exact fun h => h.1
  | cons c t ih =>
      constructor
      · intro hmem
        by_cases hc : kind c = true
        · rw [runs, if_pos hc, List.mem_append, List.mem_map, List.mem_singleton] at hmem
          rcases hmem with ⟨shorter, hshorter, rfl⟩ | rfl
          · rcases ih.mp hshorter with ⟨hwhole, hall⟩
            refine ⟨by simp [Cut.prepend, ← hwhole], ?_⟩
            intro d hd
            rcases List.mem_cons.mp hd with rfl | hd
            · exact hc
            · exact hall d hd
          · simp
        · rw [runs, if_neg hc, List.mem_singleton] at hmem
          subst hmem
          simp
      · intro h
        rcases h with ⟨hwhole, hall⟩
        cases cut with
        | mk text rest =>
            cases text with
            | nil =>
                simp only [List.nil_append] at hwhole
                subst hwhole
                unfold runs
                split <;> simp
            | cons d text =>
                simp only [List.cons_append, List.cons.injEq] at hwhole
                rcases hwhole with ⟨rfl, hwhole⟩
                rw [runs, if_pos (hall c (by simp)), List.mem_append, List.mem_map]
                left
                exact ⟨⟨text, rest⟩, ih.mpr ⟨hwhole, fun d hd => hall d (by simp [hd])⟩, rfl⟩

theorem mem_attempts_iff {grammar : Grammar} {t : Text} {cut : Cut} :
    cut ∈ grammar.attempts t ↔ t = cut.text ++ cut.rest ∧ grammar.Derives cut.text := by
  induction grammar generalizing t cut with
  | empty =>
      rw [attempts, List.mem_singleton]
      constructor
      · rintro rfl
        exact ⟨rfl, Derives.empty⟩
      · rintro ⟨hwhole, hderives⟩
        cases cut with
        | mk text rest =>
            cases hderives
            rw [hwhole]
            rfl
  | char kind =>
      constructor
      · intro hmem
        cases t with
        | nil =>
            cases hmem
        | cons c t =>
            rw [attempts] at hmem
            split at hmem
            · next hc =>
                rw [List.mem_singleton] at hmem
                subst hmem
                exact ⟨rfl, Derives.char hc⟩
            · cases hmem
      · rintro ⟨hwhole, hderives⟩
        cases cut with
        | mk text rest =>
            cases hderives with
            | char hc =>
                rw [hwhole]
                simp [attempts, hc]
  | many kind =>
      rw [attempts, mem_runs_iff]
      constructor
      · rintro ⟨hwhole, hall⟩
        exact ⟨hwhole, Derives.many hall⟩
      · rintro ⟨hwhole, hderives⟩
        cases hderives with
        | many hall =>
            exact ⟨hwhole, hall⟩
  | seq first second ihfirst ihsecond =>
      rw [attempts, List.mem_flatMap]
      constructor
      · rintro ⟨front, hfront, hmem⟩
        rcases List.mem_map.mp hmem with ⟨back, hback, rfl⟩
        rcases ihfirst.mp hfront with ⟨hwhole, hfirst⟩
        rcases ihsecond.mp hback with ⟨hrest, hsecond⟩
        refine ⟨?_, Derives.seq hfirst hsecond⟩
        rw [hwhole, hrest]
        simp [Cut.prepend]
      · rintro ⟨hwhole, hderives⟩
        cases cut with
        | mk text rest =>
            cases hderives with
            | seq hfirst hsecond =>
                rename_i s u
                refine ⟨⟨s, u ++ rest⟩, ihfirst.mpr ⟨?_, hfirst⟩, List.mem_map.mpr ?_⟩
                · exact hwhole.trans (List.append_assoc s u rest)
                · exact ⟨⟨u, rest⟩, ihsecond.mpr ⟨rfl, hsecond⟩, rfl⟩
  | alt first second ihfirst ihsecond =>
      rw [attempts, List.mem_append, ihfirst, ihsecond]
      constructor
      · rintro (⟨hwhole, h⟩ | ⟨hwhole, h⟩)
        · exact ⟨hwhole, Derives.left h⟩
        · exact ⟨hwhole, Derives.right h⟩
      · rintro ⟨hwhole, hderives⟩
        cases hderives with
        | left h =>
            exact Or.inl ⟨hwhole, h⟩
        | right h =>
            exact Or.inr ⟨hwhole, h⟩

theorem match?_eq_none_iff {grammar : Grammar} {t : Text} :
    grammar.match? t = none ↔ ∀ part, part <+: t → ¬ grammar.Derives part := by
  rw [match?, List.head?_eq_none_iff, List.eq_nil_iff_forall_not_mem]
  constructor
  · rintro h part ⟨rest, hwhole⟩ hderives
    exact h ⟨part, rest⟩ (mem_attempts_iff.mpr ⟨hwhole.symm, hderives⟩)
  · intro h cut hmem
    rcases mem_attempts_iff.mp hmem with ⟨hwhole, hderives⟩
    exact h cut.text ⟨cut.rest, hwhole.symm⟩ hderives

theorem derives_of_match? {grammar : Grammar} {t : Text} {cut : Cut}
    (h : grammar.match? t = some cut) : t = cut.text ++ cut.rest ∧ grammar.Derives cut.text :=
  mem_attempts_iff.mp (List.mem_of_mem_head? h)

/-!
## Reading on behind an attempt
-/

/-- The first attempt that the rest of an expression, given by `next`, can go on from. -/
def find? (grammar : Grammar) (t : Text) (next : Cut → Option Cut) : Option Cut :=
  (grammar.attempts t).findSome? next

section

variable {kind : Char → Bool} {t : Text} {next : Cut → Option Cut}

theorem match?_eq_find? (grammar : Grammar) (t : Text) :
    grammar.match? t = grammar.find? t some := by
  rw [match?, find?]
  cases grammar.attempts t with
  | nil =>
      rfl
  | cons cut cuts =>
      rfl

theorem find?_seq (first second : Grammar) (t : Text) (next : Cut → Option Cut) :
    (seq first second).find? t next =
      first.find? t fun cut => second.find? cut.rest fun back => next (back.prepend cut.text) := by
  simp only [find?, attempts]
  induction first.attempts t with
  | nil =>
      rfl
  | cons cut cuts ih =>
      rw [List.flatMap_cons, List.findSome?_append, ih, List.findSome?_cons, List.findSome?_map]
      cases hfound : List.findSome? (fun back => next (back.prepend cut.text))
        (second.attempts cut.rest) with
      | none =>
          simp [Function.comp_def, hfound]
      | some found =>
          simp [Function.comp_def, hfound]

theorem find?_alt (first second : Grammar) (t : Text) (next : Cut → Option Cut) :
    (alt first second).find? t next = (first.find? t next).or (second.find? t next) :=
  List.findSome?_append

theorem find?_optional (grammar : Grammar) (t : Text) (next : Cut → Option Cut) :
    (optional grammar).find? t next = (grammar.find? t next).or (next ⟨[], t⟩) := by
  rw [optional, find?_alt]
  simp [find?, attempts]

theorem find?_char_cons_of_pos {c : Char} (hc : kind c = true) :
    (char kind).find? (c :: t) next = next ⟨[c], t⟩ := by
  simp [find?, attempts, hc]

theorem find?_char_of_opensOutside (ht : Text.OpensOutside kind t) :
    (char kind).find? t next = none := by
  cases t with
  | nil =>
      rfl
  | cons c t =>
      simp [find?, attempts, Text.opensOutside_cons.mp ht]

/-!
## Repetitions that never give back
-/

theorem exists_runs_eq_cons (kind : Char → Bool) (t : Text) :
    ∃ shorter, runs kind t = ⟨t.takeWhile kind, t.dropWhile kind⟩ :: shorter ∧
      ∀ cut ∈ shorter, ¬ Text.OpensOutside kind cut.rest := by
  induction t with
  | nil =>
      exact ⟨[], rfl, by simp⟩
  | cons c t ih =>
      by_cases hc : kind c = true
      · rcases ih with ⟨shorter, hruns, hopens⟩
        refine ⟨shorter.map (Cut.prepend [c]) ++ [⟨[], c :: t⟩], ?_, ?_⟩
        · simp [runs, hc, hruns, Cut.prepend]
        · intro cut hcut
          rcases List.mem_append.mp hcut with hmem | hlast
          · rcases List.mem_map.mp hmem with ⟨shorter, hshorter, rfl⟩
            exact hopens shorter hshorter
          · rw [List.mem_singleton.mp hlast]
            simp [hc]
      · refine ⟨[], ?_, by simp⟩
        simp [runs, hc]

/-- A repetition is as long as it can be if no shorter one helps the rest of the
expression. -/
theorem find?_many
    (hback : next ⟨t.takeWhile kind, t.dropWhile kind⟩ = none →
      ∀ cut : Cut, ¬ Text.OpensOutside kind cut.rest → next cut = none) :
    (many kind).find? t next = next ⟨t.takeWhile kind, t.dropWhile kind⟩ := by
  rcases exists_runs_eq_cons kind t with ⟨shorter, hruns, hopens⟩
  rw [find?, attempts, hruns, List.findSome?_cons]
  cases hlongest : next ⟨t.takeWhile kind, t.dropWhile kind⟩ with
  | some found =>
      rfl
  | none =>
      rw [List.findSome?_eq_none_iff]
      intro cut hcut
      exact hback hlongest cut (hopens cut hcut)

theorem find?_atLeastOne_of_opensOutside (ht : Text.OpensOutside kind t) :
    (atLeastOne kind).find? t next = none := by
  rw [atLeastOne, find?_seq]
  exact find?_char_of_opensOutside ht

theorem find?_atLeastOne {c : Char} {word : Text} (hword : t.takeWhile kind = c :: word)
    (hback : next ⟨c :: word, t.dropWhile kind⟩ = none →
      ∀ cut : Cut, ¬ Text.OpensOutside kind cut.rest → next cut = none) :
    (atLeastOne kind).find? t next = next ⟨c :: word, t.dropWhile kind⟩ := by
  cases t with
  | nil =>
      cases hword
  | cons d t =>
      by_cases hd : kind d = true
      · simp only [List.takeWhile_cons, hd, if_true, List.cons.injEq] at hword
        rcases hword with ⟨rfl, rfl⟩
        have hdrop : (d :: t).dropWhile kind = t.dropWhile kind := by
          simp [hd]
        rw [hdrop] at hback ⊢
        rw [atLeastOne, find?_seq, find?_char_cons_of_pos hd]
        apply find?_many
        intro hnone cut hopens
        exact hback hnone (cut.prepend [d]) hopens
      · simp [hd] at hword

end

/-!
## Each part of a token
-/

theorem find?_quote_cons (t : Text) (next : Cut → Option Cut) :
    quote.find? ('"' :: t) next = next ⟨['"'], t⟩ :=
  find?_char_cons_of_pos (by simp)

theorem find?_quote_of_head {t : Text} (next : Cut → Option Cut) (h : '"' ∉ t.head?) :
    quote.find? t next = none := by
  apply find?_char_of_opensOutside
  intro c hc
  have hne : c ≠ '"' := fun heq => h (heq ▸ hc)
  simpa using hne

theorem find?_phrase (t : Text) (next : Cut → Option Cut) :
    phrase.find? t next = (Cut.quoted? t).bind next := by
  by_cases hquote : '"' ∈ t.head?
  · rcases List.head?_eq_some_iff.mp hquote with ⟨t, rfl⟩
    rw [phrase, find?_seq, find?_quote_cons, find?_seq]
    cases hword : t.takeWhile (fun c => decide (c ≠ '"')) with
    | nil =>
        rw [find?_atLeastOne_of_opensOutside (Text.takeWhile_eq_nil_iff.mp hword)]
        simp only [Cut.quoted?, hword]
        rfl
    | cons c word =>
        rw [find?_atLeastOne hword]
        · cases hrest : t.dropWhile (fun c => decide (c ≠ '"')) with
          | nil =>
              rw [find?_quote_of_head _ (by simp)]
              simp only [Cut.quoted?, hword, hrest]
              rfl
          | cons d rest =>
              have hopens := Text.opensOutside_dropWhile (fun c => decide (c ≠ '"')) t
              rw [hrest, Text.opensOutside_cons] at hopens
              have hd : d = '"' := by simpa using hopens
              subst hd
              rw [find?_quote_cons]
              simp only [Cut.quoted?, hword, hrest]
              rfl
        · -- A shorter phrase would not be closed by a quote.
          intro _ cut hopens
          apply find?_quote_of_head
          intro hhead
          apply hopens
          intro c hc
          rw [Option.mem_unique hc hhead]
          simp
  · rw [phrase, find?_seq, find?_quote_of_head _ hquote, Cut.quoted?_eq_none_of_head hquote]
    rfl

theorem find?_plain (t : Text) (put : Cut → Cut) :
    plain.find? t (fun cut => some (put cut)) = (Cut.plain? t).map put := by
  rw [plain, find?_alt, find?_phrase]
  cases hquoted : Cut.quoted? t with
  | some cut =>
      simp [Cut.plain?, hquoted]
  | none =>
      rw [Cut.plain?_of_quoted?_none hquoted]
      cases hword : t.takeWhile Text.isGraph with
      | nil =>
          rw [find?_atLeastOne_of_opensOutside (Text.takeWhile_eq_nil_iff.mp hword)]
          simp [Cut.bare?, hword]
      | cons c word =>
          rw [find?_atLeastOne hword (by simp)]
          simp [Cut.bare?, hword]

theorem find?_label (t : Text) (next : Cut → Option Cut)
    (hnext : ∀ cut : Cut, ¬ Text.OpensOutside Text.isBlank cut.rest → next cut = none) :
    label.find? t next = (Label.read? t).bind fun parts => next ⟨parts.1.text, parts.2⟩ := by
  rw [label, find?_seq]
  cases hname : t.takeWhile Text.isAlphanumeric with
  | nil =>
      rw [find?_atLeastOne_of_opensOutside (Text.takeWhile_eq_nil_iff.mp hname)]
      simp [Label.read?, hname]
  | cons c name =>
      rw [find?_atLeastOne hname]
      · rw [find?_seq]
        cases hrest : t.dropWhile Text.isAlphanumeric with
        | nil =>
            rw [find?_char_of_opensOutside (Text.opensOutside_nil _)]
            simp [Label.read?, hname, hrest]
        | cons d rest =>
            by_cases hcolon : d = ':'
            · subst hcolon
              rw [find?_char_cons_of_pos (by simp), find?_many]
              · simp [Label.read?, hname, hrest, Label.text, Cut.prepend, Text.trimStart]
              · intro _ cut hopens
                exact hnext _ hopens
            · have hopens : Text.OpensOutside (fun c => decide (c = ':')) (d :: rest) := by
                simpa using hcolon
              rw [find?_char_of_opensOutside hopens]
              simp [Label.read?, hname, hrest, hcolon]
      · -- A shorter name would not be followed by a colon.
        intro _ cut hopens
        rw [find?_seq]
        apply find?_char_of_opensOutside
        intro d hd
        by_contra hcolon
        apply hopens
        intro c hc
        have hdc : d = ':' := by simpa using hcolon
        rw [Option.mem_unique hc hd, hdc]
        exact Text.isAlphanumeric_colon

theorem match?_token (t : Text) : token.match? t = Cut.token? t := by
  have hplain : ∀ cut : Cut, plain.find? cut.rest (fun back => some (back.prepend cut.text)) =
      (Cut.plain? cut.rest).map (Cut.prepend cut.text) :=
    fun cut => find?_plain cut.rest _
  have hback : ∀ cut : Cut, ¬ Text.OpensOutside Text.isBlank cut.rest →
      (Cut.plain? cut.rest).map (Cut.prepend cut.text) = none := by
    intro cut hopens
    rw [Option.map_eq_none_iff]
    cases hcut : Cut.plain? cut.rest with
    | none =>
        rfl
    | some found =>
        rcases Cut.head_isGraph_of_plain? hcut with ⟨c, tail, hrest, hc⟩
        rw [hrest, Text.opensOutside_cons, Text.isBlank_eq_false_of_isGraph hc] at hopens
        exact absurd rfl hopens
  rw [match?_eq_find?, token, find?_seq]
  simp only [hplain]
  rw [find?_optional, find?_label t _ hback]
  rw [Cut.prepend_nil, Option.map_id_apply, Cut.token?, Cut.labelled?]
  cases Label.read? t with
  | none =>
      rfl
  | some parts =>
      cases hbehind : Cut.plain? parts.2 with
      | none =>
          simp [hbehind]
      | some cut =>
          simp [hbehind, Cut.prepend]

-- The colon could end a label, but nothing follows it that could be a word.
example : token.match? ['a', ':', ' '] = some ⟨['a', ':'], [' ']⟩ := by
  rfl

end Grammar

/-- Cutting a token takes what a backtracking reader of the grammar takes, which is a text
that the grammar derives.  It takes nothing just when the grammar derives no start of the
text, and that is when the text does not begin with a graph. -/
theorem Cut.token?_eq_match? (t : Text) :
    token? t = Grammar.token.match? t ∧
      (∀ cut, token? t = some cut →
        t = cut.text ++ cut.rest ∧ Grammar.token.Derives cut.text) ∧
      (token? t = none ↔ ∀ part, part <+: t → ¬ Grammar.token.Derives part) ∧
      (token? t = none ↔ t = [] ∨ ∃ c tail, t = c :: tail ∧ Text.isGraph c = false) := by
  have hmatch := Grammar.match?_token t
  refine ⟨hmatch.symm, ?_, ?_, ?_⟩
  · intro cut hcut
    rw [← hmatch] at hcut
    exact Grammar.derives_of_match? hcut
  · rw [← hmatch]
    exact Grammar.match?_eq_none_iff
  · rw [token?_eq_none_iff]
    cases t with
    | nil =>
        simp
    | cons c t =>
        simp

end SearchQuery
