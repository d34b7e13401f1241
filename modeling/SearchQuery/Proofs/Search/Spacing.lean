import SearchQuery.Proofs.Search.Exclusion
import SearchQuery.Proofs.Search.Respaced
import SearchQuery.Search.ChainRule

/-!
# White space behind a label

Most rules make nothing of the white space between a label and the body of a
token: they go by the label and the body, or they decline whatever has a colon in
it.  The pattern of an amount does not, since it wants a single space there.
-/

namespace SearchQuery

universe u

variable {Scope : Type u}

/-!
## Characters that are no digits
-/

theorem CharTable.holds_eq_false {table other : CharTable} {c : Char}
    (hapart : ∀ range ∈ table, ∀ range' ∈ other, range.2 < range'.1 ∨ range'.2 < range.1)
    (hc : table.holds c = true) : other.holds c = false := by
  cases hother : other.holds c with
  | false =>
      rfl
  | true =>
      rcases holds_iff.mp hc with ⟨range, hrange, hfirst, hlast⟩
      rcases holds_iff.mp hother with ⟨range', hrange', hfirst', hlast'⟩
      have := hapart range hrange range' hrange'
      omega

theorem Text.isDecimalDigit_eq_false_of_isBlank {c : Char} (h : isBlank c = true) :
    isDecimalDigit c = false :=
  CharTable.holds_eq_false (by decide) h

/-!
## Up to the first such character
-/

namespace Text

theorem eq_of_append_cons {c : Char} {s s' t t' : Text} (hs : c ∉ s) (hs' : c ∉ s')
    (h : s ++ c :: t = s' ++ c :: t') : s = s' := by
  rw [← takeWhile_ne_append t hs, h, takeWhile_ne_append t' hs']

theorem after?_append_eq_bind (start next t : Text) :
    after? (start ++ next) t = (after? start t).bind (after? next) := by
  induction start generalizing t with
  | nil =>
      rfl
  | cons c start ih =>
      cases t with
      | nil =>
          rfl
      | cons d t =>
          simp only [List.cons_append, after?]
          split
          · exact ih t
          · rfl

theorem mem_takeWhile_or_mem {c d first : Char} {t rest : Text} (hc : c ∈ t) (hne : c ≠ d)
    (hrest : t.dropWhile (· ≠ d) = first :: rest) : c ∈ t.takeWhile (· ≠ d) ∨ c ∈ rest := by
  rw [eq_append_of_dropWhile_ne hrest, List.mem_append, List.mem_cons] at hc
  rcases hc with hc | hc | hc
  · exact Or.inl hc
  · exact absurd hc hne
  · exact Or.inr hc

end Text

/-!
## Patterns
-/

namespace Pattern

theorem isDecimalDigit_of_isNumber {t : Text} (h : isNumber t = true) {c : Char} (hc : c ∈ t) :
    Text.isDecimalDigit c = true := by
  rw [isNumber, Bool.and_eq_true, List.all_eq_true] at h
  exact h.2 c hc

theorem not_mem_of_isNumber {c : Char} (hc : Text.isDecimalDigit c = false) {t : Text}
    (h : isNumber t = true) : c ∉ t := by
  intro hmem
  rw [isDecimalDigit_of_isNumber h hmem] at hc
  cases hc

theorem colon_not_mem_of_isNumber {t : Text} (h : isNumber t = true) : ':' ∉ t :=
  not_mem_of_isNumber (by decide) h

theorem isAmount_of_opensBlank {t : Text} (h : Text.OpensBlank t) : isAmount t = false := by
  cases t with
  | nil =>
      rfl
  | cons c t =>
      have hc := Text.isDecimalDigit_eq_false_of_isBlank (Text.opensBlank_cons.mp h)
      have hdot : c ≠ '.' := by
        rintro rfl
        exact absurd (Text.opensBlank_cons.mp h) (by decide)
      simp [isAmount, isNumber, hdot, hc]

theorem comparison_of_colon {word t : Text} (hword : ':' ∉ word) (ht : ':' ∈ t) :
    comparison word t = none := by
  unfold comparison
  split
  · next sign value hafter =>
      rw [if_neg]
      rintro ⟨hsign, hvalue⟩
      rw [Text.after?_eq_some_iff.mp hafter, List.mem_append, List.mem_cons] at ht
      rcases ht with ht | ht | ht
      · exact hword ht
      · rw [← ht] at hsign
        exact absurd hsign (by decide)
      · exact colon_not_mem_of_isNumber hvalue ht
  · rfl

theorem date_of_colon {t : Text} (ht : ':' ∈ t) : date t = none := by
  unfold date
  split
  · rfl
  · next first rest hrest =>
      split
      · rfl
      · next second year hyear =>
          rw [if_neg]
          rintro ⟨hmonth, -, hday, -, hyear', -⟩
          rcases Text.mem_takeWhile_or_mem ht (by decide) hrest with ht | ht
          · exact colon_not_mem_of_isNumber hmonth ht
          · rcases Text.mem_takeWhile_or_mem ht (by decide) hyear with ht | ht
            · exact colon_not_mem_of_isNumber hday ht
            · exact colon_not_mem_of_isNumber hyear' ht

end Pattern

/-!
## Tokens with a label
-/

namespace Token

variable {token : Token} {name gap body : Text}

theorem raw_of_split? (h : token.split? = some (⟨name, gap⟩, body)) :
    token.raw = name ++ ':' :: (gap ++ body) := by
  rw [(split?_eq_some_iff.mp h).2.2.2, Label.text_append]

theorem colon_mem_of_split? (h : token.split? = some (⟨name, gap⟩, body)) : ':' ∈ token.raw := by
  rw [raw_of_split? h]
  simp

theorem colon_not_mem_name (h : token.split? = some (⟨name, gap⟩, body)) : ':' ∉ name := by
  intro hmem
  have halphanumeric := (split?_eq_some_iff.mp h).1.name_alphanumeric ':' hmem
  rw [Text.isAlphanumeric_colon] at halphanumeric
  cases halphanumeric

theorem after?_of_split? (h : token.split? = some (⟨name, gap⟩, body)) {label : Text}
    (hlabel : ':' ∉ label) :
    Text.after? (label ++ [':']) token.raw = if name = label then some (gap ++ body) else none := by
  rw [raw_of_split? h]
  split
  · next hname =>
      rw [Text.after?_eq_some_iff, hname]
      simp
  · next hname =>
      cases hafter : Text.after? (label ++ [':']) (name ++ ':' :: (gap ++ body)) with
      | none =>
          rfl
      | some rest =>
          have htext := Text.after?_eq_some_iff.mp hafter
          rw [List.append_assoc, List.singleton_append] at htext
          exact absurd (Text.eq_of_append_cons (colon_not_mem_name h) hlabel htext) hname

theorem trimStart_of_split? (h : token.split? = some (⟨name, gap⟩, body)) :
    Text.trimStart (gap ++ body) = body := by
  rcases split?_eq_some_iff.mp h with ⟨hlabel, -, hopens, -⟩
  rw [Text.trimStart_append_of_blank body hlabel.gap_blank, Text.trimStart_eq_self hopens]

end Token

namespace Pattern

variable {token : Token} {name gap body label : Text}

theorem number_of_split? (h : token.split? = some (⟨name, gap⟩, body)) (hlabel : ':' ∉ label) :
    (number label token.raw).map Found.groups =
      if name = label ∧ isNumber body = true then some [some body] else none := by
  rw [number, Token.after?_of_split? h hlabel]
  by_cases hname : name = label
  · simp only [hname, if_true, Token.trimStart_of_split? h, true_and]
    split
    · rfl
    · rfl
  · simp [hname]

theorem amount_of_split? (h : token.split? = some (⟨name, gap⟩, body)) (hlabel : ':' ∉ label) :
    (amount label token.raw).map Found.groups =
      if name = label ∧ gap = [' '] ∧ isAmount body = true then some [some body] else none := by
  rcases Token.split?_eq_some_iff.mp h with ⟨hwell, -, hopens, -⟩
  have hafter : Text.after? (label ++ [':', ' ']) token.raw =
      (if name = label then some (gap ++ body) else none).bind (Text.after? [' ']) := by
    rw [← Token.after?_of_split? h hlabel, ← Text.after?_append_eq_bind, List.append_assoc]
    rfl
  rw [amount, hafter]
  by_cases hname : name = label
  · rw [if_pos hname, Option.bind_some]
    cases gap with
    | nil =>
        have hnone : Text.after? [' '] body = none := by
          cases hspace : Text.after? [' '] body with
          | none =>
              rfl
          | some rest =>
              rw [Text.after?_eq_some_iff.mp hspace] at hopens
              exact absurd (Text.opensOutside_cons.mp hopens) (by decide)
        simp [hnone]
    | cons c gap =>
        by_cases hc : c = ' '
        · have hspace : Text.after? [' '] (c :: gap ++ body) = some (gap ++ body) := by
            rw [hc]
            exact Text.after?_append [' '] (gap ++ body)
          rw [hspace]
          cases gap with
          | nil =>
              simp only [List.nil_append, hname, hc, true_and]
              split
              · rfl
              · rfl
          | cons d gap =>
              -- More white space than the single one that the pattern has is no digit.
              have hblank := hwell.gap_blank d (by simp)
              have hamount : isAmount (d :: (gap ++ body)) = false :=
                isAmount_of_opensBlank (Text.opensBlank_cons.mpr hblank)
              simp [hamount]
        · have hspace : Text.after? [' '] (c :: gap ++ body) = none := by
            simp [Text.after?, Ne.symm hc]
          rw [hspace]
          simp [hc]
  · rw [if_neg hname]
    simp [hname]

end Pattern

/-!
## Single rules
-/

theorem Rule.overlooksGaps_of_declines {rule : Rule Scope}
    (h : ∀ token scope, ':' ∈ token.raw → rule.claim? token scope = none) :
    rule.OverlooksGaps := by
  intro token other hrespaced scope
  rcases hrespaced with ⟨name, gap, gap', body, htoken, hother⟩
  rw [h token scope (Token.colon_mem_of_split? htoken),
    h other scope (Token.colon_mem_of_split? hother)]

theorem DateRule.claim?_eq_none_of_split? [DateScope Scope] {rule : DateRule Scope} (today : Date)
    {token : Token} {name gap body : Text} (h : token.split? = some (⟨name, gap⟩, body))
    (hlabel : ∀ label ∈ rule.label, ':' ∉ label) (hbody : rule.label = some name → ':' ∈ body)
    (scope : Scope) : rule.claim? today token scope = none := by
  have hunread : ∀ expression, ¬ rule.Reads token.raw expression := by
    intro expression hreads
    rcases hreads with ⟨lead, t, hlead, ht, hraw⟩
    have hcolon := Token.colon_mem_of_split? h
    rw [Token.raw_of_split? h] at hraw
    unfold Leads at hlead
    cases hrule : rule.label with
    | none =>
        rw [hrule] at hlead
        simp only at hlead
        rw [Token.raw_of_split? h, hraw, hlead, List.nil_append] at hcolon
        exact ht.colon_not_mem hcolon
    | some label =>
        rw [hrule] at hlead
        rcases hlead with ⟨gap', hgap', rfl⟩
        rw [List.append_assoc, List.cons_append] at hraw
        have hname := Text.eq_of_append_cons (Token.colon_not_mem_name h) (hlabel label hrule) hraw
        rw [← hname] at hraw hrule
        have hrest := (List.cons.inj (List.append_cancel_left hraw)).2
        have hmem : ':' ∈ gap ++ body := List.mem_append_right gap (hbody hrule)
        rw [hrest, List.mem_append] at hmem
        exact hmem.elim hgap'.colon_not_mem ht.colon_not_mem
  rw [claim?, period?_eq_none_of_unread hunread, Option.map_none]

theorem DateRule.toRule_overlooksGaps [DateScope Scope] {rule : DateRule Scope} (today : Date)
    (hlabel : ∀ label ∈ rule.label, ':' ∉ label) : (rule.toRule today).OverlooksGaps := by
  intro token other hrespaced scope
  rcases hrespaced with ⟨name, gap, gap', body, htoken, hother⟩
  by_cases hname : rule.label = some name
  · have hexpression : ∀ {token : Token} {gap : Text},
        token.split? = some (⟨name, gap⟩, body) → rule.expression? token.raw = some body := by
      intro token gap h
      simp only [expression?, hname, Token.after?_of_split? h (hlabel name hname), if_true,
        Option.map_some, Token.trimStart_of_split? h]
    simp only [toRule, claim?, period?, hexpression htoken, hexpression hother]
  · have hdeclined : rule.label = some name → ':' ∈ body := fun h => absurd h hname
    exact (claim?_eq_none_of_split? today htoken hlabel hdeclined scope).trans
      (claim?_eq_none_of_split? today hother hlabel hdeclined scope).symm

namespace ChainRule

theorem labelled_overlooksGaps (name label : Text) (table : Option Text) (column : Column) :
    (labelled name label table column).OverlooksGaps := by
  intro token other hrespaced chain
  rcases hrespaced with ⟨name, gap, gap', body, htoken, hother⟩
  have hlabel : token.label? = other.label? := by
    rw [Token.label?_of_split? htoken, Token.label?_of_split? hother]
  have hterm : token.term = other.term := by
    rw [Token.term, Token.term, Token.body_of_split? htoken, Token.body_of_split? hother]
  simp only [labelled, hlabel, hterm]

theorem compared_overlooksGaps (name : Text) {word : Text} (column : Column) (hword : ':' ∉ word) :
    (compared name word column).OverlooksGaps := by
  apply Rule.overlooksGaps_of_declines
  intro token chain hcolon
  have hcomparison := Pattern.comparison_of_colon hword hcolon
  simp only [compared, adding, hcomparison, Option.map_none]

theorem dated_overlooksGaps (name : Text) (column : Column) :
    (dated name column).OverlooksGaps := by
  apply Rule.overlooksGaps_of_declines
  intro token chain hcolon
  have hdate := Pattern.date_of_colon hcolon
  simp only [dated, adding, fullDate?, hdate, Option.map_none]

theorem found_claim?_congr {name : Text} {pattern : Pattern} {column : Column} {token other : Token}
    (h : (pattern token.raw).map Found.groups = (pattern other.raw).map Found.groups)
    (chain : Chain) :
    (found name pattern column).claim? token chain =
      (found name pattern column).claim? other chain := by
  have hclaim : ∀ token : Token, (found name pattern column).claim? token chain =
      ((pattern token.raw).map Found.groups).map fun groups =>
        chain.add (.equals column (groups.head?.join.getD [])) := by
    intro token
    simp only [found, adding, Option.map_map]
    rfl
  rw [hclaim, hclaim, h]

theorem found_number_overlooksGaps (name : Text) {label : Text} (column : Column)
    (hlabel : ':' ∉ label) : (found name (Pattern.number label) column).OverlooksGaps := by
  intro token other hrespaced chain
  rcases hrespaced with ⟨_, gap, gap', body, htoken, hother⟩
  apply found_claim?_congr
  rw [Pattern.number_of_split? htoken hlabel, Pattern.number_of_split? hother hlabel]

end ChainRule

end SearchQuery
