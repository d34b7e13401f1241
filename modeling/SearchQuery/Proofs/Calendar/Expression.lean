import SearchQuery.Calendar.Expression
import SearchQuery.Proofs.Calendar.Written

/-!
# How date expressions are spelled

Four shapes are made of written dates and a hyphen.  No written date holds a
hyphen, so a text has one shape at most, whether or not its dates are days of
the calendar.
-/

namespace SearchQuery

namespace DateExpression

inductive Spelling : Text → DateExpression → Prop where
  | single {t : Text} {date : WrittenDate} (hdate : date.Spelling t) : Spelling t (single date)
  | range {low high : Text} {first last : WrittenDate} (hfirst : first.Spelling low)
      (hlast : last.Spelling high) : Spelling (low ++ '-' :: high) (range first last)
  | upTo {high : Text} {last : WrittenDate} (hlast : last.Spelling high) :
      Spelling ('-' :: high) (upTo last)
  | onward {low : Text} {first : WrittenDate} (hfirst : first.Spelling low) :
      Spelling (low ++ ['-']) (onward first)

/-- The period that is meant when the expression is written on the day of reference.  The
last date of a range is written a year after the first one. -/
inductive Means : DateExpression → Date → Period → Prop where
  | single {written : WrittenDate} {reference date : Date}
      (hdate : written.Means reference date) : Means (single written) reference (.on date)
  | range {first last : WrittenDate} {reference start anchor stop : Date}
      (hstart : first.Means reference start) (hanchor : start.YearBefore anchor)
      (hstop : last.Means anchor stop) : Means (range first last) reference (.within start stop)
  | upTo {last : WrittenDate} {reference date : Date} (hdate : last.Means reference date) :
      Means (upTo last) reference (.onOrBefore date)
  | onward {first : WrittenDate} {reference date : Date} (hdate : first.Means reference date) :
      Means (onward first) reference (.onOrAfter date)

/-!
## Reading
-/

theorem ofSides?_nil_left {high : Text} (hne : high ≠ []) :
    ofSides? [] high = (WrittenDate.ofText? high).map upTo := by
  cases high with
  | nil =>
      exact absurd rfl hne
  | cons c high =>
      rfl

theorem ofSides?_nil_right {low : Text} (hne : low ≠ []) :
    ofSides? low [] = (WrittenDate.ofText? low).map onward := by
  cases low with
  | nil =>
      exact absurd rfl hne
  | cons c low =>
      rfl

theorem ofSides?_of_ne_nil {low high : Text} (hlow : low ≠ []) (hhigh : high ≠ []) :
    ofSides? low high =
      (WrittenDate.ofText? low).bind fun first =>
        (WrittenDate.ofText? high).map fun last => range first last := by
  cases low with
  | nil =>
      exact absurd rfl hlow
  | cons c low =>
      cases high with
      | nil =>
          exact absurd rfl hhigh
      | cons d high =>
          rfl

theorem ofText?_append_hyphen {low : Text} (high : Text) (hlow : '-' ∉ low) :
    ofText? (low ++ '-' :: high) = ofSides? low high := by
  have hnone : WrittenDate.ofText? (low ++ '-' :: high) = none := by
    cases hread : WrittenDate.ofText? (low ++ '-' :: high) with
    | none =>
        rfl
    | some written =>
        have hhyphen := (WrittenDate.spelling_of_ofText? hread).hyphen_not_mem
        exact absurd (by simp) hhyphen
  simp only [ofText?, hnone, Text.takeWhile_ne_append high hlow,
    Text.dropWhile_ne_append high hlow]

theorem ofText?_of_spelling {t : Text} {expression : DateExpression}
    (h : Spelling t expression) : ofText? t = some expression := by
  cases h with
  | single hdate =>
      simp only [ofText?, WrittenDate.ofText?_of_spelling hdate]
  | range hfirst hlast =>
      rw [ofText?_append_hyphen _ hfirst.hyphen_not_mem,
        ofSides?_of_ne_nil hfirst.ne_nil hlast.ne_nil, WrittenDate.ofText?_of_spelling hfirst,
        WrittenDate.ofText?_of_spelling hlast]
      rfl
  | upTo hlast =>
      rename_i high last
      have hread := ofText?_append_hyphen high (List.not_mem_nil (a := '-'))
      rw [List.nil_append, ofSides?_nil_left hlast.ne_nil,
        WrittenDate.ofText?_of_spelling hlast] at hread
      exact hread
  | onward hfirst =>
      rw [ofText?_append_hyphen _ hfirst.hyphen_not_mem, ofSides?_nil_right hfirst.ne_nil,
        WrittenDate.ofText?_of_spelling hfirst]
      rfl

theorem spelling_of_ofSides? {low high : Text} {expression : DateExpression}
    (h : ofSides? low high = some expression) : Spelling (low ++ '-' :: high) expression := by
  by_cases hlow : low = []
  · by_cases hhigh : high = []
    · rw [hlow, hhigh] at h
      cases h
    · rw [hlow, ofSides?_nil_left hhigh] at h
      rcases Option.map_eq_some_iff.mp h with ⟨last, hlast, rfl⟩
      rw [hlow]
      exact Spelling.upTo (WrittenDate.spelling_of_ofText? hlast)
  · by_cases hhigh : high = []
    · rw [hhigh, ofSides?_nil_right hlow] at h
      rcases Option.map_eq_some_iff.mp h with ⟨first, hfirst, rfl⟩
      rw [hhigh]
      exact Spelling.onward (WrittenDate.spelling_of_ofText? hfirst)
    · rw [ofSides?_of_ne_nil hlow hhigh] at h
      rcases Option.bind_eq_some_iff.mp h with ⟨first, hfirst, h⟩
      rcases Option.map_eq_some_iff.mp h with ⟨last, hlast, rfl⟩
      exact Spelling.range (WrittenDate.spelling_of_ofText? hfirst)
        (WrittenDate.spelling_of_ofText? hlast)

theorem spelling_of_ofText? {t : Text} {expression : DateExpression}
    (h : ofText? t = some expression) : Spelling t expression := by
  unfold ofText? at h
  split at h
  · next date hdate =>
      rw [Option.some.injEq] at h
      rw [← h]
      exact Spelling.single (WrittenDate.spelling_of_ofText? hdate)
  · split at h
    · cases h
    · next c high hrest =>
        have hsplit := List.takeWhile_append_dropWhile (p := fun x => decide (x ≠ '-')) (l := t)
        have hopens := Text.opensOutside_dropWhile (fun x => decide (x ≠ '-')) t
        rw [hrest] at hsplit hopens
        have hc : c = '-' := by
          simpa using hopens
        rw [← hsplit, hc]
        exact spelling_of_ofSides? h

/-!
## Meaning
-/

theorem resolve?_eq_some_iff {expression : DateExpression} {reference : Date} {period : Period} :
    expression.resolve? reference = some period ↔ expression.Means reference period := by
  cases expression with
  | single written =>
      simp only [resolve?, Option.map_eq_some_iff, WrittenDate.resolve?_eq_some_iff]
      constructor
      · intro h
        rcases h with ⟨date, hdate, rfl⟩
        exact Means.single hdate
      · intro h
        cases h with
        | single hdate =>
            exact ⟨_, hdate, rfl⟩
  | range first last =>
      simp only [resolve?, Option.bind_eq_some_iff, Option.map_eq_some_iff,
        WrittenDate.resolve?_eq_some_iff, Date.nextYear?_eq_some_iff]
      constructor
      · intro h
        rcases h with ⟨start, hstart, anchor, hanchor, stop, hstop, rfl⟩
        exact Means.range hstart hanchor hstop
      · intro h
        cases h with
        | range hstart hanchor hstop =>
            exact ⟨_, hstart, _, hanchor, _, hstop, rfl⟩
  | upTo last =>
      simp only [resolve?, Option.map_eq_some_iff, WrittenDate.resolve?_eq_some_iff]
      constructor
      · intro h
        rcases h with ⟨date, hdate, rfl⟩
        exact Means.upTo hdate
      · intro h
        cases h with
        | upTo hdate =>
            exact ⟨_, hdate, rfl⟩
  | onward first =>
      simp only [resolve?, Option.map_eq_some_iff, WrittenDate.resolve?_eq_some_iff]
      constructor
      · intro h
        rcases h with ⟨date, hdate, rfl⟩
        exact Means.onward hdate
      · intro h
        cases h with
        | onward hdate =>
            exact ⟨_, hdate, rfl⟩

/-!
## The characters of an expression
-/

theorem Spelling.isDigit_or_mem {t : Text} {expression : DateExpression}
    (h : Spelling t expression) {c : Char} (hc : c ∈ t) : c.isDigit = true ∨ c = '/' ∨ c = '-' := by
  have hwritten : ∀ {t : Text} {written : WrittenDate}, written.Spelling t → c ∈ t →
      c.isDigit = true ∨ c = '/' ∨ c = '-' := by
    intro t written hspelling hmem
    rcases hspelling.isDigit_or_eq_slash hmem with hdigit | hslash
    · exact Or.inl hdigit
    · exact Or.inr (Or.inl hslash)
  cases h with
  | single hdate =>
      exact hwritten hdate hc
  | range hfirst hlast =>
      rcases List.mem_append.mp hc with hc | hc
      · exact hwritten hfirst hc
      · rcases List.mem_cons.mp hc with hc | hc
        · exact Or.inr (Or.inr hc)
        · exact hwritten hlast hc
  | upTo hlast =>
      rcases List.mem_cons.mp hc with hc | hc
      · exact Or.inr (Or.inr hc)
      · exact hwritten hlast hc
  | onward hfirst =>
      rcases List.mem_append.mp hc with hc | hc
      · exact hwritten hfirst hc
      · exact Or.inr (Or.inr (List.mem_singleton.mp hc))

theorem Spelling.not_mem {t : Text} {expression : DateExpression} (h : Spelling t expression)
    {c : Char} (hdigit : c.isDigit = false) (hslash : c ≠ '/') (hhyphen : c ≠ '-') : c ∉ t := by
  intro hmem
  rcases h.isDigit_or_mem hmem with hc | hc | hc
  · rw [hdigit] at hc
    cases hc
  · exact hslash hc
  · exact hhyphen hc

theorem Spelling.isGraph {t : Text} {expression : DateExpression} (h : Spelling t expression)
    {c : Char} (hc : c ∈ t) : Text.isGraph c = true := by
  rcases h.isDigit_or_mem hc with hdigit | rfl | rfl
  · exact Text.isGraph_of_isDigit hdigit
  · decide
  · decide

theorem Spelling.opensOutside {t : Text} {expression : DateExpression}
    (h : Spelling t expression) : Text.OpensOutside Text.isBlank t :=
  Text.opensOutside_of_isGraph fun _ hc => h.isGraph hc

theorem Spelling.ne_nil {t : Text} {expression : DateExpression} (h : Spelling t expression) :
    t ≠ [] := by
  cases h with
  | single hdate =>
      exact hdate.ne_nil
  | range hfirst hlast =>
      simp
  | upTo hlast =>
      simp
  | onward hfirst =>
      simp

end DateExpression

end SearchQuery
