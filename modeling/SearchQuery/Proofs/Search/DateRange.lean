import SearchQuery.Proofs.Calendar.Range
import SearchQuery.Proofs.Search.DateRule

/-!
# Ranges that a date rule reads

Two written dates with a hyphen between them ask for the days from one to the
other.  A last date without its year makes a range of a year at most, which
never runs backward.  Two dates with their years are taken as they are, on
whatever day they are read, unless the first one is in the last year of the
calendar: nothing is asked for then.
-/

namespace SearchQuery

universe u

variable {Scope : Type u}

namespace DateRule

def columnRule (label : Option Text) : DateRule Chain :=
  { field := ⟨['t'], ['d']⟩, label := label }

section

variable {rule : DateRule Scope} {lead low high t : Text} {first last written : WrittenDate}
  {today : Date}

theorem period?_iff_of_reads {raw : Text} {expression : DateExpression}
    (h : rule.Reads raw expression) {period : Period} :
    rule.period? today ⟨raw⟩ = some period ↔
      expression.Means (rule.reference.getD today) period := by
  rw [period?_eq_some_iff]
  constructor
  · intro hperiod
    rcases hperiod with ⟨other, hreads, hmeans⟩
    rwa [h.unique hreads]
  · intro hmeans
    exact ⟨expression, h, hmeans⟩

theorem period?_single_iff (hlead : rule.Leads lead) (ht : written.Spelling t) {date : Date} :
    rule.period? today ⟨lead ++ t⟩ = some (.on date) ↔
      written.Means (rule.reference.getD today) date := by
  rw [period?_iff_of_reads ⟨lead, t, hlead, .single ht, rfl⟩]
  constructor
  · intro h
    cases h with
    | single hdate =>
        exact hdate
  · exact DateExpression.Means.single

theorem period?_range_iff (hlead : rule.Leads lead) (hfirst : first.Spelling low)
    (hlast : last.Spelling high) {period : Period} :
    rule.period? today ⟨lead ++ (low ++ '-' :: high)⟩ = some period ↔
      ∃ start after stop, first.Means (rule.reference.getD today) start ∧
        start.YearBefore after ∧ last.Means after stop ∧ period = .within start stop :=
  (period?_iff_of_reads ⟨lead, _, hlead, .range hfirst hlast, rfl⟩).trans
    DateExpression.means_range_iff

/-!
## A last date without its year
-/

/-- A range whose last date has no year runs forward and ends a year after its first day at
the latest.  It ends in the year of its first day if the name of the last one comes later in
the year, or both are the leap day, and in the next year otherwise.  A year that has the day
is all that is wanted for the range to be read, but for the last year of the calendar. -/
theorem period?_of_yearless_last (hlead : rule.Leads lead) (hfirst : first.Spelling low)
    (hlast : last.Spelling high) (hyear : last.year = none) (today : Date) :
    (∀ start stop,
        rule.period? today ⟨lead ++ (low ++ '-' :: high)⟩ = some (.within start stop) →
          first.resolve? (rule.reference.getD today) = some start ∧
            (stop.month = last.month ∧ stop.day = last.day) ∧
            start ≤ stop ∧ (∃ after, start.YearBefore after ∧ stop ≤ after) ∧
            (stop.year = start.year ↔ start.PrecedesName last.month last.day) ∧
            (¬ start.PrecedesName last.month last.day → stop.year = start.year + 1)) ∧
      ∀ start, first.resolve? (rule.reference.getD today) = some start → start.year ≤ 9998 →
        Calendar.IsDate (start.closingYear last.month last.day) last.month last.day →
          ∃ stop,
            rule.period? today ⟨lead ++ (low ++ '-' :: high)⟩ = some (.within start stop) := by
  constructor
  · intro start stop h
    rcases (period?_range_iff hlead hfirst hlast).mp h with
      ⟨start', after, stop', hstart, hafter, hstop, hperiod⟩
    cases hperiod
    rcases (WrittenDate.means_iff_of_yearBefore hyear hafter).mp hstop with
      ⟨hmonth, hday, hclosing⟩
    have hown : stop.year = start.closingYear stop.month stop.day := by
      rw [hmonth, hday, hclosing]
    refine ⟨WrittenDate.resolve?_eq_some_iff.mpr hstart, ⟨hmonth, hday⟩,
      Date.le_of_year_eq_closingYear hown,
      ⟨after, hafter, Date.le_yearBefore_of_year_eq_closingYear hown hafter⟩, ?_, ?_⟩
    · rw [hclosing, Date.closingYear_eq_year_iff]
    · intro hprecedes
      rw [hclosing, Date.closingYear_of_not_precedes hprecedes]
  · intro start hstart hlastYear hdate
    rcases Date.exists_yearBefore hlastYear with ⟨after, hafter⟩
    refine ⟨⟨_, _, _, hdate⟩, (period?_range_iff hlead hfirst hlast).mpr
      ⟨start, after, _, WrittenDate.resolve?_eq_some_iff.mp hstart, hafter, ?_, rfl⟩⟩
    exact (WrittenDate.means_iff_of_yearBefore hyear hafter).mpr ⟨rfl, rfl, rfl⟩

theorem period?_of_yearless_last_new_year :
    (columnRule (some ['p'])).Leads ['p', ':', ' '] ∧
      WrittenDate.Spelling "12/1" ⟨12, 1, none⟩ ∧ WrittenDate.Spelling "1/31" ⟨1, 31, none⟩ ∧
      ∃ stop, (columnRule (some ['p'])).period? ⟨1776, 7, 4, by decide⟩
            ⟨['p', ':', ' '] ++ ("12/1".toList ++ '-' :: "1/31".toList)⟩ =
          some (.within ⟨1775, 12, 1, by decide⟩ stop) ∧
        stop.year = 1776 := by
  have hlead : (columnRule (some ['p'])).Leads ['p', ':', ' '] := ⟨[' '], by decide, rfl⟩
  have hfirst : WrittenDate.Spelling "12/1" ⟨12, 1, none⟩ :=
    WrittenDate.spelling_of_ofText? rfl
  have hlast : WrittenDate.Spelling "1/31" ⟨1, 31, none⟩ :=
    WrittenDate.spelling_of_ofText? rfl
  rcases period?_of_yearless_last hlead hfirst hlast rfl ⟨1776, 7, 4, by decide⟩ with
    ⟨hends, hread⟩
  rcases hread ⟨1775, 12, 1, by decide⟩ rfl (by decide) (by decide) with ⟨stop, hstop⟩
  rcases hends _ stop hstop with ⟨-, -, -, -, -, hnext⟩
  exact ⟨hlead, hfirst, hlast, stop, hstop, hnext (by decide)⟩

/-!
## Two dates with their years
-/

theorem period?_dated_iff (hlead : rule.Leads lead) (hfirst : first.Spelling low)
    (hlast : last.Spelling high) (hyear : first.year.isSome = true)
    (hyear' : last.year.isSome = true) (today : Date) (period : Period) :
    rule.period? today ⟨lead ++ (low ++ '-' :: high)⟩ = some period ↔
      ∃ start stop, first = .ofDate start ∧ last = .ofDate stop ∧ start.year ≤ 9998 ∧
        period = .within start stop := by
  rw [period?_range_iff hlead hfirst hlast]
  constructor
  · intro h
    rcases h with ⟨start, after, stop, hstart, hafter, hstop, hperiod⟩
    exact ⟨start, stop, (WrittenDate.means_iff_eq_ofDate hyear).mp hstart,
      (WrittenDate.means_iff_eq_ofDate hyear').mp hstop,
      Date.exists_yearBefore_iff.mp ⟨after, hafter⟩, hperiod⟩
  · intro h
    rcases h with ⟨start, stop, hstart, hstop, hlastYear, hperiod⟩
    rcases Date.exists_yearBefore hlastYear with ⟨after, hafter⟩
    exact ⟨start, after, stop, (WrittenDate.means_iff_eq_ofDate hyear).mpr hstart, hafter,
      (WrittenDate.means_iff_eq_ofDate hyear').mpr hstop, hperiod⟩

/-- A range of two dates with their years asks for the days from the one to the other,
whichever is the later, and for nothing if either is no day of the calendar or the first one
is in its last year.  It does not matter on what day the range is read. -/
theorem period?_of_dated_ends (hlead : rule.Leads lead) (hfirst : first.Spelling low)
    (hlast : last.Spelling high) (hyear : first.year.isSome = true)
    (hyear' : last.year.isSome = true) (today : Date) :
    (∀ period, rule.period? today ⟨lead ++ (low ++ '-' :: high)⟩ = some period ↔
        ∃ start stop, first = .ofDate start ∧ last = .ofDate stop ∧ start.year ≤ 9998 ∧
          period = .within start stop) ∧
      (rule.period? today ⟨lead ++ (low ++ '-' :: high)⟩ = none ↔
        (∀ start, first ≠ .ofDate start) ∨ (∀ stop, last ≠ .ofDate stop) ∨
          first.year = some 9999) ∧
      ∀ (reference : Option Date) (other : Date),
        { rule with reference := reference }.period? other ⟨lead ++ (low ++ '-' :: high)⟩ =
          rule.period? today ⟨lead ++ (low ++ '-' :: high)⟩ := by
  have hperiod := period?_dated_iff hlead hfirst hlast hyear hyear'
  refine ⟨hperiod today, ?_, ?_⟩
  · rw [Option.eq_none_iff_forall_ne_some]
    constructor
    · intro hnone
      by_contra hsome
      rcases not_or.mp hsome with ⟨hstart, hsome⟩
      rcases not_or.mp hsome with ⟨hstop, hlastYear⟩
      rcases not_forall_not.mp hstart with ⟨start, rfl⟩
      rcases not_forall_not.mp hstop with ⟨stop, rfl⟩
      have hne : start.year ≠ 9999 := fun h => hlastYear (congrArg some h)
      have hle := start.isDate.1.2
      exact hnone (.within start stop)
        ((hperiod today _).mpr ⟨start, stop, rfl, rfl, by omega, rfl⟩)
    · intro h period hsome
      rcases (hperiod today period).mp hsome with ⟨start, stop, hstart, hstop, hlastYear, -⟩
      rcases h with hnot | hnot | hlast
      · exact hnot start hstart
      · exact hnot stop hstop
      · rw [hstart] at hlast
        have hyear : start.year = 9999 := Option.some.inj hlast
        omega
  · intro reference other
    apply Option.ext
    intro period
    have hlead' : { rule with reference := reference }.Leads lead := hlead
    exact (period?_dated_iff hlead' hfirst hlast hyear hyear' other period).trans
      (hperiod today period).symm

theorem period?_of_dated_ends_last_year :
    (columnRule none).Leads [] ∧
      WrittenDate.Spelling "1/1/9999" ⟨1, 1, some 9999⟩ ∧
      WrittenDate.Spelling "12/31/9999" ⟨12, 31, some 9999⟩ ∧
      Calendar.IsDate 9999 1 1 ∧ Calendar.IsDate 9999 12 31 ∧
      (columnRule none).period? ⟨2016, 1, 1, by decide⟩
          ⟨[] ++ ("1/1/9999".toList ++ '-' :: "12/31/9999".toList)⟩ = none := by
  have hlead : (columnRule none).Leads [] := rfl
  have hfirst : WrittenDate.Spelling "1/1/9999" ⟨1, 1, some 9999⟩ :=
    WrittenDate.spelling_of_ofText? rfl
  have hlast : WrittenDate.Spelling "12/31/9999" ⟨12, 31, some 9999⟩ :=
    WrittenDate.spelling_of_ofText? rfl
  have hnone := (period?_of_dated_ends hlead hfirst hlast rfl rfl ⟨2016, 1, 1, by decide⟩).2.1
  exact ⟨hlead, hfirst, hlast, by decide, by decide, hnone.mpr (Or.inr (Or.inr rfl))⟩

/-!
## The same date twice
-/

/-- A date with a hyphen between it and itself asks for its one day, if it has its year and
that is not the last one of the calendar.  Without its year it is read anew a year later: it
then asks for its day up to the day a year after it, and for one day only if that is a leap
day. -/
theorem period?_of_equal_ends (hlead : rule.Leads lead) (ht : written.Spelling t) {date : Date}
    (hon : rule.period? today ⟨lead ++ t⟩ = some (.on date)) :
    (written.year.isSome = true → date.year ≤ 9998 →
        rule.period? today ⟨lead ++ (t ++ '-' :: t)⟩ = some (.within date date)) ∧
      (written.year = none → date.IsLeapDay →
        rule.period? today ⟨lead ++ (t ++ '-' :: t)⟩ = some (.within date date)) ∧
      (written.year = none → ¬ date.IsLeapDay → ∀ period,
        (rule.period? today ⟨lead ++ (t ++ '-' :: t)⟩ = some period ↔
          ∃ after, date.YearBefore after ∧ period = .within date after)) := by
  have hmeans := (period?_single_iff hlead ht).mp hon
  refine ⟨?_, ?_, ?_⟩
  · intro hyear hlastYear
    have hdate := (WrittenDate.means_iff_eq_ofDate hyear).mp hmeans
    rw [period?_dated_iff hlead ht ht hyear hyear]
    exact ⟨date, date, hdate, hdate, hlastYear, rfl⟩
  · intro hyear hleap
    rcases Date.exists_yearBefore hleap.year_le with ⟨after, hafter⟩
    rw [period?_range_iff hlead ht ht]
    refine ⟨date, after, date, hmeans, hafter, ?_, rfl⟩
    rw [hmeans.eq_name hyear, WrittenDate.means_own_name_iff hafter, if_pos hleap]
  · intro hyear hleap period
    rw [period?_range_iff hlead ht ht]
    constructor
    · intro h
      rcases h with ⟨start, after, stop, hstart, hafter, hstop, rfl⟩
      have heq := hmeans.unique hstart
      subst heq
      rw [hmeans.eq_name hyear, WrittenDate.means_own_name_iff hafter, if_neg hleap] at hstop
      exact ⟨stop, hstop, rfl⟩
    · intro h
      rcases h with ⟨after, hafter, rfl⟩
      refine ⟨date, after, after, hmeans, hafter, ?_, rfl⟩
      rw [hmeans.eq_name hyear, WrittenDate.means_own_name_iff hafter, if_neg hleap]
      exact hafter

theorem period?_of_equal_ends_yearless :
    (columnRule none).Leads [] ∧ WrittenDate.Spelling "2/29" ⟨2, 29, none⟩ ∧
      WrittenDate.Spelling "7/4" ⟨7, 4, none⟩ ∧
      (columnRule none).period? ⟨2016, 8, 1, by decide⟩ ⟨[] ++ "2/29".toList⟩ =
        some (.on ⟨2016, 2, 29, by decide⟩) ∧
      (columnRule none).period? ⟨2016, 8, 1, by decide⟩ ⟨[] ++ "7/4".toList⟩ =
        some (.on ⟨2016, 7, 4, by decide⟩) ∧
      (columnRule none).period? ⟨2016, 8, 1, by decide⟩
          ⟨[] ++ ("2/29".toList ++ '-' :: "2/29".toList)⟩ =
        some (.within ⟨2016, 2, 29, by decide⟩ ⟨2016, 2, 29, by decide⟩) ∧
      (columnRule none).period? ⟨2016, 8, 1, by decide⟩
          ⟨[] ++ ("7/4".toList ++ '-' :: "7/4".toList)⟩ =
        some (.within ⟨2016, 7, 4, by decide⟩ ⟨2017, 7, 4, by decide⟩) := by
  have hlead : (columnRule none).Leads [] := rfl
  have hleapDay : WrittenDate.Spelling "2/29" ⟨2, 29, none⟩ :=
    WrittenDate.spelling_of_ofText? rfl
  have hfourth : WrittenDate.Spelling "7/4" ⟨7, 4, none⟩ :=
    WrittenDate.spelling_of_ofText? rfl
  have honLeapDay : (columnRule none).period? ⟨2016, 8, 1, by decide⟩ ⟨[] ++ "2/29".toList⟩ =
      some (.on ⟨2016, 2, 29, by decide⟩) := rfl
  have honFourth : (columnRule none).period? ⟨2016, 8, 1, by decide⟩ ⟨[] ++ "7/4".toList⟩ =
      some (.on ⟨2016, 7, 4, by decide⟩) := rfl
  have hsame := (period?_of_equal_ends hlead hleapDay honLeapDay).2.1 rfl (by decide)
  have hyear := (period?_of_equal_ends hlead hfourth honFourth).2.2 rfl (by decide)
  have hafter : Date.YearBefore ⟨2016, 7, 4, by decide⟩ ⟨2017, 7, 4, by decide⟩ :=
    ⟨rfl, rfl, rfl⟩
  exact ⟨hlead, hleapDay, hfourth, honLeapDay, honFourth, hsame,
    (hyear _).mpr ⟨_, hafter, rfl⟩⟩

/-- The same date twice need not be one day: without its year it spans a year. -/
theorem equal_ends_not_one_day :
    ¬ ∀ (rule : DateRule Chain) (today date : Date) (lead t : Text) (written : WrittenDate),
        rule.Leads lead → written.Spelling t →
          rule.period? today ⟨lead ++ t⟩ = some (.on date) →
            rule.period? today ⟨lead ++ (t ++ '-' :: t)⟩ = some (.within date date) := by
  intro h
  have hspelling : WrittenDate.Spelling "7/4" ⟨7, 4, none⟩ :=
    WrittenDate.spelling_of_ofText? rfl
  have hsame := h (columnRule none) ⟨2016, 8, 1, by decide⟩ ⟨2016, 7, 4, by decide⟩ [] "7/4"
    ⟨7, 4, none⟩ rfl hspelling rfl
  exact absurd hsame (by decide)

end

end DateRule

end SearchQuery
