import SearchQuery.Proofs.Calendar.Period

/-!
# The ends of a range

The last date of a range is read on the day a year after the first one.  If it
has its year, that day does not matter, but there has to be one.  If not, the
range ends in the year of the first date or in the next one, whichever puts the
end later without going past that day.
-/

namespace SearchQuery

namespace Date

def IsLeapDay (date : Date) : Prop :=
  date.month = 2 ∧ date.day = 29

instance (date : Date) : Decidable date.IsLeapDay :=
  inferInstanceAs (Decidable (_ ∧ _))

theorem IsLeapDay.year_le {date : Date} (h : date.IsLeapDay) : date.year ≤ 9998 := by
  rcases date.isDate with ⟨⟨-, hlast⟩, -, -, hlength⟩
  by_contra hyear
  have heq : date.year = 9999 := by omega
  rw [h.1, h.2, heq] at hlength
  exact absurd hlength (by decide)

/-- The name comes later in the year than the date, or both are the leap day. -/
def PrecedesName (date : Date) (month day : Int) : Prop :=
  (date.month < month ∨ date.month = month ∧ date.day < day) ∨
    date.IsLeapDay ∧ month = 2 ∧ day = 29

instance (date : Date) (month day : Int) : Decidable (date.PrecedesName month day) :=
  inferInstanceAs (Decidable (_ ∨ _))

/-- The year in which a range from the date on ends, by the name of its last day. -/
def closingYear (start : Date) (month day : Int) : Int :=
  if start.PrecedesName month day then start.year else start.year + 1

/-!
## Between the date and a year after it
-/

theorem closingYear_of_precedes {start : Date} {month day : Int}
    (h : start.PrecedesName month day) : start.closingYear month day = start.year :=
  if_pos h

theorem closingYear_of_not_precedes {start : Date} {month day : Int}
    (h : ¬ start.PrecedesName month day) : start.closingYear month day = start.year + 1 :=
  if_neg h

theorem precedesName_iff_of_yearBefore {start after : Date} (h : start.YearBefore after)
    (month day : Int) :
    start.PrecedesName month day ↔
      ¬ (month < after.month ∨ month = after.month ∧ day ≤ after.day) := by
  rw [h.month_eq, h.day_eq]
  unfold PrecedesName IsLeapDay
  split <;> omega

theorem latestYear_of_yearBefore {start after : Date} (h : start.YearBefore after)
    (month day : Int) : WrittenDate.latestYear month day after = start.closingYear month day := by
  have hiff := precedesName_iff_of_yearBefore h month day
  by_cases hprecedes : start.PrecedesName month day
  · rw [closingYear_of_precedes hprecedes, WrittenDate.latestYear, if_neg (hiff.mp hprecedes),
      h.year_eq]
    omega
  · rw [closingYear_of_not_precedes hprecedes, WrittenDate.latestYear,
      if_pos (not_not.mp fun hname => hprecedes (hiff.mpr hname)), h.year_eq]

theorem le_of_year_eq_closingYear {start stop : Date}
    (h : stop.year = start.closingYear stop.month stop.day) : start ≤ stop := by
  rw [le_iff_not_before]
  unfold Calendar.Before
  by_cases hprecedes : start.PrecedesName stop.month stop.day
  · rw [closingYear_of_precedes hprecedes] at h
    unfold PrecedesName IsLeapDay at hprecedes
    omega
  · rw [closingYear_of_not_precedes hprecedes] at h
    omega

theorem le_yearBefore_of_year_eq_closingYear {start stop after : Date}
    (h : stop.year = start.closingYear stop.month stop.day) (hafter : start.YearBefore after) :
    stop ≤ after := by
  have hyear := hafter.year_eq
  have hiff := precedesName_iff_of_yearBefore hafter stop.month stop.day
  rw [le_iff_not_before]
  unfold Calendar.Before
  by_cases hprecedes : start.PrecedesName stop.month stop.day
  · rw [closingYear_of_precedes hprecedes] at h
    omega
  · rw [closingYear_of_not_precedes hprecedes] at h
    rw [hiff, not_not] at hprecedes
    omega

theorem precedesName_self_iff {date : Date} :
    date.PrecedesName date.month date.day ↔ date.IsLeapDay := by
  unfold PrecedesName IsLeapDay
  omega

theorem closingYear_eq_year_iff {start : Date} {month day : Int} :
    start.closingYear month day = start.year ↔ start.PrecedesName month day := by
  by_cases h : start.PrecedesName month day
  · exact iff_of_true (closingYear_of_precedes h) h
  · rw [closingYear_of_not_precedes h]
    exact iff_of_false (by omega) h

end Date

namespace WrittenDate

theorem Means.eq_name {written : WrittenDate} {reference date : Date}
    (h : written.Means reference date) (hyear : written.year = none) :
    written = ⟨date.month, date.day, none⟩ := by
  cases written with
  | mk month day year =>
      cases hyear
      rw [h.month_eq, h.day_eq]

theorem means_iff_of_yearBefore {last : WrittenDate} (hyear : last.year = none)
    {start after : Date} (h : start.YearBefore after) {stop : Date} :
    last.Means after stop ↔
      stop.month = last.month ∧ stop.day = last.day ∧
        stop.year = start.closingYear last.month last.day := by
  rw [← resolve?_eq_some_iff, resolve?, hyear, Option.getD_none,
    Date.latestYear_of_yearBefore h, Date.ofParts?_eq_some_iff]
  exact and_rotate

theorem means_iff_eq_ofDate {written : WrittenDate} (hyear : written.year.isSome = true)
    {reference date : Date} : written.Means reference date ↔ written = ofDate date := by
  constructor
  · intro h
    cases written with
    | mk month day year =>
        rcases Option.isSome_iff_exists.mp hyear with ⟨value, hvalue⟩
        cases hvalue
        rw [ofDate, h.month_eq, h.day_eq, h.year_eq value rfl]
  · intro h
    rw [h]
    exact means_ofDate date reference

theorem means_own_name_iff {date after stop : Date} (h : date.YearBefore after) :
    Means ⟨date.month, date.day, none⟩ after stop ↔
      if date.IsLeapDay then stop = date else date.YearBefore stop := by
  rw [means_iff_of_yearBefore rfl h]
  split
  · next hleap =>
      rw [Date.closingYear_of_precedes (Date.precedesName_self_iff.mpr hleap)]
      constructor
      · intro hparts
        rcases hparts with ⟨hmonth, hday, hyear⟩
        have hstop := Date.ofParts?_eq_some_iff.mpr ⟨hyear, hmonth, hday⟩
        rw [Date.ofParts?_parts, Option.some.injEq] at hstop
        exact hstop.symm
      · rintro rfl
        exact ⟨rfl, rfl, rfl⟩
  · next hleap =>
      rw [Date.closingYear_of_not_precedes (mt Date.precedesName_self_iff.mp hleap)]
      constructor
      · intro hparts
        rcases hparts with ⟨hmonth, hday, hyear⟩
        exact ⟨hyear, hmonth, hday.trans (if_neg hleap).symm⟩
      · intro hstop
        exact ⟨hstop.month_eq, hstop.day_eq.trans (if_neg hleap), hstop.year_eq⟩

end WrittenDate

namespace DateExpression

theorem means_range_iff {first last : WrittenDate} {reference : Date} {period : Period} :
    Means (range first last) reference period ↔
      ∃ start after stop, first.Means reference start ∧ start.YearBefore after ∧
        last.Means after stop ∧ period = .within start stop := by
  constructor
  · intro h
    cases h with
    | range hstart hanchor hstop =>
        exact ⟨_, _, _, hstart, hanchor, hstop, rfl⟩
  · intro h
    rcases h with ⟨start, after, stop, hstart, hafter, hstop, rfl⟩
    exact Means.range hstart hafter hstop

end DateExpression

end SearchQuery
