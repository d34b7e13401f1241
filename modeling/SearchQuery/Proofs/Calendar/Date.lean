import SearchQuery.Calendar.Date

/-!
# The order of days

Days are ordered by year, then by month, then by day.  A year after a day is the
day of the same name in the next year, and the last of February for a leap day.
-/

namespace SearchQuery

namespace Calendar

def Before (year month day year' month' day' : Int) : Prop :=
  year < year' ∨ year = year' ∧ (month < month' ∨ month = month' ∧ day < day')

instance (year month day year' month' day' : Int) :
    Decidable (Before year month day year' month' day') :=
  inferInstanceAs (Decidable (_ ∨ _))

theorem isLeapYear_succ_of_isLeapYear {year : Int} (h : isLeapYear year = true) :
    isLeapYear (year + 1) = false := by
  simp only [isLeapYear, Bool.and_eq_true, beq_iff_eq] at h
  have hyear : (year + 1) % 4 ≠ 0 := by
    omega
  simp [isLeapYear, hyear]

theorem monthLength_of_ne_february {month : Int} (h : month ≠ 2) (year year' : Int) :
    monthLength year month = monthLength year' month := by
  simp [monthLength, h]

theorem monthLength_february (year : Int) :
    monthLength year 2 = if isLeapYear year then 29 else 28 := rfl

theorem one_le_monthLength (year month : Int) : 1 ≤ monthLength year month := by
  unfold monthLength
  split
  · split <;> decide
  · split <;> decide

theorem monthLength_le (year month : Int) : monthLength year month ≤ 31 := by
  unfold monthLength
  split
  · split <;> decide
  · split <;> decide

theorem isDate_iff_of_isDate {other month day : Int} (h : IsDate other month day) (year : Int) :
    IsDate year month day ↔
      (-9999 ≤ year ∧ year ≤ 9999) ∧ ¬ (month = 2 ∧ day = 29 ∧ isLeapYear year = false) := by
  rcases h with ⟨-, hmonth, hday, hlength⟩
  by_cases hfebruary : month = 2
  · subst hfebruary
    simp only [IsDate, monthLength_february] at hlength ⊢
    cases hleap : isLeapYear year with
    | true =>
        simp only [if_true, Bool.true_eq_false, and_false, not_false_eq_true, and_true]
        split at hlength <;> omega
    | false =>
        simp only [Bool.false_eq_true, if_false, eq_self, true_and, and_true]
        split at hlength <;> omega
  · rw [monthLength_of_ne_february hfebruary other year] at hlength
    constructor
    · intro hdate
      exact ⟨hdate.1, fun hleapDay => hfebruary hleapDay.1⟩
    · intro hyear
      exact ⟨hyear.1, hmonth, hday, hlength⟩

/-- Up to the last year of the calendar, a day is missing for one of three reasons: no year
has it, it is the leap day of a common year, or its year is before the first one. -/
theorem not_isDate_iff {year : Int} (hyear : year ≤ 9999) (month day : Int) :
    ¬ IsDate year month day ↔
      (∀ other, ¬ IsDate other month day) ∨
        (month = 2 ∧ day = 29 ∧ isLeapYear year = false) ∨ year < -9999 := by
  by_cases hnone : ∀ other, ¬ IsDate other month day
  · exact iff_of_true (hnone year) (Or.inl hnone)
  · rw [Classical.not_forall] at hnone
    rcases hnone with ⟨other, hother⟩
    have hdate := Classical.not_not.mp hother
    have hsome : ¬ ∀ other, ¬ IsDate other month day := fun hnone => hnone other hdate
    rw [isDate_iff_of_isDate hdate year, Classical.not_and_iff_not_or_not, Classical.not_not]
    constructor
    · intro h
      rcases h with hrange | hleapDay
      · exact Or.inr (Or.inr (by omega))
      · exact Or.inr (Or.inl hleapDay)
    · intro h
      rcases h with hnone | hleapDay | hfirst
      · exact absurd hnone hsome
      · exact Or.inr hleapDay
      · exact Or.inl (by omega)

end Calendar

namespace Date

instance : LE Date where
  le date other :=
    date.year < other.year ∨ date.year = other.year ∧
      (date.month < other.month ∨ date.month = other.month ∧ date.day ≤ other.day)

theorem le_iff_not_before {date other : Date} :
    date ≤ other ↔
      ¬ Calendar.Before other.year other.month other.day date.year date.month date.day := by
  show (_ ∨ _) ↔ _
  unfold Calendar.Before
  omega

theorem ofParts?_eq_none_iff {year month day : Int} :
    ofParts? year month day = none ↔ ¬ Calendar.IsDate year month day := by
  unfold ofParts?
  split
  · next hdate =>
      exact iff_of_false (by simp) (not_not_intro hdate)
  · next hdate =>
      exact iff_of_true rfl hdate

structure YearBefore (date after : Date) : Prop where
  year_eq : after.year = date.year + 1
  month_eq : after.month = date.month
  day_eq : after.day = if date.month = 2 ∧ date.day = 29 then 28 else date.day

theorem min_day_nextYear (date : Date) :
    min date.day (Calendar.monthLength (date.year + 1) date.month) =
      if date.month = 2 ∧ date.day = 29 then 28 else date.day := by
  have hday := date.isDate.2.2.2
  by_cases hmonth : date.month = 2
  · rw [hmonth, Calendar.monthLength_february] at hday ⊢
    cases hleap : Calendar.isLeapYear date.year with
    | true =>
        have hnext := Calendar.isLeapYear_succ_of_isLeapYear hleap
        simp only [hleap, hnext, if_true, Bool.false_eq_true, if_false, true_and] at hday ⊢
        split <;> omega
    | false =>
        simp only [hleap, Bool.false_eq_true, if_false, true_and] at hday ⊢
        split <;> split <;> omega
  · rw [Calendar.monthLength_of_ne_february hmonth (date.year + 1) date.year,
      if_neg fun h => hmonth h.1]
    omega

theorem nextYear?_eq_some_iff {date after : Date} :
    date.nextYear? = some after ↔ date.YearBefore after := by
  rw [nextYear?, ofParts?_eq_some_iff, min_day_nextYear]
  constructor
  · intro h
    rcases h with ⟨hyear, hmonth, hday⟩
    exact ⟨hyear, hmonth, hday⟩
  · intro h
    exact ⟨h.year_eq, h.month_eq, h.day_eq⟩

theorem exists_yearBefore {date : Date} (h : date.year ≤ 9998) :
    ∃ after, date.YearBefore after := by
  rcases date.isDate with ⟨⟨hfirst, -⟩, hmonth, hday, -⟩
  have hlength := Calendar.one_le_monthLength (date.year + 1) date.month
  have hdate : Calendar.IsDate (date.year + 1) date.month
      (min date.day (Calendar.monthLength (date.year + 1) date.month)) :=
    ⟨⟨by omega, by omega⟩, hmonth, by omega, by omega⟩
  exact ⟨⟨_, _, _, hdate⟩, nextYear?_eq_some_iff.mp (dif_pos hdate)⟩

theorem exists_yearBefore_iff {date : Date} :
    (∃ after, date.YearBefore after) ↔ date.year ≤ 9998 := by
  constructor
  · intro h
    rcases h with ⟨after, hafter⟩
    have hyear := hafter.year_eq
    have hlast := after.isDate.1.2
    omega
  · exact exists_yearBefore

end Date

end SearchQuery
