import SearchQuery.Proofs.Calendar.Period

/-!
# Years left out

A day written without its year is the last one of its name up to the day of
reference.  The years follow one another without gap or overlap, so that for
every name there is one year that can be meant.  Nothing is meant where that
year does not have the day: no other year is tried for a leap day.
-/

namespace SearchQuery

namespace Date

/-- The date is the last one of its name up to the day of reference.  The name a year later
is behind that day, be it a day of the calendar or not. -/
structure LastUpTo (date reference : Date) : Prop where
  le_reference : date ≤ reference
  before_next : Calendar.Before reference.year reference.month reference.day
    (date.year + 1) date.month date.day

inductive NameSpelling (date : Date) : Text → Prop where
  | name {month day : Text} (hmonth : Text.SpellsShort date.month.toNat month)
      (hday : Text.SpellsShort date.day.toNat day) : NameSpelling date (month ++ '/' :: day)

theorem NameSpelling.writtenDate {date : Date} {t : Text} (h : date.NameSpelling t) :
    WrittenDate.Spelling t ⟨date.month, date.day, none⟩ := by
  cases h with
  | name hmonth hday =>
      rcases date.short_of_month hmonth with ⟨hshortMonth, hmonthValue⟩
      rcases date.short_of_day hday with ⟨hshortDay, hdayValue⟩
      rw [← hmonthValue, ← hdayValue]
      exact WrittenDate.Spelling.yearless hshortMonth hshortDay

end Date

namespace WrittenDate

/-!
## The year that is tried
-/

theorem latestYear_le (month day : Int) (reference : Date) :
    latestYear month day reference ≤ 9999 := by
  have hyear := reference.isDate.1.2
  unfold latestYear
  split <;> omega

theorem means_yearless_iff {month day : Int} {reference date : Date} :
    Means ⟨month, day, none⟩ reference date ↔
      date.month = month ∧ date.day = day ∧ date.LastUpTo reference := by
  constructor
  · intro h
    rcases h.last_of_name rfl with ⟨hnot, hnext⟩
    exact ⟨h.month_eq, h.day_eq, Date.le_iff_not_before.mpr hnot, hnext⟩
  · intro h
    rcases h with ⟨hmonth, hday, hlast⟩
    exact
      { month_eq := hmonth
        day_eq := hday
        year_eq := by simp
        last_of_name := fun _ =>
          ⟨Date.le_iff_not_before.mp hlast.le_reference, hlast.before_next⟩ }

theorem resolve?_yearless_eq_none_iff {month day : Int} {reference : Date} :
    resolve? ⟨month, day, none⟩ reference = none ↔
      ¬ Calendar.IsDate (latestYear month day reference) month day :=
  Date.ofParts?_eq_none_iff

/-!
## What is meant
-/

/-- A day without its year means the last day of its name up to the day of reference, and
nothing if there is no such day.  In the one year that can be meant the day is missing if no
year has it, if it is the leap day of a common year, or if that year is before the calendar.
Every date is read back from its name up to the end of the year that it opens. -/
theorem resolve?_yearless_exact (reference : Date) (month day : Int) :
    (∀ date, resolve? ⟨month, day, none⟩ reference = some date ↔
        date.month = month ∧ date.day = day ∧ date.LastUpTo reference) ∧
      (resolve? ⟨month, day, none⟩ reference = none ↔
        ∀ date : Date, date.month = month → date.day = day → ¬ date.LastUpTo reference) ∧
      (∃ year,
        ¬ Calendar.Before reference.year reference.month reference.day year month day ∧
          Calendar.Before reference.year reference.month reference.day (year + 1) month day ∧
          (resolve? ⟨month, day, none⟩ reference = none ↔
            (∀ other, ¬ Calendar.IsDate other month day) ∨
              (month = 2 ∧ day = 29 ∧ Calendar.isLeapYear year = false) ∨ year < -9999)) ∧
      (∀ date other : Date, date.month = other.month → date.day = other.day →
        date.LastUpTo reference → other.LastUpTo reference → date = other) ∧
      ∀ (date : Date) (t : Text), date.NameSpelling t →
        (dateOf? t reference = some date ↔ date.LastUpTo reference) := by
  have hresolve : ∀ date, resolve? ⟨month, day, none⟩ reference = some date ↔
      date.month = month ∧ date.day = day ∧ date.LastUpTo reference :=
    fun date => resolve?_eq_some_iff.trans means_yearless_iff
  refine ⟨hresolve, ?_, ?_, ?_, ?_⟩
  · rw [Option.eq_none_iff_forall_ne_some]
    simp only [ne_eq, hresolve, not_and]
  · rcases latestYear_eq_iff.mp (rfl : latestYear month day reference = _) with ⟨hnot, hnext⟩
    refine ⟨_, hnot, hnext, ?_⟩
    exact resolve?_yearless_eq_none_iff.trans
      (Calendar.not_isDate_iff (latestYear_le month day reference) month day)
  · intro date other hmonth hday hdate hother
    have hmeans := means_yearless_iff.mpr ⟨hmonth, hday, hdate⟩
    exact hmeans.unique (means_yearless_iff.mpr ⟨rfl, rfl, hother⟩)
  · intro date t hspelling
    rw [dateOf?, ofText?_of_spelling hspelling.writtenDate, Option.bind_some,
      resolve?_eq_some_iff, means_yearless_iff]
    exact ⟨fun h => h.2.2, fun h => ⟨rfl, rfl, h⟩⟩

theorem resolve?_yearless_exact_leap_day :
    Date.NameSpelling ⟨2016, 2, 29, by decide⟩ (['2'] ++ '/' :: ['2', '9']) ∧
      Date.LastUpTo ⟨2016, 2, 29, by decide⟩ ⟨2017, 2, 28, by decide⟩ ∧
      dateOf? (['2'] ++ '/' :: ['2', '9']) ⟨2017, 2, 28, by decide⟩ =
        some ⟨2016, 2, 29, by decide⟩ ∧
      resolve? ⟨2, 29, none⟩ ⟨2017, 3, 1, by decide⟩ = none := by
  have hspelling : Date.NameSpelling ⟨2016, 2, 29, by decide⟩ (['2'] ++ '/' :: ['2', '9']) :=
    .name (Or.inl rfl) (Or.inl rfl)
  have hlast : Date.LastUpTo ⟨2016, 2, 29, by decide⟩ ⟨2017, 2, 28, by decide⟩ :=
    ⟨Date.le_iff_not_before.mpr (by decide), by decide⟩
  rcases resolve?_yearless_exact ⟨2017, 2, 28, by decide⟩ 2 29 with ⟨-, -, -, -, hread⟩
  rcases resolve?_yearless_exact ⟨2017, 3, 1, by decide⟩ 2 29 with
    ⟨-, -, ⟨year, hnot, hnext, hnone⟩, -⟩
  have hyear : year = 2017 := by
    simp only [Calendar.Before] at hnot hnext
    omega
  subst hyear
  exact ⟨hspelling, hlast, (hread _ _ hspelling).mpr hlast,
    hnone.mpr (Or.inr (Or.inl ⟨rfl, rfl, by decide⟩))⟩

end WrittenDate

end SearchQuery
