/-!
# Calendar dates

Days of the Gregorian calendar, carried on before its introduction and through
a year zero.  The calendar ends at four-digit years on either side; there is no
date outside.
-/

namespace SearchQuery

namespace Calendar

def isLeapYear (year : Int) : Bool :=
  year % 4 == 0 && (year % 100 != 0 || year % 400 == 0)

def monthLength (year month : Int) : Int :=
  if month = 2 then
    if isLeapYear year then 29 else 28
  else if month = 4 ∨ month = 6 ∨ month = 9 ∨ month = 11 then 30
  else 31

def IsDate (year month day : Int) : Prop :=
  (-9999 ≤ year ∧ year ≤ 9999) ∧ (1 ≤ month ∧ month ≤ 12) ∧
    (1 ≤ day ∧ day ≤ monthLength year month)

instance (year month day : Int) : Decidable (IsDate year month day) :=
  inferInstanceAs (Decidable (_ ∧ _))

end Calendar

structure Date where
  year : Int
  month : Int
  day : Int
  isDate : Calendar.IsDate year month day
  deriving DecidableEq

namespace Date

def ofParts? (year month day : Int) : Option Date :=
  if h : Calendar.IsDate year month day then some ⟨year, month, day, h⟩ else none

/-- The same day a year later, and the last of February for its leap day. -/
def nextYear? (date : Date) : Option Date :=
  ofParts? (date.year + 1) date.month
    (min date.day (Calendar.monthLength (date.year + 1) date.month))

theorem ofParts?_eq_some_iff {year month day : Int} {date : Date} :
    ofParts? year month day = some date ↔
      date.year = year ∧ date.month = month ∧ date.day = day := by
  constructor
  · intro h
    unfold ofParts? at h
    split at h
    · simp only [Option.some.injEq] at h
      subst h
      exact ⟨rfl, rfl, rfl⟩
    · simp at h
  · intro ⟨hyear, hmonth, hday⟩
    subst hyear hmonth hday
    simp [ofParts?, date.isDate]

theorem ofParts?_parts (date : Date) :
    ofParts? date.year date.month date.day = some date :=
  ofParts?_eq_some_iff.mpr ⟨rfl, rfl, rfl⟩

end Date

end SearchQuery
