import SearchQuery.Calendar.Written
import SearchQuery.Proofs.Calendar.Date
import SearchQuery.Proofs.Text.Decimal

/-!
# How written dates are spelled

What a written date looks like, and which day it means, said without the
reader: `M/D`, `M/D/YY` or `M/D/YYYY`, with one or two digits for `M` and for
`D`.  A day without a year is the last one of that name up to the reference.
-/

namespace SearchQuery

namespace WrittenDate

structure Short (t : Text) : Prop where
  digits : Text.Digits t
  length : t.length = 1 ∨ t.length = 2

inductive YearSpelling : Text → Nat → Prop where
  | twoThousands {t : Text} (hdigits : Text.Digits t) (hlength : t.length = 2)
      (hvalue : Text.decimalValue t < 69) : YearSpelling t (2000 + Text.decimalValue t)
  | nineteenHundreds {t : Text} (hdigits : Text.Digits t) (hlength : t.length = 2)
      (hvalue : 69 ≤ Text.decimalValue t) : YearSpelling t (1900 + Text.decimalValue t)
  | full {t : Text} (hdigits : Text.Digits t) (hlength : t.length = 4) :
      YearSpelling t (Text.decimalValue t)

inductive Spelling : Text → WrittenDate → Prop where
  | yearless {month day : Text} (hmonth : Short month) (hday : Short day) :
      Spelling (month ++ '/' :: day)
        ⟨Text.decimalValue month, Text.decimalValue day, none⟩
  | dated {month day year : Text} {value : Nat} (hmonth : Short month) (hday : Short day)
      (hyear : YearSpelling year value) :
      Spelling (month ++ '/' :: (day ++ '/' :: year))
        ⟨Text.decimalValue month, Text.decimalValue day, some value⟩

/-- The date is the one that is meant when it is written on the day of reference. -/
structure Means (written : WrittenDate) (reference date : Date) : Prop where
  month_eq : date.month = written.month
  day_eq : date.day = written.day
  year_eq : ∀ year ∈ written.year, date.year = year
  last_of_name : written.year = none →
    ¬ Calendar.Before reference.year reference.month reference.day date.year date.month date.day ∧
      Calendar.Before reference.year reference.month reference.day
        (date.year + 1) date.month date.day

/-!
## Reading
-/

theorem isDigit_slash : Char.isDigit '/' = false := by
  decide

theorem readShort?_eq_some_iff {t rest : Text} {value : Nat} :
    readShort? t = some (value, rest) ↔
      ∃ digits, Short digits ∧ Text.OpensOutside Char.isDigit rest ∧
        value = Text.decimalValue digits ∧ t = digits ++ rest := by
  constructor
  · intro h
    unfold readShort? at h
    simp only at h
    split at h
    · next hlength =>
        simp only [Option.some.injEq, Prod.mk.injEq] at h
        rcases h with ⟨rfl, rfl⟩
        exact ⟨t.takeWhile Char.isDigit, ⟨Text.digits_takeWhile t, hlength⟩,
          Text.opensOutside_dropWhile _ t, rfl, List.takeWhile_append_dropWhile.symm⟩
    · cases h
  · intro h
    rcases h with ⟨digits, hshort, hrest, rfl, rfl⟩
    have htake := Text.takeWhile_append_of_all hshort.digits hrest
    have hdrop := Text.dropWhile_append_of_all hshort.digits hrest
    unfold readShort?
    simp only [htake, hdrop, if_pos hshort.length]

theorem expandYear_of_lt {year : Nat} (h : year < 69) : expandYear year = 2000 + year := by
  have hmod : year % 100 = year := Nat.mod_eq_of_lt (by omega)
  simp [expandYear, hmod, h]

theorem expandYear_of_le {year : Nat} (h : 69 ≤ year) (hlt : year < 100) :
    expandYear year = 1900 + year := by
  have hmod : year % 100 = year := Nat.mod_eq_of_lt hlt
  simp [expandYear, hmod, Nat.not_lt.mpr h]

theorem decimalValue_lt_of_length_two {t : Text} (hdigits : Text.Digits t)
    (hlength : t.length = 2) : Text.decimalValue t < 100 :=
  Text.decimalValue_lt_pow hdigits (Nat.le_of_eq hlength)

theorem readYear?_eq_some_iff {t : Text} {year : Nat} :
    readYear? t = some year ↔ YearSpelling t year := by
  constructor
  · intro h
    unfold readYear? at h
    split at h
    · next hall =>
        have hdigits := Text.digits_iff_all.mpr hall
        split at h
        · next hlength =>
            rw [Option.some.injEq] at h
            subst h
            by_cases hvalue : Text.decimalValue t < 69
            · rw [expandYear_of_lt hvalue]
              exact YearSpelling.twoThousands hdigits hlength hvalue
            · have hle := Nat.le_of_not_lt hvalue
              rw [expandYear_of_le hle (decimalValue_lt_of_length_two hdigits hlength)]
              exact YearSpelling.nineteenHundreds hdigits hlength hle
        · split at h
          · next hlength =>
              rw [Option.some.injEq] at h
              subst h
              exact YearSpelling.full hdigits hlength
          · cases h
    · cases h
  · intro h
    cases h with
    | twoThousands hdigits hlength hvalue =>
        rw [readYear?, if_pos (Text.digits_iff_all.mp hdigits), if_pos hlength,
          expandYear_of_lt hvalue]
    | nineteenHundreds hdigits hlength hvalue =>
        rw [readYear?, if_pos (Text.digits_iff_all.mp hdigits), if_pos hlength,
          expandYear_of_le hvalue (decimalValue_lt_of_length_two hdigits hlength)]
    | full hdigits hlength =>
        rw [readYear?, if_pos (Text.digits_iff_all.mp hdigits), if_neg (by omega), if_pos hlength]

theorem ofText?_of_spelling {t : Text} {written : WrittenDate} (h : Spelling t written) :
    ofText? t = some written := by
  have hslash : ∀ t : Text, Text.OpensOutside Char.isDigit ('/' :: t) :=
    fun _ => Text.opensOutside_cons.mpr isDigit_slash
  cases h with
  | yearless hmonth hday =>
      rename_i month day
      have hreadMonth : readShort? (month ++ '/' :: day) =
          some (Text.decimalValue month, '/' :: day) :=
        readShort?_eq_some_iff.mpr ⟨month, hmonth, hslash day, rfl, rfl⟩
      have hreadDay : readShort? day = some (Text.decimalValue day, []) :=
        readShort?_eq_some_iff.mpr
          ⟨day, hday, Text.opensOutside_nil _, rfl, (List.append_nil day).symm⟩
      simp only [ofText?, hreadMonth, hreadDay]
  | dated hmonth hday hyear =>
      rename_i month day year value
      have hreadMonth : readShort? (month ++ '/' :: (day ++ '/' :: year)) =
          some (Text.decimalValue month, '/' :: (day ++ '/' :: year)) :=
        readShort?_eq_some_iff.mpr ⟨month, hmonth, hslash _, rfl, rfl⟩
      have hreadDay : readShort? (day ++ '/' :: year) =
          some (Text.decimalValue day, '/' :: year) :=
        readShort?_eq_some_iff.mpr ⟨day, hday, hslash year, rfl, rfl⟩
      simp only [ofText?, hreadMonth, hreadDay, readYear?_eq_some_iff.mpr hyear]
      rfl

theorem spelling_of_ofText? {t : Text} {written : WrittenDate} (h : ofText? t = some written) :
    Spelling t written := by
  unfold ofText? at h
  split at h
  · next month t' hreadMonth =>
      rcases readShort?_eq_some_iff.mp hreadMonth with ⟨monthText, hmonth, -, rfl, rfl⟩
      split at h
      · next day hreadDay =>
          rcases readShort?_eq_some_iff.mp hreadDay with ⟨dayText, hday, -, rfl, rfl⟩
          rw [Option.some.injEq] at h
          rw [← h, List.append_nil]
          exact Spelling.yearless hmonth hday
      · next day year hreadDay =>
          rcases readShort?_eq_some_iff.mp hreadDay with ⟨dayText, hday, -, rfl, rfl⟩
          rcases Option.map_eq_some_iff.mp h with ⟨_, hvalue, rfl⟩
          rcases Option.bind_eq_some_iff.mp hvalue with ⟨value, hyear, hcast⟩
          cases hcast
          exact Spelling.dated hmonth hday (readYear?_eq_some_iff.mp hyear)
      · cases h
  · cases h

theorem ofText?_eq_some_iff {t : Text} {written : WrittenDate} :
    ofText? t = some written ↔ Spelling t written :=
  ⟨spelling_of_ofText?, ofText?_of_spelling⟩

/-!
## The characters of a date
-/

theorem Short.ne_nil {t : Text} (h : Short t) : t ≠ [] := by
  intro hnil
  have hlength := h.length
  simp [hnil] at hlength

theorem YearSpelling.digits {t : Text} {year : Nat} (h : YearSpelling t year) :
    Text.Digits t := by
  cases h with
  | twoThousands hdigits hlength hvalue =>
      exact hdigits
  | nineteenHundreds hdigits hlength hvalue =>
      exact hdigits
  | full hdigits hlength =>
      exact hdigits

theorem Spelling.isDigit_or_eq_slash {t : Text} {written : WrittenDate}
    (h : Spelling t written) {c : Char} (hc : c ∈ t) : c.isDigit = true ∨ c = '/' := by
  cases h with
  | yearless hmonth hday =>
      rcases List.mem_append.mp hc with hc | hc
      · exact Or.inl (hmonth.digits c hc)
      · rcases List.mem_cons.mp hc with hc | hc
        · exact Or.inr hc
        · exact Or.inl (hday.digits c hc)
  | dated hmonth hday hyear =>
      rcases List.mem_append.mp hc with hc | hc
      · exact Or.inl (hmonth.digits c hc)
      · rcases List.mem_cons.mp hc with hc | hc
        · exact Or.inr hc
        · rcases List.mem_append.mp hc with hc | hc
          · exact Or.inl (hday.digits c hc)
          · rcases List.mem_cons.mp hc with hc | hc
            · exact Or.inr hc
            · exact Or.inl (hyear.digits c hc)

theorem Spelling.ne_nil {t : Text} {written : WrittenDate} (h : Spelling t written) : t ≠ [] := by
  cases h with
  | yearless hmonth hday =>
      simp
  | dated hmonth hday hyear =>
      simp

theorem Spelling.hyphen_not_mem {t : Text} {written : WrittenDate} (h : Spelling t written) :
    '-' ∉ t := by
  intro hmem
  rcases h.isDigit_or_eq_slash hmem with hdigit | hslash
  · exact absurd hdigit (by decide)
  · exact absurd hslash (by decide)

/-!
## Meaning
-/

/-- For every name there is one year in which its last day up to the reference can lie. -/
theorem latestYear_eq_iff {month day : Int} {reference : Date} {year : Int} :
    latestYear month day reference = year ↔
      ¬ Calendar.Before reference.year reference.month reference.day year month day ∧
        Calendar.Before reference.year reference.month reference.day (year + 1) month day := by
  unfold latestYear Calendar.Before
  split <;> omega

theorem resolve?_eq_some_iff {written : WrittenDate} {reference date : Date} :
    written.resolve? reference = some date ↔ written.Means reference date := by
  rw [resolve?, Date.ofParts?_eq_some_iff]
  cases hyear : written.year with
  | some year =>
      constructor
      · intro h
        rcases h with ⟨hyear', hmonth, hday⟩
        refine ⟨hmonth, hday, ?_, ?_⟩
        · intro other hother
          rw [hyear']
          simpa [hyear] using hother
        · simp [hyear]
      · intro h
        exact ⟨h.year_eq year hyear, h.month_eq, h.day_eq⟩
  | none =>
      simp only [Option.getD_none]
      constructor
      · intro h
        rcases h with ⟨hyear', hmonth, hday⟩
        rw [← hmonth, ← hday] at hyear'
        exact ⟨hmonth, hday, by simp [hyear], fun _ => latestYear_eq_iff.mp hyear'.symm⟩
      · intro h
        have hlatest := latestYear_eq_iff.mpr (h.last_of_name hyear)
        rw [h.month_eq, h.day_eq] at hlatest
        exact ⟨hlatest.symm, h.month_eq, h.day_eq⟩

theorem Means.unique {written : WrittenDate} {reference date other : Date}
    (h : written.Means reference date) (hother : written.Means reference other) :
    date = other := by
  rw [← resolve?_eq_some_iff] at h hother
  rw [h, Option.some.injEq] at hother
  exact hother

end WrittenDate

end SearchQuery
