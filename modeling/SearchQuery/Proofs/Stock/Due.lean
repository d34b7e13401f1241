import SearchQuery.Proofs.Calendar.Written
import SearchQuery.Proofs.Search.Spacing
import SearchQuery.Stock

/-!
# Due dates

The search for tasks finds a due date with a pattern, whose digits are those of
every script, and then reads the numbers, which have to be in ASCII digits.  The
reader of written dates goes through the text once and knows ASCII digits only.
Both take the same texts for a date with its year, and for the same day.
-/

namespace SearchQuery

/-!
## What the pattern finds
-/

namespace Pattern

structure DateParts (month day year : Text) : Prop where
  month_number : isNumber month = true
  month_length : month.length ≤ 2
  day_number : isNumber day = true
  day_length : day.length ≤ 2
  year_number : isNumber year = true
  year_length : year.length = 2 ∨ year.length = 4

theorem date_eq_some_iff {t : Text} {found : Found} :
    date t = some found ↔
      ∃ month day year, DateParts month day year ∧ t = month ++ '/' :: (day ++ '/' :: year) ∧
        found = ⟨t, [some month, some day, some year]⟩ := by
  constructor
  · intro h
    unfold date at h
    split at h
    · cases h
    · next first rest hrest =>
        split at h
        · cases h
        · next second year hyear =>
            simp only at h
            split at h
            · next hparts =>
                rcases hparts with ⟨hmonth, hmonthLength, hday, hdayLength, hyear', hyearLength⟩
                refine ⟨_, _, year, ⟨hmonth, hmonthLength, hday, hdayLength, hyear', hyearLength⟩,
                  ?_, (Option.some.inj h).symm⟩
                rw [← Text.eq_append_of_dropWhile_ne hyear]
                exact Text.eq_append_of_dropWhile_ne hrest
            · cases h
  · intro h
    rcases h with ⟨month, day, year, hparts, rfl, rfl⟩
    have hmonth : '/' ∉ month := not_mem_of_isNumber (by decide) hparts.month_number
    have hday : '/' ∉ day := not_mem_of_isNumber (by decide) hparts.day_number
    simp only [date, Text.dropWhile_ne_append _ hmonth, Text.takeWhile_ne_append _ hmonth,
      Text.dropWhile_ne_append _ hday, Text.takeWhile_ne_append _ hday]
    rw [if_pos]
    exact ⟨hparts.month_number, hparts.month_length, hparts.day_number, hparts.day_length,
      hparts.year_number, hparts.year_length⟩

theorem isNumber_of_digits {t : Text} (hne : t ≠ []) (h : Text.Digits t) : isNumber t = true := by
  rw [isNumber, Bool.and_eq_true, Bool.not_eq_true', List.isEmpty_eq_false_iff, List.all_eq_true]
  exact ⟨hne, fun c hc => Text.isDecimalDigit_of_isDigit (h c hc)⟩

end Pattern

/-!
## The numbers that are read
-/

namespace WrittenDate

theorem short_iff {t : Text} : Short t ↔ t ≠ [] ∧ Text.Digits t ∧ t.length ≤ 2 := by
  constructor
  · intro h
    have hlength := h.length
    exact ⟨h.ne_nil, h.digits, by omega⟩
  · intro h
    rcases h with ⟨hne, hdigits, hlength⟩
    have hpos := List.length_pos_iff.mpr hne
    exact ⟨hdigits, by omega⟩

theorem YearSpelling.length {t : Text} {year : Nat} (h : YearSpelling t year) :
    t.length = 2 ∨ t.length = 4 := by
  cases h with
  | twoThousands hdigits hlength hvalue =>
      exact Or.inl hlength
  | nineteenHundreds hdigits hlength hvalue =>
      exact Or.inl hlength
  | full hdigits hlength =>
      exact Or.inr hlength

theorem ne_nil_of_length {t : Text} (h : t.length = 2 ∨ t.length = 4) : t ≠ [] := by
  rintro rfl
  simp at h

theorem map_readNat?_year {t : Text} (hlength : t.length = 2 ∨ t.length = 4) :
    ((Text.readNat? t).map fun value => if t.length = 2 then expandYear value else value) =
      readYear? t := by
  have hne := ne_nil_of_length hlength
  by_cases hdigits : Text.Digits t
  · rw [Text.readNat?_eq_some_iff.mpr ⟨hne, hdigits, rfl⟩, readYear?,
      if_pos (Text.digits_iff_all.mp hdigits), Option.map_some]
    rcases hlength with htwo | hfour
    · rw [if_pos htwo, if_pos htwo]
    · rw [if_neg (by omega), if_neg (by omega), if_pos hfour]
  · have hnone : Text.readNat? t = none := by
      rw [Option.eq_none_iff_forall_ne_some]
      intro value hvalue
      exact hdigits (Text.readNat?_eq_some_iff.mp hvalue).2.1
    rw [hnone, readYear?, if_neg fun hall => hdigits (Text.digits_iff_all.mpr hall)]
    rfl

end WrittenDate

namespace ChainRule

theorem fullDate?_of_parts {month day year : Text} (h : Pattern.DateParts month day year) :
    fullDate? (month ++ '/' :: (day ++ '/' :: year)) =
      (WrittenDate.readYear? year).bind fun value =>
        (Text.readNat? month).bind fun month =>
          (Text.readNat? day).bind fun day => Date.ofParts? value month day := by
  rw [fullDate?, Pattern.date_eq_some_iff.mpr ⟨month, day, year, h, rfl, rfl⟩]
  rw [← WrittenDate.map_readNat?_year h.year_length, Option.bind_map]
  rfl

/-- A text is read as a date with its year if and only if it is spelled like one that names a
day of the calendar. -/
theorem fullDate?_eq_some_iff {t : Text} {date : Date} (reference : Date) :
    fullDate? t = some date ↔
      ∃ written : WrittenDate, written.Spelling t ∧ written.year.isSome = true ∧
        written.resolve? reference = some date := by
  constructor
  · intro h
    have hfound : ∃ found, Pattern.date t = some found := by
      cases hfound : Pattern.date t with
      | none =>
          rw [fullDate?, hfound] at h
          cases h
      | some found =>
          exact ⟨found, rfl⟩
    rcases hfound with ⟨found, hfound⟩
    rcases Pattern.date_eq_some_iff.mp hfound with ⟨month, day, year, hparts, rfl, -⟩
    rw [fullDate?_of_parts hparts] at h
    rcases Option.bind_eq_some_iff.mp h with ⟨value, hyear, h⟩
    rcases Option.bind_eq_some_iff.mp h with ⟨monthValue, hmonth, h⟩
    rcases Option.bind_eq_some_iff.mp h with ⟨dayValue, hday, hdate⟩
    rcases Text.readNat?_eq_some_iff.mp hmonth with ⟨hmonthNe, hmonthDigits, rfl⟩
    rcases Text.readNat?_eq_some_iff.mp hday with ⟨hdayNe, hdayDigits, rfl⟩
    have hshortMonth := WrittenDate.short_iff.mpr ⟨hmonthNe, hmonthDigits, hparts.month_length⟩
    have hshortDay := WrittenDate.short_iff.mpr ⟨hdayNe, hdayDigits, hparts.day_length⟩
    exact ⟨_, .dated hshortMonth hshortDay (WrittenDate.readYear?_eq_some_iff.mp hyear), rfl, hdate⟩
  · intro h
    rcases h with ⟨written, hspelling, hyear, hresolve⟩
    cases hspelling with
    | yearless hmonth hday =>
        cases hyear
    | dated hmonth hday hspelled =>
        rename_i month day year value
        rcases WrittenDate.short_iff.mp hmonth with ⟨hmonthNe, hmonthDigits, hmonthLength⟩
        rcases WrittenDate.short_iff.mp hday with ⟨hdayNe, hdayDigits, hdayLength⟩
        have hparts : Pattern.DateParts month day year :=
          { month_number := Pattern.isNumber_of_digits hmonthNe hmonthDigits
            month_length := hmonthLength
            day_number := Pattern.isNumber_of_digits hdayNe hdayDigits
            day_length := hdayLength
            year_number :=
              Pattern.isNumber_of_digits (WrittenDate.ne_nil_of_length hspelled.length)
                hspelled.digits
            year_length := hspelled.length }
        rw [fullDate?_of_parts hparts, WrittenDate.readYear?_eq_some_iff.mpr hspelled,
          Text.readNat?_eq_some_iff.mpr ⟨hmonthNe, hmonthDigits, rfl⟩,
          Text.readNat?_eq_some_iff.mpr ⟨hdayNe, hdayDigits, rfl⟩]
        exact hresolve

theorem dated_claim? (name : Text) (column : Column) (token : Token) (chain : Chain) :
    (dated name column).claim? token chain =
      (fullDate? token.raw).map fun date => chain.add (.equals column date.text) := by
  simp only [dated, adding, Option.map_map]
  rfl

end ChainRule

/-!
## The rule for due dates
-/

namespace Stock

/-- The rule for due dates claims a token if and only if the reader of written dates finds a
date with its year that is a day of the calendar, and asks for that very day, whatever day it
is read on. -/
theorem due_claim?_iff (token : Token) (chain left : Chain) (reference : Date) :
    ChainRule.dated "due" taskDueDate ∈ taskSearch.rulebook.rules ∧
      ((ChainRule.dated "due" taskDueDate).claim? token chain = some left ↔
        ∃ written date, WrittenDate.ofText? token.raw = some written ∧
          written.year.isSome = true ∧ written.resolve? reference = some date ∧
          left.conditions = chain.conditions ++ [.equals taskDueDate date.text]) := by
  have hmem : ChainRule.dated "due" taskDueDate ∈ taskSearch.rulebook.rules :=
    List.mem_cons_of_mem _ (List.mem_cons_of_mem _ List.mem_cons_self)
  refine ⟨hmem, ?_⟩
  rw [ChainRule.dated_claim?, Option.map_eq_some_iff]
  constructor
  · intro h
    rcases h with ⟨date, hdate, rfl⟩
    rcases (ChainRule.fullDate?_eq_some_iff reference).mp hdate with
      ⟨written, hspelling, hyear, hresolve⟩
    exact ⟨written, date, WrittenDate.ofText?_of_spelling hspelling, hyear, hresolve, rfl⟩
  · intro h
    rcases h with ⟨written, date, hread, hyear, hresolve, hconditions⟩
    have hspelling := WrittenDate.spelling_of_ofText? hread
    refine ⟨date, (ChainRule.fullDate?_eq_some_iff reference).mpr
      ⟨written, hspelling, hyear, hresolve⟩, ?_⟩
    cases left with
    | mk conditions =>
        rw [Chain.add, ← hconditions]

end Stock

end SearchQuery
