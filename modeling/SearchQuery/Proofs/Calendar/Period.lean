import SearchQuery.Proofs.Calendar.Expression

/-!
# Periods spelled in full

A period whose years are written out is spelled by date expressions that mean
it on every day of reference.
-/

namespace SearchQuery

def Text.SpellsShort (n : Nat) (t : Text) : Prop :=
  t = ofNat n ∨ t = padded 2 n

namespace Date

inductive Spelling (date : Date) : Text → Prop where
  | full {month day : Text} (hyear : 0 ≤ date.year)
      (hmonth : Text.SpellsShort date.month.toNat month)
      (hday : Text.SpellsShort date.day.toNat day) :
      Spelling date (month ++ '/' :: (day ++ '/' :: Text.padded 4 date.year.toNat))

end Date

namespace Period

/-- The four shapes with dates in full.  In a range, there has to be a year after the first
date. -/
inductive Spelling : Period → Text → Prop where
  | on {date : Date} {t : Text} (hdate : date.Spelling t) : Spelling (on date) t
  | within {first last : Date} {low high : Text} (hfirst : first.Spelling low)
      (hlast : last.Spelling high) (hyear : first.year ≤ 9998) :
      Spelling (within first last) (low ++ '-' :: high)
  | onOrBefore {date : Date} {t : Text} (hdate : date.Spelling t) :
      Spelling (onOrBefore date) ('-' :: t)
  | onOrAfter {date : Date} {t : Text} (hdate : date.Spelling t) :
      Spelling (onOrAfter date) (t ++ ['-'])

end Period

/-!
## The expressions that are written
-/

namespace Text.SpellsShort

theorem short {n : Nat} {t : Text} (h : SpellsShort n t) (hn : n < 100) :
    WrittenDate.Short t := by
  rcases h with rfl | rfl
  · have hpos := length_ofNat_pos n
    have hle : (ofNat n).length ≤ 2 := length_ofNat_le (by decide) hn
    exact ⟨digits_ofNat n, by omega⟩
  · exact ⟨digits_padded 2 n, Or.inr (length_padded (by decide) hn)⟩

theorem decimalValue_eq {n : Nat} {t : Text} (h : SpellsShort n t) : decimalValue t = n := by
  rcases h with rfl | rfl
  · exact decimalValue_ofNat n
  · exact decimalValue_padded 2 n

end Text.SpellsShort

namespace WrittenDate

def ofDate (date : Date) : WrittenDate :=
  { month := date.month, day := date.day, year := some date.year }

theorem means_ofDate (date reference : Date) : (ofDate date).Means reference date :=
  resolve?_eq_some_iff.mp (Date.ofParts?_parts date)

end WrittenDate

theorem Date.short_of_month (date : Date) {t : Text} (h : Text.SpellsShort date.month.toNat t) :
    WrittenDate.Short t ∧ (Text.decimalValue t : Int) = date.month := by
  rcases date.isDate with ⟨-, ⟨hpos, hle⟩, -⟩
  refine ⟨h.short (by omega), ?_⟩
  rw [h.decimalValue_eq, Int.toNat_of_nonneg (by omega)]

theorem Date.short_of_day (date : Date) {t : Text} (h : Text.SpellsShort date.day.toNat t) :
    WrittenDate.Short t ∧ (Text.decimalValue t : Int) = date.day := by
  rcases date.isDate with ⟨-, -, hpos, hle⟩
  have hle' := hle.trans (Calendar.monthLength_le date.year date.month)
  refine ⟨h.short (by omega), ?_⟩
  rw [h.decimalValue_eq, Int.toNat_of_nonneg (by omega)]

theorem Date.Spelling.writtenDate {date : Date} {t : Text} (h : date.Spelling t) :
    (WrittenDate.ofDate date).Spelling t := by
  have hlast := date.isDate.1.2
  cases h with
  | full hyear hmonth hday =>
      rcases date.short_of_month hmonth with ⟨hshortMonth, hmonthValue⟩
      rcases date.short_of_day hday with ⟨hshortDay, hdayValue⟩
      have hspelled : WrittenDate.YearSpelling (Text.padded 4 date.year.toNat) date.year.toNat := by
        have hfull := WrittenDate.YearSpelling.full (Text.digits_padded 4 date.year.toNat)
          (Text.length_padded (by decide) (by omega))
        rwa [Text.decimalValue_padded] at hfull
      have hspelling := WrittenDate.Spelling.dated hshortMonth hshortDay hspelled
      rwa [hmonthValue, hdayValue, Int.toNat_of_nonneg hyear] at hspelling

theorem Period.Spelling.exists_expression {period : Period} {t : Text} (h : period.Spelling t) :
    ∃ expression : DateExpression, expression.Spelling t ∧
      ∀ reference, expression.Means reference period := by
  cases h with
  | on hdate =>
      exact ⟨_, .single hdate.writtenDate, fun _ => .single (WrittenDate.means_ofDate _ _)⟩
  | within hfirst hlast hyear =>
      rcases Date.exists_yearBefore hyear with ⟨anchor, hanchor⟩
      exact ⟨_, .range hfirst.writtenDate hlast.writtenDate, fun _ =>
        .range (WrittenDate.means_ofDate _ _) hanchor (WrittenDate.means_ofDate _ _)⟩
  | onOrBefore hdate =>
      exact ⟨_, .upTo hdate.writtenDate, fun _ => .upTo (WrittenDate.means_ofDate _ _)⟩
  | onOrAfter hdate =>
      exact ⟨_, .onward hdate.writtenDate, fun _ => .onward (WrittenDate.means_ofDate _ _)⟩

end SearchQuery
