import SearchQuery.Calendar.Iso
import SearchQuery.Proofs.Calendar.Date
import SearchQuery.Proofs.Text.Decimal

/-!
# Dates and their notation

Every date has one notation, in international order with all its zeros, and that
notation is what a date is read from.  Nothing else is read as a date.
-/

namespace SearchQuery

namespace Date

theorem readDigits?_eq_some_iff {count : Nat} (hcount : 0 < count) {t rest : Text} {value : Int} :
    readDigits? count t = some (value, rest) ↔
      ∃ n : Nat, value = n ∧ n < 10 ^ count ∧ t = Text.padded count n ++ rest := by
  constructor
  · intro h
    simp only [readDigits?] at h
    split at h
    · next hread =>
        rcases hread with ⟨hlength, hall⟩
        simp only [Option.some.injEq, Prod.mk.injEq] at h
        rcases h with ⟨rfl, rfl⟩
        have hdigits := Text.digits_iff_all.mpr hall
        refine ⟨_, rfl, ?_, ?_⟩
        · exact Text.decimalValue_lt_pow hdigits (Nat.le_of_eq hlength)
        · rw [Text.padded_decimalValue hdigits hlength hcount, List.take_append_drop]
    · cases h
  · intro h
    rcases h with ⟨n, rfl, hlt, rfl⟩
    have hlength := Text.length_padded hcount hlt
    have hall := Text.digits_iff_all.mp (Text.digits_padded count n)
    simp only [readDigits?, List.take_left' hlength, List.drop_left' hlength]
    rw [if_pos ⟨hlength, hall⟩, Text.decimalValue_padded]

theorem readYear?_of_digits {t : Text} (rest : Text) (hne : t ≠ []) (h : Text.Digits t) :
    readYear? (t ++ rest) = readDigits? 4 (t ++ rest) := by
  cases t with
  | nil =>
      exact absurd rfl hne
  | cons c t =>
      have hc : c ≠ '-' := by
        rintro rfl
        exact absurd (h '-' List.mem_cons_self) (by decide)
      simp [readYear?, hc]

theorem readYear?_eq_some_iff {t rest : Text} {year : Int} :
    readYear? t = some (year, rest) ↔
      -(10 ^ 6) < year ∧ year < 10 ^ 4 ∧ t = yearText year ++ rest := by
  constructor
  · intro h
    unfold readYear? at h
    split at h
    · next t =>
        rcases Option.bind_eq_some_iff.mp h with ⟨⟨value, behind⟩, hread, hvalue⟩
        rcases (readDigits?_eq_some_iff (by decide)).mp hread with ⟨n, rfl, hlt, rfl⟩
        simp only at hvalue
        split at hvalue
        · cases hvalue
        · next hne =>
            simp only [Option.some.injEq, Prod.mk.injEq] at hvalue
            rcases hvalue with ⟨rfl, rfl⟩
            refine ⟨by omega, by omega, ?_⟩
            rw [yearText, if_pos (by omega), Int.natAbs_neg, Int.natAbs_natCast]
            rfl
    · rcases (readDigits?_eq_some_iff (by decide)).mp h with ⟨n, rfl, hlt, rfl⟩
      refine ⟨by omega, by omega, ?_⟩
      rw [yearText, if_neg (by omega), Int.natAbs_natCast]
  · intro h
    rcases h with ⟨hlow, hhigh, rfl⟩
    by_cases hneg : year < 0
    · have hread : readDigits? 6 (Text.padded 6 year.natAbs ++ rest) =
          some ((year.natAbs : Int), rest) :=
        (readDigits?_eq_some_iff (by decide)).mpr ⟨_, rfl, by omega, rfl⟩
      rw [yearText, if_pos hneg, List.cons_append]
      simp only [readYear?, hread, Option.bind_some]
      rw [if_neg (by omega), Int.ofNat_natAbs_of_nonpos (by omega), Int.neg_neg]
    · have hlt : year.natAbs < 10 ^ 4 := by omega
      have hne : Text.padded 4 year.natAbs ≠ [] :=
        List.ne_nil_of_length_pos (by rw [Text.length_padded (by decide) hlt]; decide)
      rw [yearText, if_neg hneg, readYear?_of_digits rest hne (Text.digits_padded _ _)]
      exact (readDigits?_eq_some_iff (by decide)).mpr ⟨year.natAbs, by omega, hlt, rfl⟩

theorem ofText?_eq_some_iff {t : Text} {date : Date} :
    ofText? t = some date ↔ t = date.text := by
  constructor
  · intro h
    unfold ofText? at h
    split at h
    · next year behind hyear =>
        split at h
        · next month behind hmonth =>
            split at h
            · next day hday =>
                rcases ofParts?_eq_some_iff.mp h with ⟨rfl, rfl, rfl⟩
                rcases readYear?_eq_some_iff.mp hyear with ⟨-, -, rfl⟩
                rcases (readDigits?_eq_some_iff (by decide)).mp hmonth with ⟨m, hm, -, rfl⟩
                rcases (readDigits?_eq_some_iff (by decide)).mp hday with ⟨d, hd, -, rfl⟩
                simp [text, hm, hd]
            · cases h
        · cases h
    · cases h
  · rintro rfl
    rcases date.isDate with ⟨⟨hfirst, hlast⟩, ⟨hmonth, hmonth'⟩, hday, hday'⟩
    have hlength := Calendar.monthLength_le date.year date.month
    have hreadDay : readDigits? 2 (Text.padded 2 date.day.natAbs) = some (date.day, []) :=
      (readDigits?_eq_some_iff (by decide)).mpr ⟨date.day.natAbs, by omega, by omega, by simp⟩
    have hreadMonth : readDigits? 2 (Text.padded 2 date.month.natAbs ++
        '-' :: Text.padded 2 date.day.natAbs) =
          some (date.month, '-' :: Text.padded 2 date.day.natAbs) :=
      (readDigits?_eq_some_iff (by decide)).mpr ⟨date.month.natAbs, by omega, by omega, rfl⟩
    have hreadYear : readYear? date.text =
        some (date.year, '-' :: (Text.padded 2 date.month.natAbs ++
          '-' :: Text.padded 2 date.day.natAbs)) :=
      readYear?_eq_some_iff.mpr ⟨by omega, by omega, by simp [text]⟩
    simp only [ofText?, hreadYear, hreadMonth, hreadDay]
    exact date.ofParts?_parts

end Date

end SearchQuery
