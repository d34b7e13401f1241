import SearchQuery.Proofs.Calendar.Written
import SearchQuery.Proofs.Text.Span

/-!
# Written dates in machine words

The numbers of a written date are small: a month and a day fit into 8 bits with a
sign, and a year into 16.  Here a written date is read in words of these sizes,
by lengths in bytes, and every number goes through the word in which its digits
were added up.  All the same it is the date that is read in numbers of any size:
no text that is no date gets through, and no word is too narrow for its number.
-/

namespace SearchQuery

structure PackedDate where
  month : Int8
  day : Int8
  year : Option Int16
  deriving DecidableEq

namespace PackedDate

def unpack (packed : PackedDate) : WrittenDate :=
  { month := packed.month.toInt
    day := packed.day.toInt
    year := packed.year.map Int16.toInt }

/-- The number of a run of `least` to `most` digits that no digit follows, and what
follows it.  There is none if the number does not fit into the word. -/
def readWord? (least most : Nat) (t : Text) : Option (UInt16 × Text) :=
  let digits := t.takeWhile Char.isDigit
  if least ≤ digits.length ∧ digits.length ≤ most then
    if Text.decimalValue digits < UInt16.size then
      some (UInt16.ofNat (Text.decimalValue digits), t.dropWhile Char.isDigit)
    else none
  else none

def narrow (word : UInt16) : Int8 :=
  word.toUInt8.toInt8

def expandYear (year : UInt8) : Int16 :=
  let year := (year % 100).toUInt16.toInt16
  if year < 69 then 2000 + year else 1900 + year

def readYear? (t : Text) : Option Int16 :=
  if Text.byteLength t = 2 then
    (readWord? 2 2 t).map fun read => expandYear read.1.toUInt8
  else if Text.byteLength t = 4 then
    (readWord? 4 4 t).map fun read => read.1.toInt16
  else none

def ofText? (t : Text) : Option PackedDate :=
  match readWord? 1 2 t with
  | some (month, '/' :: t) =>
      match readWord? 1 2 t with
      | some (day, []) => some ⟨narrow month, narrow day, none⟩
      | some (day, '/' :: t) =>
          (readYear? t).map fun year => ⟨narrow month, narrow day, some year⟩
      | _ => none
  | _ => none

/-!
## From word to word
-/

theorem toInt_toInt8 {word : UInt8} (h : word.toNat < 128) :
    word.toInt8.toInt = word.toNat := by
  have htwice : 2 * word.toBitVec.toNat < 2 ^ 8 := by
    rw [UInt8.toNat_toBitVec]
    omega
  exact BitVec.toInt_eq_toNat_of_lt htwice

theorem toInt_toInt16 {word : UInt16} (h : word.toNat < 32768) :
    word.toInt16.toInt = word.toNat := by
  have htwice : 2 * word.toBitVec.toNat < 2 ^ 16 := by
    rw [UInt16.toNat_toBitVec]
    omega
  exact BitVec.toInt_eq_toNat_of_lt htwice

theorem toNat_toUInt8 {word : UInt16} (h : word.toNat < 256) :
    word.toUInt8.toNat = word.toNat := by
  rw [UInt16.toNat_toUInt8]
  exact Nat.mod_eq_of_lt h

theorem toInt_narrow {word : UInt16} (h : word.toNat < 100) :
    (narrow word).toInt = word.toNat := by
  have hword := toNat_toUInt8 (Nat.lt_trans h (by decide))
  rw [narrow, toInt_toInt8 (by omega), hword]

theorem toInt_add_of_lt {base year : Int16} {m n : Nat} (hbase : base.toInt = m)
    (hyear : year.toInt = n) (h : m + n < 10000) :
    (base + year).toInt = ((m + n : Nat) : Int) := by
  rw [Int16.toInt_add, hbase, hyear]
  exact Int.bmod_eq_of_le (by omega) (by omega)

theorem toInt_expandYear {word : UInt16} (h : word.toNat < 100) :
    (expandYear word.toUInt8).toInt = WrittenDate.expandYear word.toNat := by
  have hword := toNat_toUInt8 (Nat.lt_trans h (by decide))
  have hmod : (word.toUInt8 % 100).toUInt16.toNat = word.toNat := by
    rw [UInt8.toNat_toUInt16, UInt8.toNat_mod, hword]
    exact Nat.mod_eq_of_lt h
  have hyear : (word.toUInt8 % 100).toUInt16.toInt16.toInt = word.toNat := by
    rw [toInt_toInt16 (by omega), hmod]
  have hpivot : (word.toUInt8 % 100).toUInt16.toInt16 < 69 ↔ word.toNat < 69 := by
    rw [Int16.lt_iff_toInt_lt, hyear]
    exact Int.ofNat_lt
  simp only [expandYear, hpivot]
  by_cases hlt : word.toNat < 69
  · have hbase : (2000 : Int16).toInt = (2000 : Nat) := by decide
    rw [if_pos hlt, WrittenDate.expandYear_of_lt hlt]
    exact toInt_add_of_lt hbase hyear (by omega)
  · have hbase : (1900 : Int16).toInt = (1900 : Nat) := by decide
    rw [if_neg hlt, WrittenDate.expandYear_of_le (Nat.le_of_not_lt hlt) h]
    exact toInt_add_of_lt hbase hyear (by omega)

theorem toNat_ofNat {n : Nat} (h : n < 10 ^ 4) : (UInt16.ofNat n).toNat = n :=
  UInt16.toNat_ofNat_of_lt' (Nat.lt_trans h (by decide))

theorem toInt_narrow_ofNat {n : Nat} (h : n < 100) : (narrow (UInt16.ofNat n)).toInt = n := by
  have hword := toNat_ofNat (Nat.lt_trans h (by decide))
  rw [toInt_narrow (by rwa [hword]), hword]

theorem toInt_toInt16_ofNat {n : Nat} (h : n < 10 ^ 4) : (UInt16.ofNat n).toInt16.toInt = n := by
  have hword := toNat_ofNat h
  rw [toInt_toInt16 (by omega), hword]

theorem toInt_expandYear_ofNat {n : Nat} (h : n < 100) :
    (expandYear (UInt16.ofNat n).toUInt8).toInt = WrittenDate.expandYear n := by
  have hword := toNat_ofNat (Nat.lt_trans h (by decide))
  rw [toInt_expandYear (by rwa [hword]), hword]

/-!
## Reading
-/

theorem decimalValue_lt_size {t : Text} (hdigits : Text.Digits t) (hlength : t.length ≤ 4) :
    Text.decimalValue t < UInt16.size :=
  Nat.lt_trans (Text.decimalValue_lt_pow hdigits hlength) (by decide)

theorem toNat_lt_of_readWord? {least most : Nat} {t rest : Text} {word : UInt16}
    (hmost : most ≤ 4) (h : readWord? least most t = some (word, rest)) :
    word.toNat < 10 ^ most := by
  have hdigits := Text.digits_takeWhile t
  simp only [readWord?] at h
  split at h
  · next hlength =>
      have hvalue := Text.decimalValue_lt_pow hdigits hlength.2
      rw [if_pos (decimalValue_lt_size hdigits (by omega))] at h
      simp only [Option.some.injEq, Prod.mk.injEq] at h
      rcases h with ⟨rfl, -⟩
      rwa [toNat_ofNat (Nat.lt_of_lt_of_le hvalue (Nat.pow_le_pow_right (by decide) hmost))]
  · cases h

theorem readWord?_short (t : Text) :
    readWord? 1 2 t =
      (WrittenDate.readShort? t).map fun read => (UInt16.ofNat read.1, read.2) := by
  have hdigits := Text.digits_takeWhile t
  unfold readWord? WrittenDate.readShort?
  simp only
  by_cases hlength : (t.takeWhile Char.isDigit).length = 1 ∨ (t.takeWhile Char.isDigit).length = 2
  · rw [if_pos hlength, if_pos (by omega), if_pos (decimalValue_lt_size hdigits (by omega))]
    rfl
  · rw [if_neg hlength, if_neg (by omega)]
    rfl

theorem readWord?_whole {count : Nat} {t : Text} (hcount : count ≤ 4)
    (hbytes : Text.byteLength t = count) :
    readWord? count count t =
      if t.all Char.isDigit then some (UInt16.ofNat (Text.decimalValue t), []) else none := by
  by_cases hall : t.all Char.isDigit = true
  · have hdigits := Text.digits_iff_all.mpr hall
    have htake : t.takeWhile Char.isDigit = t := List.takeWhile_eq_self_iff.mpr hdigits
    have hdrop : t.dropWhile Char.isDigit = [] := List.dropWhile_eq_nil_iff.mpr hdigits
    have hlength := hdigits.byteLength_eq
    simp only [readWord?, htake, hdrop]
    rw [if_pos hall, if_pos (by omega), if_pos (decimalValue_lt_size hdigits (by omega))]
  · have hlt : (t.takeWhile Char.isDigit).length < t.length := by
      refine Nat.lt_of_le_of_ne (List.takeWhile_prefix _).length_le fun hlength => hall ?_
      have htake := (List.takeWhile_prefix Char.isDigit).eq_of_length hlength
      exact List.all_eq_true.mpr (List.takeWhile_eq_self_iff.mp htake)
    have hle := Text.length_le_byteLength t
    simp only [readWord?]
    rw [if_neg hall, if_neg (by omega)]

theorem readYear?_toInt (t : Text) :
    (readYear? t).map Int16.toInt = WrittenDate.readYear? t := by
  by_cases hall : t.all Char.isDigit = true
  · have hdigits := Text.digits_iff_all.mpr hall
    have hbytes := hdigits.byteLength_eq
    rw [readYear?, WrittenDate.readYear?, if_pos hall, hbytes]
    split
    · next hlength =>
        rw [readWord?_whole (by decide) (hbytes.trans hlength), if_pos hall]
        exact congrArg some
          (toInt_expandYear_ofNat (WrittenDate.decimalValue_lt_of_length_two hdigits hlength))
    · split
      · next hlength =>
          rw [readWord?_whole (by decide) (hbytes.trans hlength), if_pos hall]
          exact congrArg some
            (toInt_toInt16_ofNat (Text.decimalValue_lt_pow hdigits (Nat.le_of_eq hlength)))
      · rfl
  · -- With another character in it, a text of two or four bytes has too few digits.
    rw [readYear?, WrittenDate.readYear?, if_neg hall]
    split
    · next hbytes =>
        rw [readWord?_whole (by decide) hbytes, if_neg hall]
        rfl
    · split
      · next hbytes =>
          rw [readWord?_whole (by decide) hbytes, if_neg hall]
          rfl
      · rfl

theorem lt_of_readShort? {t rest : Text} {value : Nat}
    (h : WrittenDate.readShort? t = some (value, rest)) : value < 100 := by
  rcases WrittenDate.readShort?_eq_some_iff.mp h with ⟨digits, hshort, -, rfl, -⟩
  have hmost : digits.length ≤ 2 := by
    have hlength := hshort.length
    omega
  exact Text.decimalValue_lt_pow hshort.digits hmost

theorem unpack_mk {month day : Nat} (hmonth : month < 100) (hday : day < 100)
    (year : Option Int16) :
    unpack ⟨narrow (UInt16.ofNat month), narrow (UInt16.ofNat day), year⟩ =
      ⟨month, day, year.map Int16.toInt⟩ := by
  rw [unpack, toInt_narrow_ofNat hmonth, toInt_narrow_ofNat hday]

/-- In words of 8 and 16 bits the same dates are read as in numbers of any size. -/
theorem unpack_ofText? (t : Text) : (ofText? t).map unpack = WrittenDate.ofText? t := by
  unfold ofText? WrittenDate.ofText?
  rw [readWord?_short]
  cases hmonth : WrittenDate.readShort? t with
  | none =>
      rfl
  | some read =>
      -- Both readers stop at the same place, and go on only behind a slash.
      rcases read with ⟨month, _ | ⟨c, t⟩⟩
      · rfl
      · by_cases hslash : c = '/'
        · subst hslash
          simp only [Option.map_some, readWord?_short]
          have hmonth := lt_of_readShort? hmonth
          cases hday : WrittenDate.readShort? t with
          | none =>
              rfl
          | some read =>
              have hday := lt_of_readShort? hday
              rcases read with ⟨day, _ | ⟨c, t⟩⟩
              · exact congrArg some (unpack_mk hmonth hday none)
              · by_cases hslash : c = '/'
                · subst hslash
                  simp only [Option.map_some, ← readYear?_toInt, Option.map_map]
                  congr 1
                  funext year
                  exact unpack_mk hmonth hday (some year)
                · simp [hslash]
        · simp [hslash]

/-- A number of `t` keeps its value in the narrower words that it goes into: a month
or a day in 8 bits with a sign, the two digits of a year in 8 bits without, and four
digits in 16 bits with a sign. -/
structure Fits (t : Text) : Prop where
  short : ∀ word rest, readWord? 1 2 t = some (word, rest) → (narrow word).toInt = word.toNat
  twoDigits : ∀ word rest, readWord? 2 2 t = some (word, rest) → word.toUInt8.toNat = word.toNat
  fourDigits : ∀ word rest, readWord? 4 4 t = some (word, rest) →
    word.toInt16.toInt = word.toNat

theorem fits (t : Text) : Fits t where
  short := by
    intro word rest h
    exact toInt_narrow (toNat_lt_of_readWord? (by decide) h)
  twoDigits := by
    intro word rest h
    exact toNat_toUInt8 (Nat.lt_trans (toNat_lt_of_readWord? (by decide) h) (by decide))
  fourDigits := by
    intro word rest h
    exact toInt_toInt16 (Nat.lt_trans (toNat_lt_of_readWord? (by decide) h) (by decide))

/-- The reader of dates takes the texts that spell a date, and no others, for the
numbers that they spell; and it loses none of them in words of 8 and 16 bits. -/
theorem ofText?_lossless (t : Text) :
    (∀ written, WrittenDate.ofText? t = some written ↔ WrittenDate.Spelling t written) ∧
      (ofText? t).map unpack = WrittenDate.ofText? t ∧ Fits t :=
  ⟨fun _ => WrittenDate.ofText?_eq_some_iff, unpack_ofText? t, fits t⟩

-- One character of two bytes is no year of two digits.
example : ofText? ['1', '/', '2', '/', 'é'] = none := by rfl

end PackedDate

end SearchQuery
