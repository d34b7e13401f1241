import Mathlib.Data.Nat.Digits.Defs
import SearchQuery.Proofs.Text.Blank
import SearchQuery.Text.Decimal
import SearchQuery.Text.DecimalDigit

/-!
# Digits and the numbers they stand for

A run of ASCII digits stands for a number.  Zeros in front change the length of
the run and not the number, so a number has a notation of every length that is
long enough.
-/

namespace SearchQuery

namespace Text

def Digits (t : Text) : Prop :=
  ∀ c ∈ t, c.isDigit = true

instance (t : Text) : Decidable (Digits t) :=
  List.decidableBAll (fun c : Char => c.isDigit = true) t

theorem digits_iff_all {t : Text} : Digits t ↔ t.all Char.isDigit = true := by
  simp [Digits]

theorem Digits.of_cons {c : Char} {t : Text} (h : Digits (c :: t)) : Digits t := by
  intro d hd
  exact h d (List.mem_cons_of_mem c hd)

theorem digits_takeWhile (t : Text) : Digits (t.takeWhile Char.isDigit) := by
  intro c hc
  exact List.mem_takeWhile_imp hc

theorem toNat_of_isDigit {c : Char} (h : c.isDigit = true) : 48 ≤ c.toNat ∧ c.toNat ≤ 57 :=
  Char.isDigit_iff_toNat.mp h

theorem isAlphanumeric_of_isDigit {c : Char} (h : c.isDigit = true) :
    isAlphanumeric c = true := by
  have hrange := toNat_of_isDigit h
  simp [isAlphanumeric, CharTable.holds, alphanumerics]
  omega

theorem isGraph_of_isDigit {c : Char} (h : c.isDigit = true) : isGraph c = true :=
  isGraph_of_isAlphanumeric (isAlphanumeric_of_isDigit h)

theorem isDecimalDigit_of_isDigit {c : Char} (h : c.isDigit = true) :
    isDecimalDigit c = true := by
  have hrange := toNat_of_isDigit h
  rw [isDecimalDigit, CharTable.holds_iff]
  exact ⟨(0x30, 0x39), List.mem_cons_self, hrange⟩

theorem utf8Size_of_isDigit {c : Char} (h : c.isDigit = true) : c.utf8Size = 1 := by
  have hrange := toNat_of_isDigit h
  refine Char.utf8Size_eq_one_iff.mpr ?_
  rw [UInt32.le_iff_toNat_le]
  exact Nat.le_trans hrange.2 (by decide)

theorem Digits.byteLength_eq {t : Text} (h : Digits t) : byteLength t = t.length := by
  induction t with
  | nil =>
      rfl
  | cons c t ih =>
      rw [byteLength_cons, List.length_cons, ih h.of_cons,
        utf8Size_of_isDigit (h c List.mem_cons_self), Nat.add_comm]

/-!
## Values
-/

theorem decimalValue_cons (c : Char) (t : Text) :
    decimalValue (c :: t) = 10 ^ t.length * (c.toNat - 48) + decimalValue t := by
  rw [decimalValue, Nat.ofDigitChars_cons, Nat.ofDigitChars_eq_ofDigitChars_zero]
  simp [decimalValue]

theorem decimalValue_lt {t : Text} (h : Digits t) : decimalValue t < 10 ^ t.length := by
  induction t with
  | nil =>
      decide
  | cons c t ih =>
      have hlt := ih h.of_cons
      have hrange := toNat_of_isDigit (h c List.mem_cons_self)
      have hdigit : 10 ^ t.length * (c.toNat - 48) ≤ 10 ^ t.length * 9 :=
        Nat.mul_le_mul_left _ (by omega)
      rw [decimalValue_cons, List.length_cons, Nat.pow_succ]
      omega

theorem decimalValue_lt_pow {t : Text} {most : Nat} (h : Digits t) (hlength : t.length ≤ most) :
    decimalValue t < 10 ^ most :=
  calc decimalValue t < 10 ^ t.length := decimalValue_lt h
    _ ≤ 10 ^ most := Nat.pow_le_pow_right (by decide) hlength

theorem decimalValue_zeros_append (count : Nat) (t : Text) :
    decimalValue (List.replicate count '0' ++ t) = decimalValue t := by
  induction count with
  | zero =>
      rfl
  | succ count ih =>
      rw [List.replicate_succ, List.cons_append, decimalValue_cons, ih]
      simp

theorem readNat?_eq_some_iff {t : Text} {n : Nat} :
    readNat? t = some n ↔ t ≠ [] ∧ Digits t ∧ n = decimalValue t := by
  rw [digits_iff_all]
  constructor
  · intro h
    unfold readNat? at h
    split at h
    · next hdecimal =>
        rw [isDecimal, Bool.and_eq_true, Bool.not_eq_true', List.isEmpty_eq_false_iff] at hdecimal
        exact ⟨hdecimal.1, hdecimal.2, (Option.some.inj h).symm⟩
    · cases h
  · intro h
    rcases h with ⟨hne, hall, rfl⟩
    have hdecimal : isDecimal t = true := by
      rw [isDecimal, Bool.and_eq_true, Bool.not_eq_true', List.isEmpty_eq_false_iff]
      exact ⟨hne, hall⟩
    rw [readNat?, if_pos hdecimal]

/-!
## Notations
-/

theorem digits_ofNat (n : Nat) : Digits (ofNat n) := by
  intro c hc
  exact Nat.isDigit_of_mem_toDigits (by decide) (by decide) hc

theorem length_ofNat_le {n width : Nat} (hwidth : 0 < width) (h : n < 10 ^ width) :
    (ofNat n).length ≤ width :=
  Nat.toDigits_length 10 n width hwidth h

theorem length_ofNat_pos (n : Nat) : 0 < (ofNat n).length :=
  Nat.length_toDigits_pos

@[simp] theorem decimalValue_padded (width n : Nat) : decimalValue (padded width n) = n := by
  rw [padded, List.leftpad, decimalValue_zeros_append, decimalValue_ofNat]

theorem digits_padded (width n : Nat) : Digits (padded width n) := by
  intro c hc
  rcases List.mem_append.mp hc with hzero | hdigit
  · rw [List.eq_of_mem_replicate hzero]
    rfl
  · exact digits_ofNat n c hdigit

theorem length_padded {n width : Nat} (hwidth : 0 < width) (h : n < 10 ^ width) :
    (padded width n).length = width := by
  have hle := length_ofNat_le hwidth h
  simp only [padded, List.leftpad, List.length_append, List.length_replicate]
  omega

theorem eq_of_decimalValue_eq {s t : Text} (hs : Digits s) (ht : Digits t)
    (hlength : s.length = t.length) (h : decimalValue s = decimalValue t) : s = t := by
  induction s generalizing t with
  | nil =>
      exact (List.length_eq_zero_iff.mp hlength.symm).symm
  | cons c s ih =>
      cases t with
      | nil =>
          cases hlength
      | cons d t =>
          have htail : s.length = t.length := Nat.succ.inj hlength
          have hc := toNat_of_isDigit (hs c List.mem_cons_self)
          have hd := toNat_of_isDigit (ht d List.mem_cons_self)
          have hslt := decimalValue_lt hs.of_cons
          have htlt := decimalValue_lt ht.of_cons
          rw [decimalValue_cons, decimalValue_cons, ← htail] at h
          rw [← htail] at htlt
          have hpos : 0 < 10 ^ s.length := Nat.pow_pos (by decide)
          have hhead : c.toNat - 48 = d.toNat - 48 := by
            have hquotient := congrArg (fun n => n / 10 ^ s.length) h
            simpa only [Nat.mul_add_div hpos, Nat.div_eq_of_lt hslt, Nat.div_eq_of_lt htlt,
              Nat.add_zero] using hquotient
          have hcd : c = d := Char.toNat_inj.mp (by omega)
          rw [hhead, Nat.add_left_cancel_iff] at h
          rw [hcd, ih hs.of_cons ht.of_cons htail h]

theorem padded_decimalValue {t : Text} {width : Nat} (h : Digits t) (hlength : t.length = width)
    (hwidth : 0 < width) : padded width (decimalValue t) = t := by
  have hlt : decimalValue t < 10 ^ width := by
    rw [← hlength]
    exact decimalValue_lt h
  refine eq_of_decimalValue_eq (digits_padded _ _) h ?_ (decimalValue_padded _ _)
  rw [length_padded hwidth hlt, hlength]

end Text

end SearchQuery
