import SearchQuery.Proofs.Text.Decimal
import SearchQuery.Text.Quoted

/-!
# Lines

A text is on one line if it holds no line feed.  Numbers are, and so is every text
between quotes, whatever it holds.  Texts on one line each that are joined by line
feeds are the lines of the whole.
-/

namespace SearchQuery

namespace Text

def OneLine (t : Text) : Prop :=
  '\n' ∉ t

instance (t : Text) : Decidable (OneLine t) :=
  inferInstanceAs (Decidable ('\n' ∉ t))

@[simp] theorem oneLine_nil : OneLine [] :=
  List.not_mem_nil

@[simp] theorem oneLine_cons {c : Char} {t : Text} : OneLine (c :: t) ↔ c ≠ '\n' ∧ OneLine t := by
  rw [OneLine, List.mem_cons, not_or, ne_comm]
  rfl

@[simp] theorem oneLine_append {s t : Text} : OneLine (s ++ t) ↔ OneLine s ∧ OneLine t := by
  rw [OneLine, List.mem_append, not_or]
  rfl

theorem Digits.oneLine {t : Text} (h : Digits t) : OneLine t := by
  intro hmem
  exact absurd (h '\n' hmem) (by decide)

@[simp] theorem oneLine_ofNat (n : Nat) : OneLine (ofNat n) :=
  (digits_ofNat n).oneLine

@[simp] theorem oneLine_padded (width n : Nat) : OneLine (padded width n) :=
  (digits_padded width n).oneLine

/-!
## Quoted text
-/

theorem oneLine_toDigits {base : Nat} (hbase : 1 < base) (n : Nat) :
    OneLine (Nat.toDigits base n) := by
  induction n using Nat.strongRecOn with
  | ind n ih =>
      have hdigit : ∀ digit : Nat, OneLine [digit.digitChar] := fun digit =>
        oneLine_cons.mpr ⟨Nat.digitChar_ne '\n' rfl, oneLine_nil⟩
      rw [Nat.toDigits_eq_if hbase]
      split
      · exact hdigit n
      · next hle =>
          have hlt : n / base < n := Nat.div_lt_self (by omega) hbase
          exact oneLine_append.mpr ⟨ih _ hlt, hdigit _⟩

theorem oneLine_codePoint (c : Char) : OneLine (codePoint c) := by
  simp [codePoint, oneLine_toDigits]

theorem oneLine_escape (c : Char) : OneLine (escape c) := by
  unfold escape
  split
  case h_7 hfeed _ _ =>
    split
    · exact oneLine_codePoint c
    · exact oneLine_cons.mpr ⟨hfeed, oneLine_nil⟩
  all_goals decide

@[simp] theorem oneLine_quoted (t : Text) : OneLine (quoted t) := by
  have hescaped : OneLine (t.flatMap escape) := by
    intro hmem
    rcases List.mem_flatMap.mp hmem with ⟨c, -, hc⟩
    exact oneLine_escape c hc
  simp [quoted, hescaped]

/-!
## Joined lines
-/

/-- What stands between the line feeds of a text.  There is nothing in an empty text, not even
an empty line. -/
def lines (t : Text) : List Text :=
  if t = [] then [] else t.splitOn '\n'

theorem joinWith_eq_nil_iff {separator : Text} {parts : List Text}
    (hparts : ∀ part ∈ parts, part ≠ []) : joinWith separator parts = [] ↔ parts = [] := by
  constructor
  · intro h
    cases parts with
    | nil =>
        rfl
    | cons part parts =>
        exfalso
        cases parts with
        | nil =>
            exact hparts part List.mem_cons_self (by simpa [joinWith] using h)
        | cons next parts =>
            rw [joinWith, List.intercalate_cons_cons, List.append_assoc] at h
            exact hparts part List.mem_cons_self (List.append_eq_nil_iff.mp h).1
  · intro h
    rw [h]
    rfl

theorem lines_joinWith {parts : List Text} (hparts : ∀ part ∈ parts, part ≠ [])
    (hlines : ∀ part ∈ parts, OneLine part) : lines (joinWith ['\n'] parts) = parts := by
  unfold lines
  split
  · next hnil =>
      exact ((joinWith_eq_nil_iff hparts).mp hnil).symm
  · next hne =>
      refine List.splitOn_intercalate '\n' hlines ?_
      intro hnil
      exact hne ((joinWith_eq_nil_iff hparts).mpr hnil)

end Text

end SearchQuery
