import Mathlib.Data.List.TakeWhile
import SearchQuery.Text.Blank

/-!
# White space at the edges of a text

A stretch of characters of one kind ends where a character of another kind
stands, so what follows the stretch does not change it.  Trimming is the case
of white space: a text is its trimmed middle with white space around it, and no
other middle begins and ends with something else.
-/

namespace SearchQuery

namespace Text

def Blank (t : Text) : Prop :=
  ∀ c ∈ t, isBlank c = true

instance (t : Text) : Decidable (Blank t) :=
  List.decidableBAll (fun c => isBlank c = true) t

/-- The text is empty, or begins with a character that is not of the kind. -/
def OpensOutside (kind : Char → Bool) (t : Text) : Prop :=
  ∀ c ∈ t.head?, kind c = false

def OpensBlank (t : Text) : Prop :=
  ∃ c ∈ t.head?, isBlank c = true

@[simp] theorem blank_nil : Blank [] := by
  simp [Blank]

@[simp] theorem blank_append {s t : Text} :
    Blank (s ++ t) ↔ Blank s ∧ Blank t := by
  simp [Blank, or_imp, forall_and]

@[simp] theorem opensOutside_nil (kind : Char → Bool) : OpensOutside kind [] := by
  simp [OpensOutside]

@[simp] theorem opensOutside_cons {kind : Char → Bool} {c : Char} {t : Text} :
    OpensOutside kind (c :: t) ↔ kind c = false := by
  simp [OpensOutside]

theorem opensOutside_append {kind : Char → Bool} {s : Text} (t : Text)
    (hs : s ≠ []) : OpensOutside kind (s ++ t) ↔ OpensOutside kind s := by
  cases s with
  | nil =>
      exact absurd rfl hs
  | cons c s =>
      simp

@[simp] theorem opensBlank_cons {c : Char} {t : Text} :
    OpensBlank (c :: t) ↔ isBlank c = true := by
  simp [OpensBlank]

theorem opensBlank_append_of_blank {gap : Text} (t : Text) (hne : gap ≠ [])
    (hgap : Blank gap) : OpensBlank (gap ++ t) := by
  cases gap with
  | nil =>
      exact absurd rfl hne
  | cons b gap =>
      simpa using hgap b (by simp)

theorem OpensBlank.opensOutside {kind : Char → Bool} {t : Text} (h : OpensBlank t)
    (hkind : ∀ c, kind c = true → isBlank c = false) : OpensOutside kind t := by
  rcases h with ⟨b, hb, hblank⟩
  intro c hc
  have hcb : c = b := Option.mem_unique hc hb
  subst hcb
  cases hk : kind c with
  | false =>
      rfl
  | true =>
      rw [hkind c hk] at hblank
      cases hblank

theorem opensOutside_of_isGraph {t : Text} (h : ∀ c ∈ t, isGraph c = true) :
    OpensOutside isBlank t := by
  intro c hc
  exact isBlank_eq_false_of_isGraph (h c (List.mem_of_mem_head? hc))

theorem closesOutside_of_isGraph {t : Text} (h : ∀ c ∈ t, isGraph c = true) :
    OpensOutside isBlank t.reverse :=
  opensOutside_of_isGraph fun c hc => h c (List.mem_reverse.mp hc)

/-!
## Stretches of one kind
-/

theorem opensOutside_dropWhile (kind : Char → Bool) (t : Text) :
    OpensOutside kind (t.dropWhile kind) := by
  intro c hc
  have hhead := List.head?_dropWhile_not kind t
  rw [Option.mem_def.mp hc] at hhead
  simpa using hhead

theorem takeWhile_eq_nil_iff {kind : Char → Bool} {t : Text} :
    t.takeWhile kind = [] ↔ OpensOutside kind t := by
  cases t with
  | nil =>
      simp
  | cons c t =>
      cases hc : kind c <;> simp [hc]

theorem takeWhile_append_of_opensOutside {kind : Char → Bool} (s : Text) {t : Text}
    (ht : OpensOutside kind t) :
    (s ++ t).takeWhile kind = s.takeWhile kind := by
  induction s with
  | nil =>
      cases t with
      | nil =>
          rfl
      | cons c t =>
          simp [opensOutside_cons.mp ht]
  | cons c s ih =>
      by_cases hc : kind c = true
      · simp [hc, ih]
      · simp [hc]

theorem dropWhile_append_of_opensOutside {kind : Char → Bool} (s : Text) {t : Text}
    (ht : OpensOutside kind t) :
    (s ++ t).dropWhile kind = s.dropWhile kind ++ t := by
  induction s with
  | nil =>
      cases t with
      | nil =>
          rfl
      | cons c t =>
          simp [opensOutside_cons.mp ht]
  | cons c s ih =>
      by_cases hc : kind c = true
      · simp [hc, ih]
      · simp [hc]

theorem takeWhile_append_of_all {kind : Char → Bool} {s t : Text}
    (hs : ∀ c ∈ s, kind c = true) (ht : OpensOutside kind t) :
    (s ++ t).takeWhile kind = s := by
  rw [takeWhile_append_of_opensOutside s ht]
  exact List.takeWhile_eq_self_iff.mpr hs

theorem dropWhile_append_of_all {kind : Char → Bool} {s t : Text}
    (hs : ∀ c ∈ s, kind c = true) (ht : OpensOutside kind t) :
    (s ++ t).dropWhile kind = t := by
  rw [dropWhile_append_of_opensOutside s ht, List.dropWhile_eq_nil_iff.mpr hs]
  rfl

/-!
## Up to the first one
-/

section

variable {α : Type} [DecidableEq α] {a : α} {front : List α}

theorem all_ne_of_not_mem (h : a ∉ front) : ∀ b ∈ front, decide (b ≠ a) = true := by
  intro b hb
  have hne : b ≠ a := fun heq => h (heq ▸ hb)
  simpa using hne

theorem takeWhile_ne_of_not_mem (h : a ∉ front) : front.takeWhile (· ≠ a) = front :=
  List.takeWhile_eq_self_iff.mpr (all_ne_of_not_mem h)

theorem dropWhile_ne_of_not_mem (h : a ∉ front) : front.dropWhile (· ≠ a) = [] :=
  List.dropWhile_eq_nil_iff.mpr (all_ne_of_not_mem h)

theorem takeWhile_ne_append (behind : List α) (h : a ∉ front) :
    (front ++ a :: behind).takeWhile (· ≠ a) = front := by
  rw [List.takeWhile_append_of_pos (all_ne_of_not_mem h)]
  simp

theorem dropWhile_ne_append (behind : List α) (h : a ∉ front) :
    (front ++ a :: behind).dropWhile (· ≠ a) = a :: behind := by
  rw [List.dropWhile_append_of_pos (all_ne_of_not_mem h)]
  simp

end

theorem eq_append_of_dropWhile_ne {c first : Char} {t behind : Text}
    (h : t.dropWhile (· ≠ c) = first :: behind) :
    t = t.takeWhile (· ≠ c) ++ c :: behind := by
  have hopens := opensOutside_dropWhile (fun d => decide (d ≠ c)) t
  rw [h] at hopens
  have hfirst : first = c := by
    simpa using opensOutside_cons.mp hopens
  rw [hfirst] at h
  rw [← h]
  exact List.takeWhile_append_dropWhile.symm

/-!
## Trimming
-/

theorem opensOutside_trimStart (t : Text) : OpensOutside isBlank (trimStart t) :=
  opensOutside_dropWhile isBlank t

@[simp] theorem trimStart_eq_nil_iff {t : Text} : trimStart t = [] ↔ Blank t :=
  List.dropWhile_eq_nil_iff

theorem trimStart_append_of_blank {gap : Text} (t : Text) (hgap : Blank gap) :
    trimStart (gap ++ t) = trimStart t :=
  List.dropWhile_append_of_pos hgap

theorem trimStart_eq_self {t : Text} (h : OpensOutside isBlank t) : trimStart t = t := by
  cases t with
  | nil =>
      rfl
  | cons c t =>
      simp [trimStart, opensOutside_cons.mp h]

theorem exists_trimStart (t : Text) : ∃ gap, Blank gap ∧ t = gap ++ trimStart t := by
  exists t.takeWhile isBlank
  constructor
  · intro c hc
    exact List.mem_takeWhile_imp hc
  · exact List.takeWhile_append_dropWhile.symm

theorem trimStart_append_of_not_blank {s : Text} (t : Text) (hs : ¬ Blank s) :
    trimStart (s ++ t) = trimStart s ++ t := by
  rcases exists_trimStart s with ⟨gap, hgap, hsplit⟩
  have hne : trimStart s ≠ [] := fun hnil => hs (trimStart_eq_nil_iff.mp hnil)
  calc trimStart (s ++ t) = trimStart (gap ++ (trimStart s ++ t)) := by
        rw [← List.append_assoc, ← hsplit]
    _ = trimStart (trimStart s ++ t) := trimStart_append_of_blank _ hgap
    _ = trimStart s ++ t :=
        trimStart_eq_self ((opensOutside_append t hne).mpr (opensOutside_trimStart s))

theorem exists_trim (t : Text) :
    ∃ before behind, Blank before ∧ Blank behind ∧
      t = before ++ trim t ++ behind ∧
      OpensOutside isBlank (trim t) ∧ OpensOutside isBlank (trim t).reverse := by
  rcases exists_trimStart t with ⟨before, hbefore, hstart⟩
  rcases exists_trimStart (trimStart t).reverse with ⟨behind, hbehind, hend⟩
  have hmiddle : trimStart t = trim t ++ behind.reverse := by
    have hreverse := congrArg List.reverse hend
    rw [List.reverse_reverse, List.reverse_append] at hreverse
    exact hreverse
  refine ⟨before, behind.reverse, hbefore, ?_, ?_, ?_, ?_⟩
  · intro c hc
    exact hbehind c (List.mem_reverse.mp hc)
  · rw [List.append_assoc, ← hmiddle]
    exact hstart
  · by_cases hnil : trim t = []
    · simp [hnil]
    · have hopens := opensOutside_trimStart t
      rw [hmiddle] at hopens
      exact (opensOutside_append _ hnil).mp hopens
  · have hcloses := opensOutside_trimStart (trimStart t).reverse
    simpa [trim, trimEnd, trimStart] using hcloses

theorem trimStart_trim (t : Text) : trimStart (trim t) = trim t := by
  rcases exists_trim t with ⟨-, -, -, -, -, hopens, -⟩
  exact trimStart_eq_self hopens

theorem trim_surrounded {before middle behind : Text} (hbefore : Blank before)
    (hbehind : Blank behind) (hopens : OpensOutside isBlank middle)
    (hcloses : OpensOutside isBlank middle.reverse) :
    trim (before ++ middle ++ behind) = middle := by
  have hbehind' : Blank behind.reverse := fun c hc => hbehind c (List.mem_reverse.mp hc)
  by_cases hnil : middle = []
  · have hblank : Blank (before ++ middle ++ behind) := by
      simp [hnil, hbefore, hbehind]
    rw [trim, trimStart_eq_nil_iff.mpr hblank, hnil]
    rfl
  · have hstart : trimStart (before ++ middle ++ behind) = middle ++ behind := by
      rw [List.append_assoc, trimStart_append_of_blank _ hbefore]
      exact trimStart_eq_self ((opensOutside_append _ hnil).mpr hopens)
    have hend : trimStart (middle ++ behind).reverse = middle.reverse := by
      rw [List.reverse_append, trimStart_append_of_blank _ hbehind']
      exact trimStart_eq_self hcloses
    calc trim (before ++ middle ++ behind)
        = (trimStart (middle ++ behind).reverse).reverse := by
          rw [trim, hstart]
          rfl
      _ = middle := by
          rw [hend, List.reverse_reverse]

theorem trim_sublist (t : Text) : (trim t).Sublist t := by
  rcases exists_trim t with ⟨before, behind, -, -, hsplit, -, -⟩
  have hinfix : trim t <:+: t := ⟨before, behind, hsplit.symm⟩
  exact hinfix.sublist

theorem trim_append_of_blank_left {s : Text} (t : Text) (hs : Blank s) :
    trim (s ++ t) = trim t := by
  rw [trim, trimStart_append_of_blank t hs]
  rfl

theorem trim_append_of_blank_right (s : Text) {t : Text} (ht : Blank t) :
    trim (s ++ t) = trim s := by
  rcases exists_trim s with ⟨before, behind, hbefore, hbehind, hsplit, hopens, hcloses⟩
  have hblank : Blank (behind ++ t) := blank_append.mpr ⟨hbehind, ht⟩
  calc trim (s ++ t) = trim (before ++ trim s ++ (behind ++ t)) := by
        rw [← List.append_assoc, ← hsplit]
    _ = trim s := trim_surrounded hbefore hblank hopens hcloses

theorem trim_eq_nil_iff {t : Text} : trim t = [] ↔ Blank t := by
  rcases exists_trim t with ⟨before, behind, hbefore, hbehind, hsplit, -, -⟩
  constructor
  · intro hnil
    rw [hsplit, hnil]
    simp [hbefore, hbehind]
  · intro hblank
    have hmiddle : trim (t ++ [] ++ []) = [] :=
      trim_surrounded hblank blank_nil (opensOutside_nil isBlank)
        (opensOutside_nil isBlank)
    simpa using hmiddle

theorem trim_of_suffix_trim {s t : Text} (h : s <:+ trim t) : trim s = trimStart s := by
  rcases h with ⟨front, hfront⟩
  rcases exists_trimStart s with ⟨gap, hgap, hsplit⟩
  rcases exists_trim t with ⟨-, -, -, -, -, -, hcloses⟩
  by_cases hnil : trimStart s = []
  · rw [trim, hnil]
    rfl
  · have hne : (trimStart s).reverse ≠ [] := by
      simpa using hnil
    rw [← hfront, hsplit, List.reverse_append, List.reverse_append, List.append_assoc,
      opensOutside_append _ hne] at hcloses
    have hsurrounded := trim_surrounded hgap blank_nil (opensOutside_trimStart s) hcloses
    rwa [List.append_nil, ← hsplit] at hsurrounded

theorem trim_append_of_not_blank {s gap t : Text} (hs : ¬ Blank s) (ht : ¬ Blank t)
    (hne : gap ≠ []) (hgap : Blank gap) :
    ∃ wide, wide ≠ [] ∧ Blank wide ∧ trim (s ++ gap ++ t) = trim s ++ (wide ++ trim t) := by
  rcases exists_trim s with ⟨before, wide, hbefore, hwide, hs', hopens, -⟩
  rcases exists_trim t with ⟨wide', behind, hwide', hbehind, ht', -, hcloses⟩
  have hsne : trim s ≠ [] := fun hnil => hs (trim_eq_nil_iff.mp hnil)
  have htne : (trim t).reverse ≠ [] := by
    intro hnil
    exact ht (trim_eq_nil_iff.mp (List.reverse_eq_nil_iff.mp hnil))
  refine ⟨wide ++ gap ++ wide', by simp [hne], by simp [hwide, hgap, hwide'], ?_⟩
  have hmiddle : s ++ gap ++ t =
      before ++ (trim s ++ (wide ++ gap ++ wide' ++ trim t)) ++ behind := by
    calc s ++ gap ++ t
        = before ++ trim s ++ wide ++ gap ++ (wide' ++ trim t ++ behind) := by
          rw [← hs', ← ht']
      _ = before ++ (trim s ++ (wide ++ gap ++ wide' ++ trim t)) ++ behind := by
          simp only [List.append_assoc]
  rw [hmiddle]
  apply trim_surrounded hbefore hbehind
  · exact (opensOutside_append _ hsne).mpr hopens
  · have hreverse : (trim s ++ (wide ++ gap ++ wide' ++ trim t)).reverse =
        (trim t).reverse ++ (trim s ++ (wide ++ gap ++ wide')).reverse := by
      simp only [List.reverse_append, List.append_assoc]
    rw [hreverse]
    exact (opensOutside_append _ htne).mpr hcloses

end Text

end SearchQuery
