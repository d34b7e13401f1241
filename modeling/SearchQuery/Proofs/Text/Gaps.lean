import SearchQuery.Proofs.Text.Words

/-!
# Words and what stands between them

A text is gone through word by word: the graphs that come first, the white space
behind them, and so on, up to a control character or the end.  Two texts with the
same words may differ in the white space alone, so whatever is read of words is
read of both alike.
-/

namespace SearchQuery

namespace Text

def firstWord (t : Text) : Text :=
  (trimStart t).takeWhile isGraph

def behindWord (t : Text) : Text :=
  (trimStart t).dropWhile isGraph

def firstGap (t : Text) : Text :=
  (behindWord t).takeWhile isBlank

def behindWords (t : Text) : Nat → Text
  | 0 => t
  | k + 1 => behindWords (behindWord t) k

/-- The word with the given number, counted from zero, or nothing if there are not as many. -/
def wordAt (t : Text) (k : Nat) : Text :=
  firstWord (behindWords t k)

def gapAt (t : Text) (k : Nat) : Text :=
  firstGap (behindWords t k)

@[simp] theorem gapAt_zero (t : Text) : gapAt t 0 = firstGap t := rfl

@[simp] theorem gapAt_succ (t : Text) (k : Nat) : gapAt t (k + 1) = gapAt (behindWord t) k := rfl

/-!
## One word further
-/

theorem firstWord_append_behindWord (t : Text) : firstWord t ++ behindWord t = trimStart t :=
  List.takeWhile_append_dropWhile

theorem isGraph_of_mem_firstWord {t : Text} {c : Char} (hc : c ∈ firstWord t) :
    isGraph c = true :=
  List.mem_takeWhile_imp hc

theorem behindWord_opensOutside (t : Text) : OpensOutside isGraph (behindWord t) :=
  opensOutside_dropWhile isGraph (trimStart t)

theorem firstGap_append_trimStart (t : Text) :
    firstGap t ++ trimStart (behindWord t) = behindWord t :=
  List.takeWhile_append_dropWhile

theorem blank_firstGap (t : Text) : Blank (firstGap t) := by
  intro c hc
  exact List.mem_takeWhile_imp hc

theorem behindWord_length_lt {t : Text} (h : firstWord t ≠ []) :
    (behindWord t).length < t.length := by
  have hsplit := congrArg List.length (firstWord_append_behindWord t)
  have hpos := List.length_pos_iff.mpr h
  have hle := trimStart_length_le t
  rw [List.length_append] at hsplit
  omega

theorem not_blank_of_firstWord {t : Text} (h : firstWord t ≠ []) : ¬ Blank t := by
  intro hblank
  rw [firstWord, trimStart_eq_nil_iff.mpr hblank] at h
  exact h rfl

theorem behindWord_of_firstWord {t : Text} (h : firstWord t = []) : behindWord t = trimStart t := by
  rw [← firstWord_append_behindWord t, h, List.nil_append]

theorem wordAt_of_firstWord {t : Text} (h : firstWord t = []) (k : Nat) : wordAt t k = [] := by
  induction k generalizing t with
  | zero =>
      exact h
  | succ k ih =>
      have hnext : firstWord (behindWord t) = [] := by
        rw [behindWord_of_firstWord h, firstWord, trimStart_eq_self (opensOutside_trimStart t)]
        exact h
      exact ih hnext

theorem behindWords_add (t : Text) (n k : Nat) :
    behindWords t (n + k) = behindWords (behindWords t n) k := by
  induction n generalizing t with
  | zero =>
      rw [Nat.zero_add]
      rfl
  | succ n ih =>
      rw [Nat.succ_add]
      exact ih (behindWord t)

theorem behindWord_length_le (t : Text) : (behindWord t).length ≤ t.length :=
  ((List.dropWhile_sublist isGraph).length_le).trans (trimStart_length_le t)

theorem behindWords_length_le (t : Text) (n : Nat) : (behindWords t n).length ≤ t.length := by
  induction n generalizing t with
  | zero =>
      exact Nat.le_refl _
  | succ n ih =>
      exact (ih (behindWord t)).trans (behindWord_length_le t)

theorem behindWords_length_lt {t : Text} (h : firstWord t ≠ []) {n : Nat} (hn : 0 < n) :
    (behindWords t n).length < t.length := by
  rcases Nat.exists_eq_succ_of_ne_zero (Nat.ne_of_gt hn) with ⟨k, rfl⟩
  exact (behindWords_length_le (behindWord t) k).trans_lt (behindWord_length_lt h)

/-!
## White space at the ends
-/

theorem behindWord_append_of_blank_left {gap : Text} (t : Text) (hgap : Blank gap) :
    behindWord (gap ++ t) = behindWord t := by
  rw [behindWord, trimStart_append_of_blank t hgap]
  rfl

theorem behindWord_append_of_blank_right {t gap : Text} (ht : ¬ Blank t) (hgap : Blank gap) :
    behindWord (t ++ gap) = behindWord t ++ gap := by
  have hopens : OpensOutside isGraph gap := by
    intro c hc
    exact isGraph_eq_false_of_isBlank (hgap c (List.mem_of_mem_head? hc))
  rw [behindWord, trimStart_append_of_not_blank gap ht,
    dropWhile_append_of_opensOutside _ hopens]
  rfl

theorem firstGap_append_of_blank_right {t gap : Text} (ht : firstWord (behindWord t) ≠ [])
    (hgap : Blank gap) : firstGap (t ++ gap) = firstGap t := by
  have hbehind := not_blank_of_firstWord ht
  have hnot : ¬ Blank t := by
    intro hblank
    rw [behindWord, trimStart_eq_nil_iff.mpr hblank] at hbehind
    exact hbehind blank_nil
  have hne : trimStart (behindWord t) ≠ [] := by
    intro hnil
    exact hbehind (trimStart_eq_nil_iff.mp hnil)
  have hopens := (opensOutside_append gap hne).mpr (opensOutside_trimStart (behindWord t))
  calc firstGap (t ++ gap) = (behindWord t ++ gap).takeWhile isBlank := by
        rw [firstGap, behindWord_append_of_blank_right hnot hgap]
    _ = (firstGap t ++ (trimStart (behindWord t) ++ gap)).takeWhile isBlank := by
        rw [← List.append_assoc, firstGap_append_trimStart]
    _ = firstGap t := takeWhile_append_of_all (blank_firstGap t) hopens

theorem gapAt_append_of_blank_left {gap : Text} (t : Text) (hgap : Blank gap) (k : Nat) :
    gapAt (gap ++ t) k = gapAt t k := by
  have hbehind := behindWord_append_of_blank_left t hgap
  cases k with
  | zero =>
      rw [gapAt_zero, gapAt_zero, firstGap, hbehind]
      rfl
  | succ k =>
      rw [gapAt_succ, gapAt_succ, hbehind]

theorem gapAt_append_of_blank_right {t gap : Text} (hgap : Blank gap) (k : Nat)
    (ht : wordAt t (k + 1) ≠ []) : gapAt (t ++ gap) k = gapAt t k := by
  induction k generalizing t with
  | zero =>
      exact firstGap_append_of_blank_right ht hgap
  | succ k ih =>
      have hfirst : firstWord t ≠ [] := fun hnil => ht (wordAt_of_firstWord hnil (k + 2))
      rw [gapAt_succ, gapAt_succ,
        behindWord_append_of_blank_right (not_blank_of_firstWord hfirst) hgap]
      exact ih ht

theorem gapAt_trim {t : Text} (k : Nat) (ht : wordAt (trim t) (k + 1) ≠ []) :
    gapAt (trim t) k = gapAt t k := by
  rcases exists_trim t with ⟨before, behind, hbefore, hbehind, hsplit, -, -⟩
  have hgap := gapAt_append_of_blank_right hbehind k ht
  rw [← hgap, ← gapAt_append_of_blank_left (trim t ++ behind) hbefore, ← List.append_assoc,
    ← hsplit]

/-!
## Texts with the same words
-/

theorem exists_others (t : Text) :
    ∃ others, trimStart t = (words t).headD [] ++ others ∧ words others = (words t).tail ∧
      (others = [] ∨ OpensBlank others) := by
  have hsplit := List.takeWhile_append_dropWhile (p := fun c => !isBlank c) (l := trimStart t)
  have hopens := opensOutside_dropWhile (fun c => !isBlank c) (trimStart t)
  have hword : ∀ c ∈ (trimStart t).takeWhile fun c => !isBlank c, isBlank c = false := by
    intro c hc
    simpa using List.mem_takeWhile_imp hc
  have hstart := opensOutside_trimStart t
  rw [← words_trimStart t]
  generalize (trimStart t).takeWhile (fun c => !isBlank c) = word at hsplit hword
  generalize (trimStart t).dropWhile (fun c => !isBlank c) = others at hsplit hopens
  rw [← hsplit] at hstart ⊢
  have hblank : others = [] ∨ OpensBlank others := by
    cases others with
    | nil =>
        exact Or.inl rfl
    | cons c others =>
        exact Or.inr (opensBlank_cons.mpr (by simpa using opensOutside_cons.mp hopens))
  have hothers : words (word ++ others) = words word ++ words others := by
    rcases hblank with hnil | hblank
    · rw [hnil, words_nil, List.append_nil, List.append_nil]
    · exact words_append_of_opensBlank word hblank
  by_cases hne : word = []
  · -- White space does not stand first, so there is nothing at all.
    have hnil : others = [] := by
      rcases hblank with hnil | ⟨c, hc, hcblank⟩
      · exact hnil
      · rw [hne, List.nil_append] at hstart
        rw [hstart c hc] at hcblank
        cases hcblank
    rw [hne, hnil]
    exact ⟨[], rfl, rfl, Or.inl rfl⟩
  · rw [hothers, words_of_no_blank hne hword]
    exact ⟨others, rfl, rfl, hblank⟩

theorem opensOutside_others {others : Text} (h : others = [] ∨ OpensBlank others) :
    OpensOutside isGraph others := by
  rcases h with hnil | hblank
  · rw [hnil]
    exact opensOutside_nil isGraph
  · exact hblank.opensOutside fun _ => isBlank_eq_false_of_isGraph

theorem firstWord_eq (t : Text) : firstWord t = ((words t).headD []).takeWhile isGraph := by
  rcases exists_others t with ⟨others, hstart, -, hothers⟩
  rw [firstWord, hstart, takeWhile_append_of_opensOutside _ (opensOutside_others hothers)]

/-- A control character ends the first word for reading, and is part of it as white space
counts words. -/
theorem words_behindWord (t : Text) :
    words (behindWord t) = words (((words t).headD []).dropWhile isGraph) ++ (words t).tail := by
  rcases exists_others t with ⟨others, hstart, hwords, hothers⟩
  rw [behindWord, hstart, dropWhile_append_of_opensOutside _ (opensOutside_others hothers),
    ← hwords]
  rcases hothers with hnil | hblank
  · rw [hnil, words_nil, List.append_nil, List.append_nil]
  · exact words_append_of_opensBlank _ hblank

theorem firstWord_congr {s t : Text} (h : words s = words t) : firstWord s = firstWord t := by
  rw [firstWord_eq, firstWord_eq, h]

theorem words_behindWord_congr {s t : Text} (h : words s = words t) :
    words (behindWord s) = words (behindWord t) := by
  rw [words_behindWord, words_behindWord, h]

theorem words_behindWords_congr {s t : Text} (h : words s = words t) (k : Nat) :
    words (behindWords s k) = words (behindWords t k) := by
  induction k generalizing s t with
  | zero =>
      exact h
  | succ k ih =>
      exact ih (words_behindWord_congr h)

theorem wordAt_congr {s t : Text} (h : words s = words t) (k : Nat) : wordAt s k = wordAt t k :=
  firstWord_congr (words_behindWords_congr h k)

end Text

end SearchQuery
