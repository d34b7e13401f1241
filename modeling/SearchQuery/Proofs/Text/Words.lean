import SearchQuery.Proofs.Text.Blank

/-!
# Words

The words of a text are what white space leaves of it: the longest stretches
without any.  A text falls into its words at every white space character, so
the words of a text with white space in it are those before and those behind.
-/

namespace SearchQuery

namespace Text

def words (t : Text) : List Text :=
  (t.splitOnP isBlank).filter fun word => !word.isEmpty

/-- A text with no double quotes in it, made of words of graphs alone. -/
def Bare (t : Text) : Prop :=
  ∀ c ∈ t, c ≠ '"' ∧ (isControl c = true → isBlank c = true)

instance (t : Text) : Decidable (Bare t) :=
  List.decidableBAll (fun c => c ≠ '"' ∧ (isControl c = true → isBlank c = true)) t

def Alphanumeric (t : Text) : Prop :=
  ∀ c ∈ t, isAlphanumeric c = true

instance (t : Text) : Decidable (Alphanumeric t) :=
  List.decidableBAll (fun c => isAlphanumeric c = true) t

def IsBareLabel (word : Text) : Prop :=
  ∃ name, name ≠ [] ∧ Alphanumeric name ∧ word = name ++ [':']

/-- The pieces one after the other, with white space between neighbours. -/
inductive Spaced : List Text → Text → Prop where
  | nil : Spaced [] []
  | one (piece : Text) : Spaced [piece] piece
  | cons (piece : Text) {gap next t : Text} {pieces : List Text} (hne : gap ≠ [])
      (hgap : Blank gap) (htail : Spaced (next :: pieces) t) :
      Spaced (piece :: next :: pieces) (piece ++ gap ++ t)

@[simp] theorem words_nil : words [] = [] := rfl

theorem words_append_cons (s t : Text) {b : Char} (hb : isBlank b = true) :
    words (s ++ b :: t) = words s ++ words t := by
  rw [words, List.splitOnP_append_cons s t hb, List.filter_append]
  rfl

theorem words_cons_of_blank (t : Text) {b : Char} (hb : isBlank b = true) :
    words (b :: t) = words t :=
  words_append_cons [] t hb

theorem words_append_of_opensBlank (s : Text) {t : Text} (ht : OpensBlank t) :
    words (s ++ t) = words s ++ words t := by
  cases t with
  | nil =>
      simp
  | cons b t =>
      have hb := opensBlank_cons.mp ht
      rw [words_append_cons s t hb, words_cons_of_blank t hb]

theorem words_append_of_blank {gap : Text} (t : Text) (hgap : Blank gap) :
    words (gap ++ t) = words t := by
  induction gap with
  | nil =>
      rfl
  | cons b gap ih =>
      rw [List.cons_append, words_cons_of_blank _ (hgap b (by simp))]
      exact ih fun c hc => hgap c (List.mem_cons_of_mem b hc)

theorem words_of_blank {t : Text} (ht : Blank t) : words t = [] := by
  have hwords := words_append_of_blank [] ht
  simpa using hwords

theorem words_of_no_blank {t : Text} (hne : t ≠ [])
    (ht : ∀ c ∈ t, isBlank c = false) : words t = [t] := by
  rw [words, List.splitOnP_eq_singleton ht]
  simp [hne]

theorem words_append_blank (t : Text) {gap : Text} (hgap : Blank gap) :
    words (t ++ gap) = words t := by
  by_cases hne : gap = []
  · rw [hne, List.append_nil]
  · have hopens := opensBlank_append_of_blank [] hne hgap
    rw [List.append_nil] at hopens
    rw [words_append_of_opensBlank t hopens, words_of_blank hgap, List.append_nil]

@[simp] theorem words_trim (t : Text) : words (trim t) = words t := by
  rcases exists_trim t with ⟨before, behind, hbefore, hbehind, hsplit, -, -⟩
  have hwords := words_append_blank (before ++ trim t) hbehind
  rw [← hsplit, words_append_of_blank (trim t) hbefore] at hwords
  exact hwords.symm

@[simp] theorem words_trimStart (t : Text) : words (trimStart t) = words t := by
  rcases exists_trimStart t with ⟨gap, hgap, hsplit⟩
  have hwords := words_append_of_blank (trimStart t) hgap
  rw [← hsplit] at hwords
  exact hwords.symm

/-!
## Counting words
-/

theorem exists_words_cons {c : Char} (t : Text) (hc : isBlank c = false) :
    ∃ word others, words (c :: t) = (c :: word) :: others ∧
      (words t).length ≤ others.length + 1 := by
  rcases List.exists_cons_of_ne_nil (List.splitOnP_ne_nil isBlank t) with ⟨piece, pieces, hsplit⟩
  refine ⟨piece, pieces.filter fun word => !word.isEmpty, ?_, ?_⟩
  · simp [words, List.splitOnP_cons_eq_if_modifyHead, hc, hsplit]
  · rw [words, hsplit, List.filter_cons]
    split <;> simp

theorem words_length_le_append (s t : Text) :
    (words t).length ≤ (words (s ++ t)).length := by
  induction s with
  | nil =>
      exact Nat.le_refl _
  | cons c s ih =>
      rw [List.cons_append]
      cases hc : isBlank c with
      | true =>
          rwa [words_cons_of_blank _ hc]
      | false =>
          rcases exists_words_cons (s ++ t) hc with ⟨word, others, hwords, hlength⟩
          rw [hwords, List.length_cons]
          exact ih.trans hlength

theorem words_length_pos_of_not_blank {t : Text} (h : ¬ Blank t) : 0 < (words t).length := by
  rcases exists_trimStart t with ⟨gap, hgap, hsplit⟩
  rw [← words_trimStart]
  cases hstart : trimStart t with
  | nil =>
      exact absurd (trimStart_eq_nil_iff.mp hstart) h
  | cons c tail =>
      have hopens := opensOutside_trimStart t
      rw [hstart] at hopens
      rcases exists_words_cons tail (opensOutside_cons.mp hopens) with ⟨word, others, hwords, -⟩
      simp [hwords]

/-!
## Spaced pieces
-/

namespace Spaced

theorem ne_nil {piece t : Text} {pieces : List Text} (h : Spaced (piece :: pieces) t)
    (hpiece : piece ≠ []) : t ≠ [] := by
  cases h with
  | one =>
      exact hpiece
  | cons _ hne hgap htail =>
      simp [hpiece]

theorem opensOutside {kind : Char → Bool} {pieces : List Text} {t : Text}
    (h : Spaced pieces t)
    (hpieces : ∀ piece ∈ pieces, piece ≠ [] ∧ OpensOutside kind piece) :
    OpensOutside kind t := by
  cases h with
  | nil =>
      exact opensOutside_nil kind
  | one =>
      exact (hpieces t (by simp)).2
  | cons piece hne hgap htail =>
      have hpiece := hpieces piece (by simp)
      rw [List.append_assoc]
      exact (opensOutside_append _ hpiece.1).mpr hpiece.2

theorem closesOutside {kind : Char → Bool} {pieces : List Text} {t : Text}
    (h : Spaced pieces t)
    (hpieces : ∀ piece ∈ pieces, piece ≠ [] ∧ OpensOutside kind piece.reverse) :
    OpensOutside kind t.reverse := by
  induction h with
  | nil =>
      exact opensOutside_nil kind
  | one piece =>
      exact (hpieces piece (by simp)).2
  | cons piece hne hgap htail ih =>
      rename_i gap next t pieces
      have hlast := ih fun piece hpiece => hpieces piece (List.mem_cons_of_mem _ hpiece)
      have ht : t.reverse ≠ [] := by
        simpa using htail.ne_nil (hpieces next (by simp)).1
      rw [List.reverse_append]
      exact (opensOutside_append _ ht).mpr hlast

theorem trim_eq {pieces : List Text} {t : Text} (h : Spaced pieces t)
    (hpieces : ∀ piece ∈ pieces, piece ≠ [] ∧ OpensOutside isBlank piece ∧
      OpensOutside isBlank piece.reverse) :
    trim t = t := by
  have hopens := h.opensOutside fun piece hpiece =>
    ⟨(hpieces piece hpiece).1, (hpieces piece hpiece).2.1⟩
  have hcloses := h.closesOutside fun piece hpiece =>
    ⟨(hpieces piece hpiece).1, (hpieces piece hpiece).2.2⟩
  simpa using trim_surrounded blank_nil blank_nil hopens hcloses

end Spaced

/-!
## Bare texts
-/

theorem Bare.append_left {s t : Text} (h : Bare (s ++ t)) : Bare s := by
  intro c hc
  exact h c (List.mem_append_left t hc)

theorem Bare.append_right {s t : Text} (h : Bare (s ++ t)) : Bare t := by
  intro c hc
  exact h c (List.mem_append_right s hc)

theorem Bare.isGraph {t : Text} (h : Bare t) {c : Char} (hc : c ∈ t)
    (hblank : isBlank c = false) : isGraph c = true := by
  have hcontrol : isControl c = false := by
    cases hcc : isControl c with
    | false =>
        rfl
    | true =>
        rw [(h c hc).2 hcc] at hblank
        cases hblank
  simp [Text.isGraph, hblank, hcontrol]

theorem Bare.quote_not_mem {t : Text} (h : Bare t) : '"' ∉ t := by
  intro hmem
  exact (h '"' hmem).1 rfl

theorem Bare.trimStart {t : Text} (h : Bare t) : Bare (Text.trimStart t) := by
  rcases exists_trimStart t with ⟨gap, -, hsplit⟩
  rw [hsplit] at h
  exact h.append_right

theorem Bare.trim {t : Text} (h : Bare t) : Bare (Text.trim t) := by
  rcases exists_trim t with ⟨before, behind, -, -, hsplit, -, -⟩
  rw [hsplit] at h
  exact h.append_left.append_right

theorem Bare.opensBlank {t : Text} (h : Bare t) (hne : t ≠ [])
    (hgraph : OpensOutside Text.isGraph t) : OpensBlank t := by
  rcases List.exists_cons_of_ne_nil hne with ⟨c, tail, rfl⟩
  rw [opensBlank_cons]
  cases hc : isBlank c with
  | true =>
      rfl
  | false =>
      rw [opensOutside_cons, h.isGraph List.mem_cons_self hc] at hgraph
      cases hgraph

theorem Bare.blank {t : Text} (h : Bare t)
    (hgraph : OpensOutside Text.isGraph (Text.trimStart t)) : Blank t := by
  by_cases hne : Text.trimStart t = []
  · exact trimStart_eq_nil_iff.mp hne
  · rcases h.trimStart.opensBlank hne hgraph with ⟨b, hb, hblank⟩
    rw [opensOutside_trimStart t b hb] at hblank
    cases hblank

end Text

end SearchQuery
