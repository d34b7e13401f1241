import SearchQuery.Text.Blank

/-!
# Labels

A label says what kind of term follows it, as `id:` does in `id: 42`.  It is a
name of ASCII letters and digits, a colon, and the white space after the colon.
-/

namespace SearchQuery

/-- A label: its name, and the white space between its colon and what follows. -/
structure Label where
  name : Text
  gap : Text
  deriving DecidableEq, Repr

namespace Label

def text (label : Label) : Text :=
  label.name ++ ':' :: label.gap

/-- The label at the start of a text, with what follows it.  The name and the
white space are as long as they can be. -/
def read? (t : Text) : Option (Label × Text) :=
  match t.takeWhile Text.isAlphanumeric, t.dropWhile Text.isAlphanumeric with
  | c :: name, ':' :: rest =>
      some (⟨c :: name, rest.takeWhile Text.isBlank⟩, Text.trimStart rest)
  | _, _ => none

theorem text_append_of_read? {t rest : Text} {label : Label}
    (h : read? t = some (label, rest)) :
    label.text ++ rest = t := by
  unfold read? at h
  split at h
  · next c name after hname hafter =>
      have hsplit := List.takeWhile_append_dropWhile (p := Text.isAlphanumeric) (l := t)
      rw [hname, hafter] at hsplit
      simp only [Option.some.injEq, Prod.mk.injEq] at h
      obtain ⟨rfl, rfl⟩ := h
      rw [← hsplit]
      simp [text, Text.trimStart]
  · simp at h

theorem head_isGraph_of_read? {t rest : Text} {label : Label}
    (h : read? t = some (label, rest)) :
    ∃ c tail, t = c :: tail ∧ Text.isGraph c = true := by
  unfold read? at h
  split at h
  · next c name after hname hafter =>
      cases t with
      | nil =>
          simp at hname
      | cons d tail =>
          refine ⟨d, tail, rfl, Text.isGraph_of_isAlphanumeric ?_⟩
          by_cases hd : Text.isAlphanumeric d = true
          · exact hd
          · simp [hd] at hname
  · simp at h

theorem text_ne_nil (label : Label) : label.text ≠ [] := by
  simp [text]

end Label

end SearchQuery
