import SearchQuery.Proofs.Text.Blank

/-!
# Spans

A span is a stretch of a text between two positions, counted in bytes of UTF-8.
It holds the characters that stand there; no span holds anything when one of
its ends falls into the middle of a character.
-/

namespace SearchQuery

structure Span where
  start : Nat
  stop : Nat
  deriving DecidableEq, Repr

namespace Span

def origin : Span :=
  { start := 0, stop := 0 }

/-- The part stands in the text, from the start of the span to its end. -/
def Holds (span : Span) (t part : Text) : Prop :=
  ∃ before behind, t = before ++ part ++ behind ∧
    span.start = Text.byteLength before ∧ span.stop = Text.byteLength (before ++ part)

def Within (inner outer : Span) : Prop :=
  outer.start ≤ inner.start ∧ inner.stop ≤ outer.stop

instance (inner outer : Span) : Decidable (inner.Within outer) :=
  inferInstanceAs (Decidable (outer.start ≤ inner.start ∧ inner.stop ≤ outer.stop))

/-- The span `next` stands behind `last`, and there is white space between them at
most. -/
def Follows (t : Text) (last next : Span) : Prop :=
  last.stop ≤ next.start ∧
    ∃ gap, Text.Blank gap ∧ Holds { start := last.stop, stop := next.start } t gap

end Span

namespace Text

theorem byteLength_pos {t : Text} (h : t ≠ []) : 0 < byteLength t := by
  cases t with
  | nil =>
      exact absurd rfl h
  | cons c t =>
      have hc := Char.utf8Size_pos c
      rw [byteLength_cons]
      omega

theorem length_le_byteLength (t : Text) : t.length ≤ byteLength t := by
  induction t with
  | nil =>
      exact Nat.le_refl 0
  | cons c t ih =>
      have hc := Char.utf8Size_pos c
      rw [List.length_cons, byteLength_cons]
      omega

theorem byteLength_sub_of_append {t before rest : Text} (h : t = before ++ rest) :
    byteLength t - byteLength rest = byteLength before := by
  rw [h, byteLength_append]
  omega

end Text

theorem Span.holds_of_append (before part behind : Text) :
    Span.Holds { start := Text.byteLength before, stop := Text.byteLength (before ++ part) }
      (before ++ part ++ behind) part :=
  ⟨before, behind, rfl, rfl, rfl⟩

end SearchQuery
