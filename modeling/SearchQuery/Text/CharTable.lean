import SearchQuery.Text.Basic

/-!
# Tables of characters

A property of characters is given by the closed ranges of code points that
have it, in ascending order.
-/

namespace SearchQuery

/-- Closed ranges of code points. -/
abbrev CharTable := List (Nat × Nat)

namespace CharTable

def holds (table : CharTable) (c : Char) : Bool :=
  table.any fun range => range.1 ≤ c.toNat && c.toNat ≤ range.2

theorem holds_iff {table : CharTable} {c : Char} :
    table.holds c = true ↔
      ∃ range ∈ table, range.1 ≤ c.toNat ∧ c.toNat ≤ range.2 := by
  simp [holds]

end CharTable

end SearchQuery
