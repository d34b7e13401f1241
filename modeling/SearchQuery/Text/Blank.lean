import SearchQuery.Text.CharTable

/-!
# Blanks, controls and graphs

White space separates words, control characters stand between no words at
all, and every other character is a graph: something a bare word is made of.
The letters and digits of ASCII, among the graphs, make up the names of labels.
-/

namespace SearchQuery

namespace Text

/-- The property White_Space of Unicode. -/
def blanks : CharTable :=
  [(0x9, 0xD), (0x20, 0x20), (0x85, 0x85), (0xA0, 0xA0), (0x1680, 0x1680),
    (0x2000, 0x200A), (0x2028, 0x2029), (0x202F, 0x202F), (0x205F, 0x205F),
    (0x3000, 0x3000)]

/-- The general category Cc of Unicode. -/
def controls : CharTable :=
  [(0x0, 0x1F), (0x7F, 0x9F)]

def alphanumerics : CharTable :=
  [(0x30, 0x39), (0x41, 0x5A), (0x61, 0x7A)]

def isBlank (c : Char) : Bool :=
  blanks.holds c

def isControl (c : Char) : Bool :=
  controls.holds c

/-- A graph is neither white space nor a control character. -/
def isGraph (c : Char) : Bool :=
  !isBlank c && !isControl c

def isAlphanumeric (c : Char) : Bool :=
  alphanumerics.holds c

def trimStart (t : Text) : Text :=
  t.dropWhile isBlank

def trimEnd (t : Text) : Text :=
  (t.reverse.dropWhile isBlank).reverse

def trim (t : Text) : Text :=
  trimEnd (trimStart t)

/-!
## The classes exclude one another
-/

theorem isBlank_eq_false_of_isGraph {c : Char} (h : isGraph c = true) :
    isBlank c = false := by
  simp only [isGraph, Bool.and_eq_true, Bool.not_eq_true'] at h
  exact h.1

theorem isGraph_eq_false_of_isBlank {c : Char} (h : isBlank c = true) :
    isGraph c = false := by
  simp [isGraph, h]

theorem isGraph_of_isAlphanumeric {c : Char} (h : isAlphanumeric c = true) :
    isGraph c = true := by
  simp [isAlphanumeric, CharTable.holds, alphanumerics] at h
  simp [isGraph, isBlank, isControl, CharTable.holds, blanks, controls]
  omega

/-!
## Trimming
-/

theorem trimStart_length_le (t : Text) :
    (trimStart t).length ≤ t.length :=
  (List.dropWhile_sublist isBlank).length_le

end Text

end SearchQuery
