/-!
# Text

Text is the list of its characters, so that a scan is a function on lists and
its laws are laws of lists.  Lengths and positions are counted in bytes of
UTF-8: a cut between two characters is a cut between two bytes, and no other
cut can be written down.
-/

namespace SearchQuery

abbrev Text := List Char

instance : Coe String Text :=
  ⟨String.toList⟩

namespace Text

def byteLength : Text → Nat
  | [] => 0
  | c :: t => c.utf8Size + byteLength t

@[simp] theorem byteLength_nil : byteLength [] = 0 := rfl

@[simp] theorem byteLength_cons (c : Char) (t : Text) :
    byteLength (c :: t) = c.utf8Size + byteLength t := rfl

@[simp] theorem byteLength_append (s t : Text) :
    byteLength (s ++ t) = byteLength s + byteLength t := by
  induction s with
  | nil =>
      simp
  | cons c s ih =>
      simp [ih, Nat.add_assoc]

/-- What follows `start` in a text that begins with it. -/
def after? : Text → Text → Option Text
  | [], t => some t
  | _ :: _, [] => none
  | c :: start, d :: t =>
      if c = d then after? start t else none

theorem after?_append (start t : Text) :
    after? start (start ++ t) = some t := by
  induction start with
  | nil =>
      rfl
  | cons c start ih =>
      simp [after?, ih]

theorem after?_eq_some_iff {start t rest : Text} :
    after? start t = some rest ↔ t = start ++ rest := by
  constructor
  · intro h
    induction start generalizing t with
    | nil =>
        simpa [after?] using h
    | cons c start ih =>
        cases t with
        | nil =>
            simp [after?] at h
        | cons d t =>
            by_cases hcd : c = d
            · subst hcd
              simp only [after?, if_true] at h
              simp [ih h]
            · simp [after?, hcd] at h
  · intro h
    subst h
    exact after?_append start rest

def joinWith (separator : Text) (parts : List Text) : Text :=
  List.intercalate separator parts

end Text

end SearchQuery
