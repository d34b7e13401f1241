import SearchQuery.Token.Label

/-!
# Cutting tokens off a text

What may stand at the start of a text, and how much of it one token takes:

* a quoted phrase is a double quote, at least one character that is none, and
  a double quote;
* a bare word is a run of graphs, as long as it can be;
* a plain token is a quoted phrase or else a bare word;
* a token is a label and a plain token, or else a plain token alone.

A cut keeps what was taken and what is left, so nothing of the text is lost.
-/

namespace SearchQuery

structure Cut where
  text : Text
  rest : Text
  deriving DecidableEq, Repr

namespace Cut

structure Divides (cut : Cut) (t : Text) : Prop where
  nonempty : cut.text ≠ []
  whole : cut.text ++ cut.rest = t

/-- A quoted phrase, both quotes included.  An empty or an unclosed pair of
quotes is no phrase. -/
def quoted? : Text → Option Cut
  | '"' :: t =>
      match t.takeWhile (· ≠ '"'), t.dropWhile (· ≠ '"') with
      | c :: phrase, _ :: rest => some ⟨'"' :: (c :: phrase ++ ['"']), rest⟩
      | _, _ => none
  | _ => none

def bare? (t : Text) : Option Cut :=
  match t.takeWhile Text.isGraph with
  | [] => none
  | c :: word => some ⟨c :: word, t.dropWhile Text.isGraph⟩

def plain? (t : Text) : Option Cut :=
  match quoted? t with
  | some cut => some cut
  | none => bare? t

def labelled? (t : Text) : Option Cut :=
  match Label.read? t with
  | none => none
  | some (label, after) =>
      (plain? after).map fun cut => ⟨label.text ++ cut.text, cut.rest⟩

/-- A token, with its label if it has one.  A label with nothing behind it to
belong to is a bare word. -/
def token? (t : Text) : Option Cut :=
  match labelled? t with
  | some cut => some cut
  | none => plain? t

/-!
## Every cut divides its text
-/

namespace Divides

theorem rest_length_lt {cut : Cut} {t : Text} (h : cut.Divides t) :
    cut.rest.length < t.length := by
  have hpos : 0 < cut.text.length :=
    List.length_pos_iff.mpr h.nonempty
  rw [← h.whole, List.length_append]
  omega

end Divides

theorem divides_of_quoted? {t : Text} {cut : Cut} (h : quoted? t = some cut) :
    cut.Divides t := by
  unfold quoted? at h
  split at h
  · next t =>
      split at h
      · next c phrase d rest hphrase hrest =>
          have hsplit :=
            List.takeWhile_append_dropWhile (p := fun x => decide (x ≠ '"')) (l := t)
          have hd : d = '"' := by
            have hhead := List.head?_dropWhile_not (fun x => decide (x ≠ '"')) t
            rw [hrest] at hhead
            simpa using hhead
          rw [hphrase, hrest, hd] at hsplit
          simp only [Option.some.injEq] at h
          subst h
          constructor
          · simp
          · rw [← hsplit]
            simp
      · simp at h
  · simp at h

theorem divides_of_bare? {t : Text} {cut : Cut} (h : bare? t = some cut) :
    cut.Divides t := by
  unfold bare? at h
  split at h
  · simp at h
  · next c word hword =>
      have hsplit := List.takeWhile_append_dropWhile (p := Text.isGraph) (l := t)
      rw [hword] at hsplit
      simp only [Option.some.injEq] at h
      subst h
      constructor
      · simp
      · exact hsplit

theorem divides_of_plain? {t : Text} {cut : Cut} (h : plain? t = some cut) :
    cut.Divides t := by
  unfold plain? at h
  split at h
  · next hquoted =>
      simp only [Option.some.injEq] at h
      subst h
      exact divides_of_quoted? hquoted
  · exact divides_of_bare? h

theorem divides_of_labelled? {t : Text} {cut : Cut} (h : labelled? t = some cut) :
    cut.Divides t := by
  unfold labelled? at h
  split at h
  · simp at h
  · next label after hlabel =>
      obtain ⟨plain, hplain, rfl⟩ := Option.map_eq_some_iff.mp h
      constructor
      · simp [Label.text_ne_nil]
      · rw [List.append_assoc, (divides_of_plain? hplain).whole]
        exact Label.text_append_of_read? hlabel

theorem divides_of_token? {t : Text} {cut : Cut} (h : token? t = some cut) :
    cut.Divides t := by
  unfold token? at h
  split at h
  · next hlabelled =>
      simp only [Option.some.injEq] at h
      subst h
      exact divides_of_labelled? hlabelled
  · exact divides_of_plain? h

/-!
## Where a token can be cut, a plain one can
-/

theorem bare?_isSome_of_isGraph {c : Char} (t : Text) (h : Text.isGraph c = true) :
    (bare? (c :: t)).isSome = true := by
  simp [bare?, h]

theorem plain?_isSome_of_token? {t : Text} {cut : Cut} (h : token? t = some cut) :
    (plain? t).isSome = true := by
  unfold token? at h
  split at h
  · next hlabelled =>
      unfold labelled? at hlabelled
      split at hlabelled
      · simp at hlabelled
      · next hlabel =>
          obtain ⟨c, tail, rfl, hc⟩ := Label.head_isGraph_of_read? hlabel
          unfold plain?
          split
          · rfl
          · exact bare?_isSome_of_isGraph tail hc
  · simp [h]

end Cut

end SearchQuery
