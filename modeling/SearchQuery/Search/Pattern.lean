import SearchQuery.Text.Blank
import SearchQuery.Text.DecimalDigit

/-!
# Patterns

Patterns that rules look for in the text of a token.  All but the last describe
the whole text.  Their digits are those of every script.
-/

namespace SearchQuery

/-- A pattern found in a text: the text found, and its groups.  A group that took
no part is missing. -/
structure Found where
  text : Text
  groups : List (Option Text)
  deriving DecidableEq, Repr

def Found.all (found : Found) : List (Option Text) :=
  some found.text :: found.groups

abbrev Pattern := Text → Option Found

namespace Pattern

def isNumber (t : Text) : Bool :=
  !t.isEmpty && t.all Text.isDecimalDigit

def isAmount (t : Text) : Bool :=
  isNumber (t.takeWhile (· ≠ '.')) &&
    match t.dropWhile (· ≠ '.') with
    | [] => true
    | _ :: decimals => isNumber decimals

def number (label : Text) : Pattern := fun t =>
  match Text.after? (label ++ [':']) t with
  | none => none
  | some rest =>
      let digits := Text.trimStart rest
      if isNumber digits then some ⟨t, [some digits]⟩ else none

/-- The label, a colon, one space, and an amount, which is the group. -/
def amount (label : Text) : Pattern := fun t =>
  match Text.after? (label ++ [':', ' ']) t with
  | none => none
  | some rest => if isAmount rest then some ⟨t, [some rest]⟩ else none

def comparison (name : Text) : Pattern := fun t =>
  match Text.after? name t with
  | some (sign :: value) =>
      if sign ∈ ['<', '=', '>'] ∧ isNumber value then
        some ⟨t, [some [sign], some value]⟩
      else none
  | _ => none

def date : Pattern := fun t =>
  match t.dropWhile (· ≠ '/') with
  | [] => none
  | _ :: rest =>
      match rest.dropWhile (· ≠ '/') with
      | [] => none
      | _ :: year =>
          let month := t.takeWhile (· ≠ '/')
          let day := rest.takeWhile (· ≠ '/')
          if isNumber month ∧ month.length ≤ 2 ∧ isNumber day ∧ day.length ≤ 2 ∧
              isNumber year ∧ (year.length = 2 ∨ year.length = 4) then
            some ⟨t, [some month, some day, some year]⟩
          else none

def line (label : Text) : Pattern := fun t =>
  match Text.after? (label ++ [':']) t with
  | none => none
  | some rest =>
      let content := Text.trimStart rest
      if '\n' ∈ content then none else some ⟨t, [some content]⟩

/-- The first place where `first` stands, with `second` if it follows there,
which is then the group. -/
def pair (first second : Char) : Pattern := fun t =>
  match t.dropWhile (· ≠ first) with
  | [] => none
  | _ :: rest =>
      if rest.head? = some second then some ⟨[first, second], [some [second]]⟩
      else some ⟨[first], [none]⟩

end Pattern

end SearchQuery
