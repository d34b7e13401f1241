import SearchQuery.Calendar.Date
import SearchQuery.Text.Decimal

/-!
# Dates as people write them

A written date is a month and a day with a slash between them, and perhaps a
second slash and a year of two or four digits.  Two digits stand for a year from
1969 to 2068.  A year left out is the latest that does not put the date after a
given day.
-/

namespace SearchQuery

/-- The numbers of a written date.  They need not name a day of the calendar. -/
structure WrittenDate where
  month : Int
  day : Int
  year : Option Int
  deriving DecidableEq, Repr

namespace WrittenDate

def expandYear (year : Nat) : Nat :=
  let year := year % 100
  if year < 69 then 2000 + year else 1900 + year

/-- A number of one or two digits that no digit follows, and what follows it. -/
def readShort? (t : Text) : Option (Nat × Text) :=
  let digits := t.takeWhile Char.isDigit
  if digits.length = 1 ∨ digits.length = 2 then
    some (Text.decimalValue digits, t.dropWhile Char.isDigit)
  else none

def readYear? (t : Text) : Option Nat :=
  if t.all Char.isDigit then
    if t.length = 2 then some (expandYear (Text.decimalValue t))
    else if t.length = 4 then some (Text.decimalValue t)
    else none
  else none

def ofText? (t : Text) : Option WrittenDate :=
  match readShort? t with
  | some (month, '/' :: t) =>
      match readShort? t with
      | some (day, []) => some ⟨month, day, none⟩
      | some (day, '/' :: t) => (readYear? t).map fun year => ⟨month, day, some year⟩
      | _ => none
  | _ => none

/-- The year of the last such day up to `reference`. -/
def latestYear (month day : Int) (reference : Date) : Int :=
  if month < reference.month ∨ (month = reference.month ∧ day ≤ reference.day) then
    reference.year
  else
    reference.year - 1

def resolve? (written : WrittenDate) (reference : Date) : Option Date :=
  let year := written.year.getD (latestYear written.month written.day reference)
  Date.ofParts? year written.month written.day

def dateOf? (t : Text) (reference : Date) : Option Date :=
  (ofText? t).bind fun written => written.resolve? reference

end WrittenDate

end SearchQuery
