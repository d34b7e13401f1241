import SearchQuery.Calendar.Date
import SearchQuery.Text.Decimal

/-!
# Dates in international notation

Year, month and day with hyphens between them.  The year has four digits, and a
minus sign and six digits before the year zero.
-/

namespace SearchQuery

namespace Date

def yearText (year : Int) : Text :=
  if year < 0 then '-' :: Text.padded 6 year.natAbs else Text.padded 4 year.natAbs

def text (date : Date) : Text :=
  yearText date.year ++ ['-'] ++ Text.padded 2 date.month.natAbs ++ ['-'] ++
    Text.padded 2 date.day.natAbs

def readDigits? (count : Nat) (t : Text) : Option (Int × Text) :=
  let digits := t.take count
  if digits.length = count ∧ digits.all Char.isDigit then
    some (Text.decimalValue digits, t.drop count)
  else none

def readYear? : Text → Option (Int × Text)
  | '-' :: t =>
      (readDigits? 6 t).bind fun (year, rest) =>
        if year = 0 then none else some (-year, rest)
  | t => readDigits? 4 t

/-- The date that the whole of a text is the notation of.  It is the one in which jiff
writes a civil date, and of those that jiff reads the only one here. -/
def ofText? (t : Text) : Option Date :=
  match readYear? t with
  | some (year, '-' :: t) =>
      match readDigits? 2 t with
      | some (month, '-' :: t) =>
          match readDigits? 2 t with
          | some (day, []) => ofParts? year month day
          | _ => none
      | _ => none
  | _ => none

end Date

end SearchQuery
