import SearchQuery.Calendar.Iso

/-!
# Periods

What a date can be asked to lie in: a single day, the days from one to another,
or all days up to one or from one on.  Every end is part of its period.
-/

namespace SearchQuery

inductive Period where
  | on (date : Date)
  | within (first last : Date)
  | onOrBefore (date : Date)
  | onOrAfter (date : Date)
  deriving DecidableEq

namespace Period

def bounds : Period → List Date
  | on date => [date]
  | within first last => [first, last]
  | onOrBefore date => [date]
  | onOrAfter date => [date]

def text : Period → Text
  | on date => "= " ++ date.text
  | within first last => "in [" ++ first.text ++ ", " ++ last.text ++ "]"
  | onOrBefore date => "<= " ++ date.text
  | onOrAfter date => ">= " ++ date.text

end Period

end SearchQuery
