import SearchQuery.Calendar.Period
import SearchQuery.Calendar.Written

/-!
# Date expressions

A date expression asks for a period by written dates and a hyphen: `7/4` for one
day, `7/1-7/31` for the days between two, `-7/31` for all days up to one, and
`7/1-` for all days from one on.  No written date holds a hyphen, so the first
hyphen of an expression tells which of the four it is.
-/

namespace SearchQuery

inductive DateExpression where
  | single (date : WrittenDate)
  | range (first last : WrittenDate)
  | upTo (last : WrittenDate)
  | onward (first : WrittenDate)
  deriving DecidableEq, Repr

namespace DateExpression

def ofSides? (low high : Text) : Option DateExpression :=
  match low, high with
  | [], [] => none
  | [], _ => (WrittenDate.ofText? high).map upTo
  | _, [] => (WrittenDate.ofText? low).map onward
  | _, _ =>
      (WrittenDate.ofText? low).bind fun first =>
        (WrittenDate.ofText? high).map fun last => range first last

def ofText? (t : Text) : Option DateExpression :=
  match WrittenDate.ofText? t with
  | some date => some (single date)
  | none =>
      match t.dropWhile (· ≠ '-') with
      | [] => none
      | _ :: high => ofSides? (t.takeWhile (· ≠ '-')) high

/-- The period that is meant.  Years left out are the latest up to `reference`;
in a range, the second date is the latest in the year that the first one opens,
so that `12/1-1/31` reaches over the new year. -/
def resolve? (expression : DateExpression) (reference : Date) : Option Period :=
  match expression with
  | single date => (date.resolve? reference).map Period.on
  | range first last =>
      (first.resolve? reference).bind fun first =>
        first.nextYear?.bind fun anchor =>
          (last.resolve? anchor).map fun last => Period.within first last
  | upTo last => (last.resolve? reference).map Period.onOrBefore
  | onward first => (first.resolve? reference).map Period.onOrAfter

end DateExpression

end SearchQuery
