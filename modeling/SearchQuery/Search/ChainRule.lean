import SearchQuery.Calendar.Written
import SearchQuery.Filter.Chain
import SearchQuery.Search.Pattern
import SearchQuery.Search.Rule

/-!
# Rules on filter chains

Rules that add a condition on one column for the tokens they claim, and the
fallbacks that take what no rule claims.
-/

namespace SearchQuery

namespace ChainRule

def adding (name : Text) (condition? : Token → Option Condition) : Rule Chain :=
  { name := name
    claim? := fun token chain => (condition? token).map chain.add }

/-- Claims a number of 64 bits behind the label, and asks for its decimal form. -/
def number (name label : Text) (column : Column) : Rule Chain :=
  adding name fun token =>
    if token.label? = some label then
      (Text.readWord? token.term).map fun n => .equals column (Text.ofNat n)
    else none

def flag (name : Text) (column : Column) : Rule Chain :=
  adding name fun token =>
    if token.raw.getLast? = some ':' then some (.equals column token.raw.dropLast)
    else none

def marked (name mark : Text) (column : Column) : Rule Chain :=
  adding name fun token =>
    (Text.after? mark token.raw).map fun rest => .equals column rest

def exactly (name term : Text) (column : Column) : Rule Chain :=
  adding name fun token =>
    if token.term = term then some (.equals column token.raw) else none

def found (name : Text) (pattern : Pattern) (column : Column) : Rule Chain :=
  adding name fun token =>
    (pattern token.raw).map fun found =>
      .equals column (found.groups.head?.join.getD [])

def compared (name word : Text) (column : Column) : Rule Chain :=
  adding name fun token =>
    match Pattern.comparison word token.raw with
    | some ⟨_, [some sign, some value]⟩ =>
        (Comparator.ofSymbol? sign).map fun comparator =>
          .compares column comparator value
    | _ => none

def fullDate? (t : Text) : Option Date :=
  match Pattern.date t with
  | some ⟨_, [some month, some day, some year]⟩ =>
      (Text.readNat? year).bind fun yearValue =>
        let yearValue :=
          if year.length = 2 then WrittenDate.expandYear yearValue else yearValue
        (Text.readNat? month).bind fun month =>
          (Text.readNat? day).bind fun day => Date.ofParts? yearValue month day
  | _ => none

def dated (name : Text) (column : Column) : Rule Chain :=
  adding name fun token =>
    (fullDate? token.raw).map fun date => .equals column date.text

/-- Claims what stands behind the label, and asks for the term, after joining the
table if one is given. -/
def labelled (name label : Text) (table : Option Text) (column : Column) :
    Rule Chain :=
  { name := name
    claim? := fun token chain =>
      if token.label? = some label then
        let joined := match table with
          | none => chain
          | some table => chain.join table
        some (joined.add (.equals column token.term))
      else none }

def every (name : Text) (column : Column) : Rule Chain :=
  adding name fun token => some (.equals column token.raw)

def never (name : Text) : Rule Chain :=
  adding name fun _ => none

end ChainRule

/-!
## Fallbacks
-/

namespace Fallback

def containing (column : Column) (token : Token) (chain : Chain) : Chain :=
  chain.add (.like column (['%'] ++ token.term ++ ['%']))

def verbatim (column : Column) (token : Token) (chain : Chain) : Chain :=
  chain.add (.like column token.raw)

def ignoring (_ : Token) (chain : Chain) : Chain :=
  chain

end Fallback

end SearchQuery
