import SearchQuery.Filter.Literal
import SearchQuery.Json

/-!
# Filter conditions

One condition that narrows a selection of rows, with the line of text and the
JSON object that stand for it.
-/

namespace SearchQuery

inductive Comparator where
  | less
  | greater
  | equal
  deriving DecidableEq, Repr

namespace Comparator

def symbol : Comparator → Text
  | less => "<"
  | greater => ">"
  | equal => "="

def ofSymbol? (t : Text) : Option Comparator :=
  [less, greater, equal].find? fun comparator => comparator.symbol = t

theorem ofSymbol?_symbol (comparator : Comparator) :
    ofSymbol? comparator.symbol = some comparator := by
  cases comparator <;> decide

end Comparator

structure DateCondition where
  field : Column
  period : Period
  literal : Option Literal
  deriving DecidableEq

inductive Condition where
  | date (condition : DateCondition)
  | equals (column : Column) (value : Text)
  | compares (column : Column) (comparator : Comparator) (value : Text)
  | like (column : Column) (pattern : Text)
  | join (table : Text)
  deriving DecidableEq

/-!
## Text
-/

def DateCondition.text (condition : DateCondition) : Text :=
  condition.field.text ++ [' '] ++ condition.period.text ++
    match condition.literal with
    | none => []
    | some literal => " (" ++ literal.sql ++ ")"

def Condition.text : Condition → Text
  | date condition => condition.text
  | equals column value => column.text ++ " = " ++ Text.quoted value
  | compares column comparator value =>
      column.text ++ [' '] ++ comparator.symbol ++ [' '] ++ value
  | like column pattern => column.text ++ " LIKE " ++ Text.quoted pattern
  | join table => "JOIN " ++ table

/-!
## JSON
-/

def Date.json (date : Date) : Json :=
  .str date.text

def Column.json (column : Column) : Json :=
  .obj [("table", .str column.table), ("name", .str column.name)]

def Period.json : Period → Json
  | on date => .obj [("on", date.json)]
  | within first last =>
      .obj [("within", .obj [("start", first.json), ("end", last.json)])]
  | onOrBefore date => .obj [("on_or_before", date.json)]
  | onOrAfter date => .obj [("on_or_after", date.json)]

def Literal.json (literal : Literal) : Json :=
  .obj [("sql", .str literal.sql), ("binds", .arr (literal.binds.map Date.json))]

def DateCondition.members (condition : DateCondition) : List (Text × Json) :=
  ("field", condition.field.json) :: ("comparison", condition.period.json) ::
    match condition.literal with
    | none => []
    | some literal => [("literal", literal.json)]

def Condition.json : Condition → Json
  | date condition => .obj (("kind", .str "date") :: condition.members)
  | equals column value =>
      .obj [("kind", .str "eq"), ("column", column.json), ("value", .str value)]
  | compares column comparator value =>
      .obj [("kind", .str "compare"), ("column", column.json),
        ("op", .str comparator.symbol), ("value", .str value)]
  | like column pattern =>
      .obj [("kind", .str "matches"), ("column", column.json), ("pattern", .str pattern)]
  | join table => .obj [("kind", .str "join"), ("table", .str table)]

end SearchQuery
