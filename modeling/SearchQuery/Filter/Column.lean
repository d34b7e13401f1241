import SearchQuery.Text.Record

/-!
# Columns
-/

namespace SearchQuery

structure Column where
  table : Text
  name : Text
  deriving DecidableEq, Repr

namespace Column

def text (column : Column) : Text :=
  column.table ++ ['.'] ++ column.name

def inspect (column : Column) : Text :=
  Text.record "Column"
    [Text.field "table" (Text.quoted column.table),
      Text.field "name" (Text.quoted column.name)]

end Column

end SearchQuery
