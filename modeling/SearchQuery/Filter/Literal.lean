import SearchQuery.Calendar.Period
import SearchQuery.Filter.Column

/-!
# Literal conditions

A period asked of a column, written as a condition of SQL.  The names are
quoted in the style of the database that reads it; the dates stay outside, a
question mark standing for each.
-/

namespace SearchQuery

structure Quoting where
  table : Text → Text
  column : Text → Text

namespace Quoting

def doubled (t : Text) : Text :=
  t.flatMap fun c => if c = '"' then ['"', '"'] else [c]

def doubleQuoted (name : Text) : Text :=
  ['"'] ++ doubled name ++ ['"']

/-- Double quotes around a name, and each double quote inside it twice. -/
def ansi : Quoting :=
  { table := doubleQuoted, column := doubleQuoted }

/-- Back quotes around a name, which must hold none. -/
def backQuoted : Quoting :=
  { table := fun name => ['\x60'] ++ name ++ ['\x60']
    column := fun name => ['\x60'] ++ name ++ ['\x60'] }

/-- Brackets around the name of a table and single quotes around the name of a
column, which must hold none of them. -/
def bracketed : Quoting :=
  { table := fun name => ['['] ++ name ++ [']']
    column := fun name => ['\x27'] ++ name ++ ['\x27'] }

end Quoting

structure Literal where
  sql : Text
  binds : List Date
  deriving DecidableEq

namespace Period

def operator : Period → Text
  | on _ => "= ?"
  | within _ _ => "BETWEEN ? AND ?"
  | onOrBefore _ => "<= ?"
  | onOrAfter _ => ">= ?"

def literal (period : Period) (column : Column) (quoting : Quoting) : Literal :=
  { sql :=
      quoting.table column.table ++ ['.'] ++ quoting.column column.name ++ [' '] ++
        period.operator
    binds := period.bounds }

end Period

end SearchQuery
