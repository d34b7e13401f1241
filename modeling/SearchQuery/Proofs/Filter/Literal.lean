import SearchQuery.Filter.Literal

/-!
# Names between double quotes

A name between double quotes may hold double quotes of its own, and anything else
that has a meaning in SQL.  Each of its quotes is written twice, so it ends at the
first one that is not.  Who reads a literal condition in this way finds the table,
the column and the operator, and the condition with its dates belongs to no other
column and to no other period.
-/

namespace SearchQuery

namespace Quoting

/-- The text up to the first double quote that is not doubled, each doubled one read as
one, and what follows that quote. -/
def readDoubled? : Text → Option (Text × Text)
  | [] => none
  | '"' :: '"' :: t => (readDoubled? t).map fun read => ('"' :: read.1, read.2)
  | '"' :: t => some ([], t)
  | c :: t => (readDoubled? t).map fun read => (c :: read.1, read.2)

def readName? : Text → Option (Text × Text)
  | '"' :: t => readDoubled? t
  | _ => none

@[simp] theorem doubled_nil : doubled [] = [] := rfl

@[simp] theorem doubled_cons_quote (name : Text) :
    doubled ('"' :: name) = '"' :: '"' :: doubled name := rfl

theorem doubled_cons_of_ne {c : Char} (name : Text) (h : c ≠ '"') :
    doubled (c :: name) = c :: doubled name := by
  simp [doubled, h]

theorem readDoubled?_doubled_append (name : Text) {rest : Text} (h : rest.head? ≠ some '"') :
    readDoubled? (doubled name ++ '"' :: rest) = some (name, rest) := by
  induction name with
  | nil =>
      cases rest with
      | nil =>
          rfl
      | cons c rest =>
          have hne : c ≠ '"' := by
            simpa using h
          simp [readDoubled?, hne]
  | cons c name ih =>
      by_cases hquote : c = '"'
      · subst hquote
        simp [readDoubled?, ih]
      · simp [doubled_cons_of_ne name hquote, readDoubled?, hquote, ih]

theorem eq_doubled_of_readDoubled? {t name rest : Text} (h : readDoubled? t = some (name, rest)) :
    t = doubled name ++ '"' :: rest ∧ rest.head? ≠ some '"' := by
  fun_induction readDoubled? t generalizing name with
  | case1 =>
      cases h
  | case2 t ih =>
      rcases Option.map_eq_some_iff.mp h with ⟨⟨inner, behind⟩, hread, heq⟩
      cases heq
      rcases ih hread with ⟨rfl, hhead⟩
      exact ⟨rfl, hhead⟩
  | case3 t hsingle =>
      cases h
      refine ⟨rfl, ?_⟩
      intro hhead
      rcases List.head?_eq_some_iff.mp hhead with ⟨behind, rfl⟩
      exact hsingle behind rfl
  | case4 c t hdouble hquote ih =>
      rcases Option.map_eq_some_iff.mp h with ⟨⟨inner, behind⟩, hread, heq⟩
      cases heq
      rcases ih hread with ⟨rfl, hhead⟩
      exact ⟨by rw [doubled_cons_of_ne inner hquote]; rfl, hhead⟩

theorem readName?_eq_some_iff {t name rest : Text} :
    readName? t = some (name, rest) ↔
      t = doubleQuoted name ++ rest ∧ rest.head? ≠ some '"' := by
  constructor
  · intro h
    unfold readName? at h
    split at h
    · next t =>
        rcases eq_doubled_of_readDoubled? h with ⟨rfl, hhead⟩
        exact ⟨by simp [doubleQuoted], hhead⟩
    · cases h
  · intro h
    rcases h with ⟨rfl, hhead⟩
    simpa [doubleQuoted, readName?] using readDoubled?_doubled_append name hhead

/-- The end of a name and the start of the next one, inside a name. -/
example : readName? (doubleQuoted ['a', '"', '.', '"'] ++ ['.']) =
    some (['a', '"', '.', '"'], ['.']) := by
  rfl

end Quoting

namespace Period

def ofOperator? (operator : Text) (dates : List Date) : Option Period :=
  match dates with
  | [date] =>
      if operator = "= ?" then some (on date)
      else if operator = "<= ?" then some (onOrBefore date)
      else if operator = ">= ?" then some (onOrAfter date)
      else none
  | [first, last] => if operator = "BETWEEN ? AND ?" then some (within first last) else none
  | _ => none

theorem ofOperator?_operator (period : Period) :
    ofOperator? period.operator period.bounds = some period := by
  cases period <;> rfl

theorem eq_of_operator_eq {period other : Period} (hoperator : period.operator = other.operator)
    (hbounds : period.bounds = other.bounds) : period = other := by
  have hread := ofOperator?_operator period
  rw [hoperator, hbounds, ofOperator?_operator] at hread
  exact (Option.some.inj hread).symm

theorem sql_literal_ansi_iff {column : Column} {period : Period} {sql : Text} :
    (∃ behind, Quoting.readName? sql = some (column.table, '.' :: behind) ∧
      Quoting.readName? behind = some (column.name, ' ' :: period.operator)) ↔
      sql = (period.literal column .ansi).sql := by
  simp only [Quoting.readName?_eq_some_iff]
  constructor
  · rintro ⟨behind, ⟨rfl, -⟩, ⟨rfl, -⟩⟩
    simp [literal, Quoting.ansi]
  · rintro rfl
    refine ⟨Quoting.doubleQuoted column.name ++ ' ' :: period.operator, ⟨?_, by simp⟩,
      ⟨rfl, by simp⟩⟩
    simp [literal, Quoting.ansi]

/-- A literal condition in double quotes can be read back: first the name of the table, then
behind a dot the name of the column, and then the operator behind a space, whatever the names
hold.  No other condition reads so, and the condition with its dates tells the column and the
period. -/
theorem literal_ansi_exact (column : Column) (period : Period) :
    (∀ sql, (∃ behind, Quoting.readName? sql = some (column.table, '.' :: behind) ∧
        Quoting.readName? behind = some (column.name, ' ' :: period.operator)) ↔
      sql = (period.literal column .ansi).sql) ∧
    ∀ (other : Column) (asked : Period),
      (period.literal column .ansi).sql = (asked.literal other .ansi).sql ∧
          (period.literal column .ansi).binds = (asked.literal other .ansi).binds ↔
        column = other ∧ period = asked := by
  refine ⟨fun sql => sql_literal_ansi_iff, ?_⟩
  intro other asked
  constructor
  · intro h
    rcases h with ⟨hsql, hbinds⟩
    rcases sql_literal_ansi_iff.mpr hsql with ⟨behind, htable, hname⟩
    rcases sql_literal_ansi_iff.mpr (rfl : (period.literal column .ansi).sql = _) with
      ⟨behind', htable', hname'⟩
    rw [htable, Option.some.injEq, Prod.mk.injEq, List.cons.injEq] at htable'
    rcases htable' with ⟨htables, -, rfl⟩
    rw [hname, Option.some.injEq, Prod.mk.injEq, List.cons.injEq] at hname'
    rcases hname' with ⟨hnames, -, hoperators⟩
    refine ⟨?_, eq_of_operator_eq hoperators.symm hbinds⟩
    cases column
    cases other
    cases htables
    cases hnames
    rfl
  · intro h
    rcases h with ⟨rfl, rfl⟩
    exact ⟨rfl, rfl⟩

end Period

end SearchQuery
