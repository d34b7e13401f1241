import SearchQuery.Proofs.Filter.Growth
import SearchQuery.Proofs.Text.Lines

/-!
# Conditions on one line

Dates, periods and the operators of SQL are on one line, so a condition is if its
names are, its literal is, and the value is that it shows without quotes.  A chain
of such conditions is shown on as many lines as it has conditions.
-/

namespace SearchQuery

open Text

/-!
## Dates and literals
-/

@[simp] theorem Date.oneLine_text (date : Date) : OneLine date.text := by
  have hyear : OneLine (yearText date.year) := by
    unfold yearText
    split
    · simp
    · simp
  simp [text, hyear]

namespace Period

@[simp] theorem oneLine_text (period : Period) : OneLine period.text := by
  cases period with
  | on date =>
      show OneLine ("= " ++ date.text)
      simp
  | within first last =>
      show OneLine ("in [" ++ first.text ++ ", " ++ last.text ++ "]")
      simp
  | onOrBefore date =>
      show OneLine ("<= " ++ date.text)
      simp
  | onOrAfter date =>
      show OneLine (">= " ++ date.text)
      simp

@[simp] theorem oneLine_operator (period : Period) : OneLine period.operator := by
  cases period with
  | on date =>
      show OneLine "= ?"
      simp
  | within first last =>
      show OneLine "BETWEEN ? AND ?"
      simp
  | onOrBefore date =>
      show OneLine "<= ?"
      simp
  | onOrAfter date =>
      show OneLine ">= ?"
      simp

theorem oneLine_sql {period : Period} {column : Column} {quoting : Quoting} :
    OneLine (period.literal column quoting).sql ↔
      OneLine (quoting.table column.table) ∧ OneLine (quoting.column column.name) := by
  simp [literal]

end Period

/-!
## Conditions
-/

@[simp] theorem Comparator.oneLine_symbol (comparator : Comparator) :
    OneLine comparator.symbol := by
  cases comparator with
  | _ =>
      decide

namespace Condition

theorem oneLine_date {field : Column} {period : Period} {literal : Option Literal} :
    OneLine (date ⟨field, period, literal⟩).text ↔
      OneLine field.text ∧ ∀ shown ∈ literal, OneLine shown.sql := by
  cases literal with
  | none =>
      show OneLine (field.text ++ [' '] ++ period.text ++ []) ↔ _
      simp
  | some shown =>
      show OneLine (field.text ++ [' '] ++ period.text ++ (" (" ++ shown.sql ++ ")")) ↔ _
      simp

theorem oneLine_equals {column : Column} {value : Text} :
    OneLine (equals column value).text ↔ OneLine column.text := by
  show OneLine (column.text ++ " = " ++ quoted value) ↔ _
  simp

theorem oneLine_compares {column : Column} {comparator : Comparator} {value : Text} :
    OneLine (compares column comparator value).text ↔ OneLine column.text ∧ OneLine value := by
  show OneLine (column.text ++ [' '] ++ comparator.symbol ++ [' '] ++ value) ↔ _
  simp

theorem oneLine_like {column : Column} {pattern : Text} :
    OneLine (like column pattern).text ↔ OneLine column.text := by
  show OneLine (column.text ++ " LIKE " ++ quoted pattern) ↔ _
  simp

theorem oneLine_join {table : Text} : OneLine (join table).text ↔ OneLine table := by
  show OneLine ("JOIN " ++ table) ↔ _
  simp

end Condition

/-!
## Chains
-/

namespace Chain

variable {chain : Chain}

def OneLineEach (chain : Chain) : Prop :=
  ∀ condition ∈ chain.conditions, OneLine condition.text

theorem OneLineEach.empty : empty.OneLineEach := by
  intro condition hmem
  cases hmem

theorem OneLineEach.extend (h : chain.OneLineEach) {addition : Addition}
    (htable : ∀ table ∈ addition.table, OneLine table)
    (hcondition : OneLine addition.condition.text) : (addition.extend chain).OneLineEach := by
  intro condition hmem
  rw [addition.conditions_extend, List.mem_append] at hmem
  rcases hmem with hmem | hmem
  · exact h condition hmem
  · rcases Addition.eq_or_eq_join_of_mem_toAdd hmem with rfl | ⟨table, hjoined, rfl⟩
    · exact hcondition
    · exact Condition.oneLine_join.mpr (htable table hjoined)

theorem oneLine_line {index : Nat} {condition : Condition} :
    OneLine (line index condition) ↔ OneLine condition.text := by
  simp [line]

theorem ne_nil_of_mem_lines {part : Text}
    (h : part ∈ chain.conditions.zipIdx.map fun entry => line entry.2 entry.1) : part ≠ [] := by
  rcases List.mem_map.mp h with ⟨entry, -, rfl⟩
  simp [line]

theorem text_eq_nil_iff : chain.text = [] ↔ chain.conditions = [] := by
  rw [text, joinWith_eq_nil_iff fun part => ne_nil_of_mem_lines, List.map_eq_nil_iff,
    List.zipIdx_eq_nil_iff]

namespace OneLineEach

theorem lines_text (h : chain.OneLineEach) :
    lines chain.text = chain.conditions.zipIdx.map fun entry => line entry.2 entry.1 := by
  apply lines_joinWith fun part => ne_nil_of_mem_lines
  intro part hpart
  rcases List.mem_map.mp hpart with ⟨entry, hentry, rfl⟩
  exact oneLine_line.mpr (h entry.1 (List.fst_mem_of_mem_zipIdx hentry))

/-- A pattern that imitates a second line does not make one. -/
example : lines (Chain.text ⟨[.like ⟨"jobs", "name"⟩ "a\n[1]"]⟩) =
    [("[0] jobs.name LIKE \"a\\n[1]\"" : Text)] := by
  decide +kernel

theorem length_lines (h : chain.OneLineEach) : (lines chain.text).length = chain.size := by
  rw [h.lines_text, List.length_map, List.length_zipIdx, size]

theorem getElem?_lines (h : chain.OneLineEach) (index : Nat) :
    (lines chain.text)[index]? = chain.conditions[index]?.map (line index) := by
  rw [h.lines_text, List.getElem?_map, List.getElem?_zipIdx, Option.map_map, Nat.zero_add]
  rfl

end OneLineEach

end Chain

end SearchQuery
