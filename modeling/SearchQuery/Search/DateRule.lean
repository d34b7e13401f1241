import SearchQuery.Calendar.Expression
import SearchQuery.Filter.Literal
import SearchQuery.Filter.Chain
import SearchQuery.Search.Rule

/-!
# Date rules

A date rule claims the tokens that are date expressions, and asks the period
they mean of one column.  With a label, it claims only what stands behind that
label; without one, only what stands behind none.
-/

namespace SearchQuery

universe u

class DateScope (Scope : Type u) where
  restrict : Scope → DateCondition → Scope

instance : DateScope Chain where
  restrict chain condition := chain.add (.date condition)

structure DateRule (Scope : Type u) where
  field : Column
  /-- What has to stand, with a colon, before the expression. -/
  label : Option Text := none
  /-- The day from which years left out are inferred, if it is not today. -/
  reference : Option Date := none
  prepare : Option (Scope → Scope) := none
  quoting : Option Quoting := none

namespace DateRule

variable {Scope : Type u}

def expression? (rule : DateRule Scope) (raw : Text) : Option Text :=
  match rule.label with
  | none => some raw
  | some label => (Text.after? (label ++ [':']) raw).map Text.trimStart

def period? (rule : DateRule Scope) (today : Date) (token : Token) : Option Period :=
  (rule.expression? token.raw).bind fun t =>
    (DateExpression.ofText? t).bind fun expression =>
      expression.resolve? (rule.reference.getD today)

def condition (rule : DateRule Scope) (period : Period) : DateCondition :=
  { field := rule.field
    period := period
    literal := rule.quoting.map fun quoting => period.literal rule.field quoting }

def prepared (rule : DateRule Scope) (scope : Scope) : Scope :=
  match rule.prepare with
  | none => scope
  | some prepare => prepare scope

def claim? [DateScope Scope] (rule : DateRule Scope) (today : Date) (token : Token)
    (scope : Scope) : Option Scope :=
  (rule.period? today token).map fun period =>
    DateScope.restrict (rule.prepared scope) (rule.condition period)

def labelText (rule : DateRule Scope) : Text :=
  Text.optional (rule.label.map Text.quoted)

def name (rule : DateRule Scope) : Text :=
  Text.record "DateParser"
    [Text.field "modifier" rule.labelText, Text.field "field" rule.field.inspect]

def inspect (rule : DateRule Scope) : Text :=
  Text.record "DateParser"
    [Text.field "field" rule.field.inspect,
      Text.field "modifier" rule.labelText,
      Text.field "reference" (Text.optional (rule.reference.map Date.text)),
      Text.field "decorated" (Text.ofBool rule.prepare.isSome),
      Text.field "literal" (Text.ofBool rule.quoting.isSome)]

def toRule [DateScope Scope] (rule : DateRule Scope) (today : Date) : Rule Scope :=
  { name := rule.name, claim? := rule.claim? today }

end DateRule

end SearchQuery
