import SearchQuery.Text.Record
import SearchQuery.Token.Label

/-!
# Tokens

A token is one unit of a query: a term, or a term behind a label.  It is known
by its text alone.  What its label and its term are is read off that text, also
when the text was cut out of no query.
-/

namespace SearchQuery

structure Token where
  raw : Text
  deriving DecidableEq, Repr

namespace Token

/-- The label at the start of the text, with the text behind it.  A label with
nothing behind it belongs to the term. -/
def split? (token : Token) : Option (Label × Text) :=
  (Label.read? token.raw).filter fun parts => !parts.2.isEmpty

def label? (token : Token) : Option Text :=
  token.split?.map fun parts => parts.1.name

def isLabelled (token : Token) : Bool :=
  token.label?.isSome

def body (token : Token) : Text :=
  match token.split? with
  | some parts => parts.2
  | none => token.raw

def dropQuote : Text → Text
  | '"' :: t => t
  | t => t

/-- The text without one double quote at either end.  A single character is left
as it is. -/
def unquote (t : Text) : Text :=
  if t.length < 2 then t else (dropQuote (dropQuote t).reverse).reverse

def term (token : Token) : Text :=
  unquote token.body

def inspect (token : Token) : Text :=
  Text.record "Token"
    [Text.field "raw" (Text.quoted token.raw),
      Text.field "modifier" (Text.optional (token.label?.map Text.quoted)),
      Text.field "term" (Text.quoted token.term)]

end Token

end SearchQuery
