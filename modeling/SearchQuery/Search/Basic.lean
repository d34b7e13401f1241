import SearchQuery.Search.Rule

/-!
# Searches

A search is a rulebook with a name, and with a fallback for the tokens that no
rule claims.  Such a token is an error of the search when there is no fallback.
-/

namespace SearchQuery

universe u

inductive SearchError where
  | noFallback (search : Text)
  deriving DecidableEq, Repr

def SearchError.message : SearchError → Text
  | noFallback search => "default_parse must be implemented by " ++ search

inductive Event where
  | claimed (rule : Text) (token : Token)
  | fellBack (token : Token)
  deriving DecidableEq, Repr

def Event.text : Event → Text
  | claimed rule token => "parser:" ++ rule ++ " token=" ++ token.raw
  | fellBack token => "default_parse token=" ++ token.raw

structure Verdict (Scope : Type u) where
  events : List Event
  outcome : Except SearchError Scope

structure Search (Scope : Type u) where
  name : Text
  rulebook : Rulebook Scope
  fallback : Option (Token → Scope → Scope)
  reporting : Bool

namespace Search

variable {Scope : Type u}

def report (search : Search Scope) (event : Event) : List Event :=
  if search.reporting then [event] else []

def offer? (search : Search Scope) (token : Token) (scope : Scope) :
    Option (Verdict Scope) :=
  (search.rulebook.claim? token scope).map fun claim =>
    { events := search.report (.claimed claim.1.name token)
      outcome := .ok claim.2 }

/-- What the fallback makes of the token.  That the token fell to it is told also
when there is no fallback. -/
def fallBack (search : Search Scope) (token : Token) (scope : Scope) :
    Verdict Scope :=
  { events := search.report (.fellBack token)
    outcome :=
      match search.fallback with
      | some fallback => .ok (fallback token scope)
      | none => .error (.noFallback search.name) }

def settle (search : Search Scope) (token : Token) (scope : Scope) :
    Verdict Scope :=
  match search.offer? token scope with
  | some verdict => verdict
  | none => search.fallBack token scope

def inspect (search : Search Scope) : Text :=
  Text.record "Search"
    [Text.field "name" (Text.quoted search.name),
      Text.field "parsers" search.rulebook.inspect,
      Text.field "default_parse" (Text.ofBool search.fallback.isSome),
      ".."]

end Search

end SearchQuery
