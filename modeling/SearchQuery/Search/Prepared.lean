import SearchQuery.Search.Compile

/-!
# Prepared queries

A query bound to a search and to the scope it starts from.  It is compiled when
its results are asked for.  A success is kept and not compiled again; an error
is found again each time.
-/

namespace SearchQuery

universe u

structure Prepared (Scope : Type u) where
  search : Search Scope
  query : Text
  scope : Scope
  kept : Option Scope

variable {Scope : Type u}

/-- Binds a query to the search.  A missing query is the empty one. -/
def Search.prepare (search : Search Scope) (query : Option Text) (scope : Scope) :
    Prepared Scope :=
  { search := search, query := query.getD [], scope := scope, kept := none }

namespace Prepared

def keep (prepared : Prepared Scope) (verdict : Verdict Scope) : Prepared Scope :=
  match verdict.outcome with
  | .ok scope => { prepared with kept := some scope }
  | .error _ => prepared

def results (prepared : Prepared Scope) : Verdict Scope × Prepared Scope :=
  match prepared.kept with
  | some scope => ({ events := [], outcome := .ok scope }, prepared)
  | none =>
      let verdict := prepared.search.compile prepared.query prepared.scope
      (verdict, prepared.keep verdict)

end Prepared

end SearchQuery
