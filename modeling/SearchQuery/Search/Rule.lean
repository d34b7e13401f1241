import SearchQuery.Token.Basic

/-!
# Rules

A rule claims some tokens and declines the others.  Claiming a token turns the
scope, which is whatever a search has narrowed down so far, into the scope that
the token leaves.  A rulebook asks its rules in the order in which they came,
and the first claim counts.
-/

namespace SearchQuery

universe u

structure Rule (Scope : Type u) where
  name : Text
  /-- The scope that a claimed token leaves, and nothing for a token declined. -/
  claim? : Token → Scope → Option Scope

inductive RegistrationError where
  | missing
  | ambiguous
  deriving DecidableEq, Repr

def RegistrationError.message : RegistrationError → Text
  | missing => "parser must be registered with a callable or a block"
  | ambiguous => "parser must be registered with a callable or a block, not both"

structure Rulebook (Scope : Type u) where
  rules : List (Rule Scope)

namespace Rulebook

variable {Scope : Type u}

def empty : Rulebook Scope :=
  { rules := [] }

def size (book : Rulebook Scope) : Nat :=
  book.rules.length

def isEmpty (book : Rulebook Scope) : Bool :=
  book.rules.isEmpty

def add (book : Rulebook Scope) (rule : Rule Scope) : Rulebook Scope :=
  { rules := book.rules ++ [rule] }

/-- Adds the rule that is given, where a rule may be given in either of two
places and must be given in one.  The answer comes with the book as it is then. -/
def tryAdd (book : Rulebook Scope) (first second : Option (Rule Scope)) :
    Except RegistrationError Unit × Rulebook Scope :=
  match first, second with
  | some rule, none => (.ok (), book.add rule)
  | none, some rule => (.ok (), book.add rule)
  | none, none => (.error .missing, book)
  | some _, some _ => (.error .ambiguous, book)

/-- The same for a book that is still being made, which an error gives up. -/
def register (book : Rulebook Scope) (first second : Option (Rule Scope)) :
    Except RegistrationError (Rulebook Scope) :=
  match book.tryAdd first second with
  | (.ok (), longer) => .ok longer
  | (.error error, _) => .error error

def claim? (book : Rulebook Scope) (token : Token) (scope : Scope) :
    Option (Rule Scope × Scope) :=
  book.rules.findSome? fun rule =>
    (rule.claim? token scope).map fun next => (rule, next)

def inspect (book : Rulebook Scope) : Text :=
  Text.listing (book.rules.map fun rule => Text.quoted rule.name)

@[simp] theorem rules_empty : (empty : Rulebook Scope).rules = [] := rfl

@[simp] theorem rules_add (book : Rulebook Scope) (rule : Rule Scope) :
    (book.add rule).rules = book.rules ++ [rule] := rfl

end Rulebook

end SearchQuery
