import SearchQuery.Filter.Condition

/-!
# Filter chains

The conditions that a search has gathered, in the order in which they were
added.  Adding a condition gives a new chain.
-/

namespace SearchQuery

structure Chain where
  conditions : List Condition
  deriving DecidableEq

namespace Chain

def empty : Chain :=
  { conditions := [] }

def add (chain : Chain) (condition : Condition) : Chain :=
  { conditions := chain.conditions ++ [condition] }

def size (chain : Chain) : Nat :=
  chain.conditions.length

def isEmpty (chain : Chain) : Bool :=
  chain.conditions.isEmpty

def joins (chain : Chain) (table : Text) : Bool :=
  chain.conditions.any fun condition => condition = Condition.join table

/-- Joins the table, unless the chain has joined it. -/
def join (chain : Chain) (table : Text) : Chain :=
  if chain.joins table then chain else chain.add (Condition.join table)

def line (index : Nat) (condition : Condition) : Text :=
  ['['] ++ Text.ofNat index ++ [']', ' '] ++ condition.text

def text (chain : Chain) : Text :=
  Text.joinWith ['\n'] (chain.conditions.zipIdx.map fun entry => line entry.2 entry.1)

def members (chain : Chain) : List (Text × Json) :=
  [("conditions", .arr (chain.conditions.map Condition.json))]

def json (chain : Chain) : Json :=
  .obj chain.members

@[simp] theorem conditions_add (chain : Chain) (condition : Condition) :
    (chain.add condition).conditions = chain.conditions ++ [condition] := rfl

theorem joins_iff {chain : Chain} {table : Text} :
    chain.joins table = true ↔ Condition.join table ∈ chain.conditions := by
  simp [joins]

end Chain

end SearchQuery
