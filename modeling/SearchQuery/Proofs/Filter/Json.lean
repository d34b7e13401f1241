import SearchQuery.Filter.Chain
import SearchQuery.Proofs.Calendar.Iso
import SearchQuery.Proofs.Json

/-!
# Reading a chain from its document

The document of a chain tells the whole chain.  Every condition tells its kind, the
members that its kind has tell the rest, and a date is told by its notation.  So a
chain can be read back, whatever the order in which the objects list their members,
and what is read as a chain is a document of that chain.
-/

namespace SearchQuery

open Json

/-!
## Parts of conditions
-/

def Json.text? : Json → Option Text :=
  string? some

theorem Json.readsBack_text? : ReadsBack text? Json.str :=
  readsBack_string? fun _ _ => Option.some_inj

def Date.ofJson? : Json → Option Date :=
  string? Date.ofText?

theorem Date.readsBack : ReadsBack ofJson? Date.json :=
  readsBack_string? fun _ _ => ofText?_eq_some_iff

namespace Comparator

def ofJson? : Json → Option Comparator :=
  string? ofSymbol?

theorem ofSymbol?_eq_some_iff {t : Text} {comparator : Comparator} :
    ofSymbol? t = some comparator ↔ t = comparator.symbol := by
  constructor
  · intro h
    have hsymbol := List.find?_some h
    exact (of_decide_eq_true hsymbol).symm
  · rintro rfl
    exact ofSymbol?_symbol comparator

theorem readsBack : ReadsBack ofJson? fun comparator => .str comparator.symbol :=
  readsBack_string? fun _ _ => ofSymbol?_eq_some_iff

end Comparator

namespace Column

def ofMembers? (members : List Member) : Option Column :=
  (member? "table" text? (only? "name" text?) members).map fun parts => ⟨parts.1, parts.2⟩

def ofJson? : Json → Option Column :=
  object? ofMembers?

theorem readsBack : ReadsBack ofJson? Column.json := by
  have hparts := readsBack_text?.member? "table" (readsBack_text?.only? "name") (by simp)
  have hmembers : MembersReadBack ofMembers? fun column =>
      [("table", .str column.table), ("name", .str column.name)] :=
    hparts.map (fun _ => rfl) fun column => ⟨(column.table, column.name), rfl⟩
  exact hmembers.object?

end Column

namespace Period

def shape : Period → Text
  | on _ => "on"
  | within _ _ => "within"
  | onOrBefore _ => "on_or_before"
  | onOrAfter _ => "on_or_after"

def content : Period → Json
  | on date => date.json
  | within first last => .obj [("start", first.json), ("end", last.json)]
  | onOrBefore date => date.json
  | onOrAfter date => date.json

theorem json_eq (period : Period) : period.json = .obj [(period.shape, period.content)] := by
  cases period <;> rfl

def ends? : Json → Option (Date × Date) :=
  object? (member? "start" Date.ofJson? (only? "end" Date.ofJson?))

def ofShape? (shape : Text) (content : Json) : Option Period :=
  if shape = "on" then (Date.ofJson? content).map on
  else if shape = "within" then (ends? content).map fun ends => within ends.1 ends.2
  else if shape = "on_or_before" then (Date.ofJson? content).map onOrBefore
  else if shape = "on_or_after" then (Date.ofJson? content).map onOrAfter
  else none

def ofJson? : Json → Option Period
  | .obj [(shape, content)] => ofShape? shape content
  | _ => none

theorem readsBack_ends? : ReadsBack ends? fun ends =>
    .obj [("start", ends.1.json), ("end", ends.2.json)] :=
  (Date.readsBack.member? "start" (Date.readsBack.only? "end") (by simp)).object?

theorem ofShape?_eq_some_iff {shape : Text} {content : Json} {period : Period} :
    ofShape? shape content = some period ↔
      shape = period.shape ∧ period.content.Alike content := by
  constructor
  · intro h
    simp only [ofShape?, ite_eq_iff, Option.map_eq_some_iff] at h
    rcases h with ⟨rfl, date, hdate, rfl⟩ | ⟨-, h⟩
    · exact ⟨rfl, (Date.readsBack _ _).mp hdate⟩
    rcases h with ⟨rfl, ends, hends, rfl⟩ | ⟨-, h⟩
    · exact ⟨rfl, (readsBack_ends? _ _).mp hends⟩
    rcases h with ⟨rfl, date, hdate, rfl⟩ | ⟨-, h⟩
    · exact ⟨rfl, (Date.readsBack _ _).mp hdate⟩
    rcases h with ⟨rfl, date, hdate, rfl⟩ | ⟨-, h⟩
    · exact ⟨rfl, (Date.readsBack _ _).mp hdate⟩
    · cases h
  · rintro ⟨rfl, h⟩
    cases period with
    | on date =>
        exact Option.map_eq_some_iff.mpr ⟨date, (Date.readsBack _ _).mpr h, rfl⟩
    | within first last =>
        exact Option.map_eq_some_iff.mpr ⟨(first, last), (readsBack_ends? _ _).mpr h, rfl⟩
    | onOrBefore date =>
        exact Option.map_eq_some_iff.mpr ⟨date, (Date.readsBack _ _).mpr h, rfl⟩
    | onOrAfter date =>
        exact Option.map_eq_some_iff.mpr ⟨date, (Date.readsBack _ _).mpr h, rfl⟩

theorem readsBack : ReadsBack ofJson? Period.json := by
  intro document period
  rw [json_eq]
  constructor
  · intro h
    unfold ofJson? at h
    split at h
    · next shape content =>
        rcases ofShape?_eq_some_iff.mp h with ⟨rfl, hcontent⟩
        exact alike_singleton_iff.mpr ⟨content, rfl, hcontent⟩
    · cases h
  · intro h
    rcases h.exists_members with ⟨members, rfl⟩
    rcases alike_singleton_iff.mp h with ⟨content, rfl, hcontent⟩
    exact ofShape?_eq_some_iff.mpr ⟨rfl, hcontent⟩

end Period

namespace Literal

def ofMembers? (members : List Member) : Option Literal :=
  (member? "sql" text? (only? "binds" (list? Date.ofJson?)) members).map fun parts =>
    ⟨parts.1, parts.2⟩

def ofJson? : Json → Option Literal :=
  object? ofMembers?

theorem readsBack : ReadsBack ofJson? Literal.json := by
  have hparts := readsBack_text?.member? "sql" (Date.readsBack.list?.only? "binds") (by simp)
  have hmembers : MembersReadBack ofMembers? fun literal =>
      [("sql", .str literal.sql), ("binds", .arr (literal.binds.map Date.json))] :=
    hparts.map (fun _ => rfl) fun literal => ⟨(literal.sql, literal.binds), rfl⟩
  exact hmembers.object?

end Literal

namespace DateCondition

def ofMembers? (members : List Member) : Option DateCondition :=
  (member? "field" Column.ofJson?
    (member? "comparison" Period.ofJson? (optional? "literal" Literal.ofJson?)) members).map
      fun parts => ⟨parts.1, parts.2.1, parts.2.2⟩

theorem membersReadBack : MembersReadBack ofMembers? DateCondition.members := by
  have hliteral := Literal.readsBack.optional? "literal"
  have hcomparison := Period.readsBack.member? "comparison" hliteral (by
    intro literal
    cases literal <;> simp)
  have hparts := Column.readsBack.member? "field" hcomparison (by
    rintro ⟨period, literal⟩
    cases literal <;> simp)
  refine hparts.map ?_ fun condition =>
    ⟨(condition.field, condition.period, condition.literal), rfl⟩
  rintro ⟨field, period, literal⟩
  cases literal <;> rfl

end DateCondition

/-!
## Conditions and chains
-/

namespace Condition

def kind : Condition → Text
  | date _ => "date"
  | equals _ _ => "eq"
  | compares _ _ _ => "compare"
  | like _ _ => "matches"
  | join _ => "join"

def content : Condition → List Member
  | date condition => condition.members
  | equals column value => [("column", column.json), ("value", .str value)]
  | compares column comparator value =>
      [("column", column.json), ("op", .str comparator.symbol), ("value", .str value)]
  | like column pattern => [("column", column.json), ("pattern", .str pattern)]
  | join table => [("table", .str table)]

theorem json_eq (condition : Condition) :
    condition.json = .obj (("kind", .str condition.kind) :: condition.content) := by
  cases condition <;> rfl

theorem kind_not_mem_content (condition : Condition) :
    ("kind" : Text) ∉ condition.content.map Prod.fst := by
  cases condition with
  | date condition =>
      rcases condition with ⟨field, period, literal⟩
      cases literal <;> simp [content, DateCondition.members]
  | _ =>
      simp [content]

def onColumn? (name : Text) : List Member → Option (Column × Text) :=
  member? "column" Column.ofJson? (only? name text?)

def comparison? : List Member → Option (Column × Comparator × Text) :=
  member? "column" Column.ofJson? (member? "op" Comparator.ofJson? (only? "value" text?))

def ofKind? (kind : Text) (members : List Member) : Option Condition :=
  if kind = "date" then (DateCondition.ofMembers? members).map date
  else if kind = "eq" then
    (onColumn? "value" members).map fun parts => equals parts.1 parts.2
  else if kind = "compare" then
    (comparison? members).map fun parts => compares parts.1 parts.2.1 parts.2.2
  else if kind = "matches" then
    (onColumn? "pattern" members).map fun parts => like parts.1 parts.2
  else if kind = "join" then (only? "table" text? members).map join
  else none

def ofMembers? (members : List Member) : Option Condition :=
  (take? "kind" members).bind fun taken =>
    (text? taken.1).bind fun kind => ofKind? kind taken.2

def ofJson? : Json → Option Condition :=
  object? ofMembers?

theorem membersReadBack_onColumn? {name : Text} (hname : ("column" : Text) ≠ name) :
    MembersReadBack (onColumn? name) fun parts =>
      [("column", parts.1.json), (name, .str parts.2)] :=
  Column.readsBack.member? "column" (readsBack_text?.only? name) (by simpa using hname)

theorem membersReadBack_comparison? :
    MembersReadBack comparison? fun parts =>
      [("column", parts.1.json), ("op", .str parts.2.1.symbol), ("value", .str parts.2.2)] :=
  Column.readsBack.member? "column"
    (Comparator.readsBack.member? "op" (readsBack_text?.only? "value") (by simp)) (by simp)

theorem ofKind?_eq_some_iff {kind : Text} {members : List Member} {condition : Condition} :
    ofKind? kind members = some condition ↔
      kind = condition.kind ∧ (obj condition.content).Alike (.obj members) := by
  have hvalue := membersReadBack_onColumn? (by decide : ("column" : Text) ≠ "value")
  have hpattern := membersReadBack_onColumn? (by decide : ("column" : Text) ≠ "pattern")
  have htable := readsBack_text?.only? "table"
  constructor
  · intro h
    simp only [ofKind?, ite_eq_iff, Option.map_eq_some_iff] at h
    rcases h with ⟨rfl, condition, hcondition, rfl⟩ | ⟨-, h⟩
    · exact ⟨rfl, (DateCondition.membersReadBack _ _).mp hcondition⟩
    rcases h with ⟨rfl, parts, hparts, rfl⟩ | ⟨-, h⟩
    · exact ⟨rfl, (hvalue _ _).mp hparts⟩
    rcases h with ⟨rfl, parts, hparts, rfl⟩ | ⟨-, h⟩
    · exact ⟨rfl, (membersReadBack_comparison? _ _).mp hparts⟩
    rcases h with ⟨rfl, parts, hparts, rfl⟩ | ⟨-, h⟩
    · exact ⟨rfl, (hpattern _ _).mp hparts⟩
    rcases h with ⟨rfl, table, hread, rfl⟩ | ⟨-, h⟩
    · exact ⟨rfl, (htable _ _).mp hread⟩
    · cases h
  · rintro ⟨rfl, h⟩
    cases condition with
    | date condition =>
        exact Option.map_eq_some_iff.mpr
          ⟨condition, (DateCondition.membersReadBack _ _).mpr h, rfl⟩
    | equals column value =>
        exact Option.map_eq_some_iff.mpr ⟨(column, value), (hvalue _ _).mpr h, rfl⟩
    | compares column comparator value =>
        exact Option.map_eq_some_iff.mpr
          ⟨(column, comparator, value), (membersReadBack_comparison? _ _).mpr h, rfl⟩
    | like column pattern =>
        exact Option.map_eq_some_iff.mpr ⟨(column, pattern), (hpattern _ _).mpr h, rfl⟩
    | join table =>
        exact Option.map_eq_some_iff.mpr ⟨table, (htable _ _).mpr h, rfl⟩

theorem membersReadBack :
    MembersReadBack ofMembers? fun condition =>
      ("kind", .str condition.kind) :: condition.content := by
  intro members condition
  rw [alike_cons_iff condition.kind_not_mem_content]
  constructor
  · intro h
    rcases Option.bind_eq_some_iff.mp h with ⟨⟨found, left⟩, htake, hread⟩
    rcases Option.bind_eq_some_iff.mp hread with ⟨kind, hkind, hleft⟩
    rcases ofKind?_eq_some_iff.mp hleft with ⟨rfl, hcontent⟩
    exact ⟨found, left, htake, (readsBack_text? _ _).mp hkind, hcontent⟩
  · rintro ⟨found, left, htake, hkind, hcontent⟩
    rw [ofMembers?, htake, Option.bind_some, (readsBack_text? _ _).mpr hkind]
    exact ofKind?_eq_some_iff.mpr ⟨rfl, hcontent⟩

theorem readsBack : ReadsBack ofJson? Condition.json := by
  have hobject := membersReadBack.object?
  intro document condition
  rw [json_eq]
  exact hobject document condition

end Condition

namespace Chain

def ofMembers? (members : List Member) : Option Chain :=
  (only? "conditions" (list? Condition.ofJson?) members).map fun conditions => ⟨conditions⟩

def ofJson? : Json → Option Chain :=
  object? ofMembers?

theorem readsBack : ReadsBack ofJson? Chain.json := by
  have hmembers : MembersReadBack ofMembers? Chain.members :=
    (Condition.readsBack.list?.only? "conditions").map (fun _ => rfl)
      fun chain => ⟨chain.conditions, rfl⟩
  exact hmembers.object?

/-- The document of a chain tells the whole chain: it can be read back from the document, and
from every document that says the same, and from no other.  Two chains that are told by the
same document, or by documents that say the same, are the same chain. -/
theorem json_lossless (chain : Chain) :
    ofJson? chain.json = some chain ∧
      (∀ document, ofJson? document = some chain ↔ chain.json.Alike document) ∧
      ∀ other : Chain, (chain.json = other.json ↔ chain = other) ∧
        (chain.json.Alike other.json ↔ chain = other) := by
  have hread : ∀ chain : Chain, ofJson? chain.json = some chain := fun chain =>
    (readsBack chain.json chain).mpr (Alike.refl chain.json)
  have halike : ∀ other : Chain, chain.json.Alike other.json → chain = other := by
    intro other h
    have hother := (readsBack other.json chain).mpr h
    rw [hread other] at hother
    exact (Option.some.inj hother).symm
  refine ⟨hread chain, fun document => readsBack document chain, ?_⟩
  intro other
  constructor
  · constructor
    · intro h
      exact halike other (h ▸ Alike.refl chain.json)
    · rintro rfl
      rfl
  · constructor
    · exact halike other
    · rintro rfl
      exact Alike.refl chain.json

end Chain

end SearchQuery
