import Mathlib.Data.List.Basic
import SearchQuery.Json

/-!
# Reading documents

The order in which an object lists its members is of no account, so a document is
one of several that say the same.  A reader gives back what was written if it finds
a value in just those documents that say the same as the one written for the value.
Readers of lists and of objects are put together from readers of their parts, and
give back what was written if the parts do.
-/

namespace SearchQuery

namespace Json

abbrev Member := Text × Json

/-- The same document but for the order in which objects list their members. -/
inductive Alike : Json → Json → Prop where
  | str (value : Text) : Alike (.str value) (.str value)
  | noItems : Alike (.arr []) (.arr [])
  | item {first second : Json} {firsts seconds : List Json} (hitem : Alike first second)
      (hitems : Alike (.arr firsts) (.arr seconds)) :
      Alike (.arr (first :: firsts)) (.arr (second :: seconds))
  | noMembers : Alike (.obj []) (.obj [])
  | member {name : Text} {value other : Json} {members : List Member} (front back : List Member)
      (hvalue : Alike value other) (hmembers : Alike (.obj members) (.obj (front ++ back))) :
      Alike (.obj ((name, value) :: members)) (.obj (front ++ (name, other) :: back))

mutual

theorem Alike.refl : ∀ document : Json, document.Alike document
  | .str value => .str value
  | .arr items => Alike.refl_arr items
  | .obj members => Alike.refl_obj members

theorem Alike.refl_arr : ∀ items : List Json, (Json.arr items).Alike (.arr items)
  | [] => .noItems
  | first :: items => .item (Alike.refl first) (Alike.refl_arr items)

theorem Alike.refl_obj : ∀ members : List Member, (Json.obj members).Alike (.obj members)
  | [] => .noMembers
  | (_, value) :: members =>
      .member [] members (Alike.refl value) (Alike.refl_obj members)

end

theorem Alike.exists_members {members : List Member} {document : Json}
    (h : (obj members).Alike document) : ∃ others, document = obj others := by
  cases h with
  | noMembers =>
      exact ⟨_, rfl⟩
  | member front back hvalue hmembers =>
      exact ⟨_, rfl⟩

theorem Alike.exists_items {items : List Json} {document : Json}
    (h : (arr items).Alike document) : ∃ others, document = arr others := by
  cases h with
  | noItems =>
      exact ⟨_, rfl⟩
  | item hitem hitems =>
      exact ⟨_, rfl⟩

theorem Alike.names_perm {members others : List Member} (h : (obj members).Alike (.obj others)) :
    (members.map Prod.fst).Perm (others.map Prod.fst) := by
  induction members generalizing others with
  | nil =>
      cases h with
      | noMembers =>
          exact List.Perm.refl _
  | cons member members ih =>
      cases h with
      | member front back hvalue hmembers =>
          have hrest := ih hmembers
          rw [List.map_append] at hrest
          rw [List.map_append, List.map_cons, List.map_cons]
          exact (hrest.cons _).trans List.perm_middle.symm

/-!
## One member
-/

def take? (name : Text) (members : List Member) : Option (Json × List Member) :=
  (members.lookup name).map fun value =>
    (value, members.eraseP fun member => member.1 = name)

theorem take?_eq_some_iff {name : Text} {members others : List Member} {value : Json} :
    take? name members = some (value, others) ↔
      ∃ front back, members = front ++ (name, value) :: back ∧ others = front ++ back ∧
        name ∉ front.map Prod.fst := by
  have herase : ∀ {front : List Member} (value : Json) (back : List Member),
      name ∉ front.map Prod.fst →
        (front ++ (name, value) :: back).eraseP (fun member => member.1 = name) = front ++ back := by
    intro front value back hfront
    rw [List.eraseP_append_right, List.eraseP_cons_of_pos (by simp)]
    intro member hmember hname
    exact hfront (List.mem_map.mpr ⟨member, hmember, of_decide_eq_true hname⟩)
  have hlookup : ∀ {front : List Member},
      (∀ member ∈ front, (name != member.1) = true) ↔ name ∉ front.map Prod.fst := by
    intro front
    simp only [bne_iff_ne, List.mem_map, not_exists, not_and]
    exact ⟨fun h member hmember heq => h member hmember heq.symm,
      fun h member hmember heq => h member hmember heq.symm⟩
  constructor
  · intro h
    rcases Option.map_eq_some_iff.mp h with ⟨found, hfound, heq⟩
    rcases List.lookup_eq_some_iff.mp hfound with ⟨front, back, rfl, hfront⟩
    cases heq
    exact ⟨front, back, rfl, herase value back (hlookup.mp hfront), hlookup.mp hfront⟩
  · intro h
    rcases h with ⟨front, back, rfl, rfl, hfront⟩
    have hfound : (front ++ (name, value) :: back).lookup name = some value :=
      List.lookup_eq_some_iff.mpr ⟨front, back, rfl, hlookup.mpr hfront⟩
    rw [take?, hfound, Option.map_some, herase value back hfront]

theorem alike_cons_iff {name : Text} {value : Json} {members others : List Member}
    (hname : name ∉ members.map Prod.fst) :
    (obj ((name, value) :: members)).Alike (.obj others) ↔
      ∃ found left, take? name others = some (found, left) ∧ value.Alike found ∧
        (obj members).Alike (.obj left) := by
  constructor
  · intro h
    cases h with
    | member front back hvalue hmembers =>
        rename_i found
        refine ⟨found, front ++ back, ?_, hvalue, hmembers⟩
        have hleft : name ∉ (front ++ back).map Prod.fst := fun hmem =>
          hname (hmembers.names_perm.mem_iff.mpr hmem)
        rw [List.map_append, List.mem_append, not_or] at hleft
        exact take?_eq_some_iff.mpr ⟨front, back, rfl, rfl, hleft.1⟩
  · intro h
    rcases h with ⟨found, left, htake, hvalue, hmembers⟩
    rcases take?_eq_some_iff.mp htake with ⟨front, back, rfl, rfl, -⟩
    exact .member front back hvalue hmembers

theorem alike_singleton_iff {name : Text} {value : Json} {others : List Member} :
    (obj [(name, value)]).Alike (.obj others) ↔
      ∃ found, others = [(name, found)] ∧ value.Alike found := by
  constructor
  · intro h
    cases h with
    | member front back hvalue hmembers =>
        rename_i found
        have hnone := hmembers.names_perm.nil_eq
        rw [eq_comm, List.map_eq_nil_iff, List.append_eq_nil_iff] at hnone
        rcases hnone with ⟨rfl, rfl⟩
        exact ⟨found, rfl, hvalue⟩
  · intro h
    rcases h with ⟨found, rfl, hvalue⟩
    exact .member [] [] hvalue .noMembers

/-!
## Readers
-/

section

variable {α β : Type}

/-- The reader finds a value in the documents that say the same as the one written for the
value, and in no others. -/
def ReadsBack (read? : Json → Option α) (write : α → Json) : Prop :=
  ∀ document value, read? document = some value ↔ (write value).Alike document

def MembersReadBack (read? : List Member → Option α) (write : α → List Member) : Prop :=
  ∀ members value, read? members = some value ↔ (obj (write value)).Alike (.obj members)

def string? (ofText? : Text → Option α) : Json → Option α
  | .str t => ofText? t
  | _ => none

def list? (read? : Json → Option α) : Json → Option (List α)
  | .arr items => items.mapM read?
  | _ => none

def object? (read? : List Member → Option α) : Json → Option α
  | .obj members => read? members
  | _ => none

def only? (name : Text) (read? : Json → Option α) : List Member → Option α
  | [(found, value)] => if found = name then read? value else none
  | _ => none

def member? (name : Text) (read? : Json → Option α) (readOthers? : List Member → Option β)
    (members : List Member) : Option (α × β) :=
  (take? name members).bind fun taken =>
    (read? taken.1).bind fun value =>
      (readOthers? taken.2).map fun others => (value, others)

def optional? (name : Text) (read? : Json → Option α) : List Member → Option (Option α)
  | [] => some none
  | member :: members => (only? name read? (member :: members)).map some

theorem readsBack_string? {ofText? : Text → Option α} {text : α → Text}
    (h : ∀ t value, ofText? t = some value ↔ t = text value) :
    ReadsBack (string? ofText?) fun value => .str (text value) := by
  intro document value
  cases document with
  | str t =>
      rw [string?, h]
      constructor
      · rintro rfl
        exact .str _
      · intro halike
        cases halike
        rfl
  | arr items =>
      exact iff_of_false nofun nofun
  | obj members =>
      exact iff_of_false nofun nofun

theorem ReadsBack.list? {read? : Json → Option α} {write : α → Json} (h : ReadsBack read? write) :
    ReadsBack (list? read?) fun values => .arr (values.map write) := by
  intro document values
  cases document with
  | str t =>
      exact iff_of_false nofun fun halike => nomatch halike.exists_items
  | obj members =>
      exact iff_of_false nofun fun halike => nomatch halike.exists_items
  | arr items =>
      rw [Json.list?]
      induction items generalizing values with
      | nil =>
          cases values with
          | nil =>
              exact iff_of_true rfl .noItems
          | cons value values =>
              exact iff_of_false nofun nofun
      | cons item items ih =>
          rw [List.mapM_cons]
          cases values with
          | nil =>
              refine iff_of_false ?_ nofun
              simp [Option.bind_eq_some_iff]
          | cons value values =>
              simp only [Option.bind_eq_bind, Option.bind_eq_some_iff, Option.pure_def,
                Option.some.injEq, List.cons.injEq, List.map_cons, h item, ih]
              constructor
              · rintro ⟨value, hvalue, values, hvalues, rfl, rfl⟩
                exact .item hvalue hvalues
              · intro halike
                cases halike with
                | item hvalue hvalues =>
                    exact ⟨value, hvalue, values, hvalues, rfl, rfl⟩

theorem MembersReadBack.object? {read? : List Member → Option α} {write : α → List Member}
    (h : MembersReadBack read? write) :
    ReadsBack (object? read?) fun value => .obj (write value) := by
  intro document value
  cases document with
  | obj members =>
      exact h members value
  | str t =>
      exact iff_of_false nofun fun halike => nomatch halike.exists_members
  | arr items =>
      exact iff_of_false nofun fun halike => nomatch halike.exists_members

theorem ReadsBack.only? {read? : Json → Option α} {write : α → Json} (h : ReadsBack read? write)
    (name : Text) : MembersReadBack (only? name read?) fun value => [(name, write value)] := by
  intro members value
  rw [alike_singleton_iff]
  constructor
  · intro hread
    unfold Json.only? at hread
    split at hread
    · next found document =>
        split at hread
        · next hname =>
            exact ⟨document, by rw [hname], (h document value).mp hread⟩
        · cases hread
    · cases hread
  · rintro ⟨document, rfl, halike⟩
    rw [Json.only?, if_pos rfl]
    exact (h document value).mpr halike

theorem ReadsBack.member? {read? : Json → Option α} {write : α → Json} (h : ReadsBack read? write)
    (name : Text) {readOthers? : List Member → Option β} {writeOthers : β → List Member}
    (hothers : MembersReadBack readOthers? writeOthers)
    (hname : ∀ others, name ∉ (writeOthers others).map Prod.fst) :
    MembersReadBack (member? name read? readOthers?) fun value =>
      (name, write value.1) :: writeOthers value.2 := by
  intro members value
  rw [alike_cons_iff (hname value.2)]
  constructor
  · intro hread
    rcases Option.bind_eq_some_iff.mp hread with ⟨⟨found, left⟩, htake, hread⟩
    rcases Option.bind_eq_some_iff.mp hread with ⟨first, hfirst, hread⟩
    rcases Option.map_eq_some_iff.mp hread with ⟨others, hleft, rfl⟩
    exact ⟨found, left, htake, (h _ _).mp hfirst, (hothers _ _).mp hleft⟩
  · rintro ⟨found, left, htake, hvalue, hmembers⟩
    simp only [Json.member?, htake, Option.bind_some, (h _ _).mpr hvalue,
      (hothers _ _).mpr hmembers, Option.map_some]

theorem ReadsBack.optional? {read? : Json → Option α} {write : α → Json}
    (h : ReadsBack read? write) (name : Text) :
    MembersReadBack (optional? name read?) fun value =>
      value.toList.map fun value => (name, write value) := by
  intro members value
  cases members with
  | nil =>
      cases value with
      | none =>
          exact iff_of_true rfl .noMembers
      | some value =>
          refine iff_of_false nofun ?_
          intro halike
          have hperm := halike.names_perm
          simp at hperm
  | cons member members =>
      rw [Json.optional?, Option.map_eq_some_iff]
      cases value with
      | none =>
          exact iff_of_false (by simp) nofun
      | some value =>
          simp only [Option.some.injEq, exists_eq_right]
          exact h.only? name (member :: members) value

theorem MembersReadBack.map {read? : List Member → Option α} {write : α → List Member}
    (h : MembersReadBack read? write) {f : α → β} {writeAs : β → List Member}
    (hwrite : ∀ value, writeAs (f value) = write value) (honto : ∀ other, ∃ value, f value = other) :
    MembersReadBack (fun members => (read? members).map f) writeAs := by
  intro members other
  rw [Option.map_eq_some_iff]
  constructor
  · rintro ⟨value, hread, rfl⟩
    rw [hwrite]
    exact (h members value).mp hread
  · intro halike
    rcases honto other with ⟨value, rfl⟩
    rw [hwrite] at halike
    exact ⟨value, (h members value).mpr halike, rfl⟩

end

end Json

end SearchQuery
