import Mathlib.Order.Lattice
import Mathlib.Data.List.Pairwise
import Mathlib.Data.List.Sort
import Mathlib.Tactic.Common

/-- The named documents stand in strictly increasing order of their names. -/
structure Documents (Name Data : Type*) [LinearOrder Name] where
  entries : List (Name × Data)
  sorted : entries.Pairwise fun first second => first.1 < second.1

namespace Documents

variable {Name Data : Type*} [LinearOrder Name]

def empty : Documents Name Data := ⟨[], List.Pairwise.nil⟩

/-- The lookup reads the document with the given name. -/
def get? (documents : Documents Name Data) (name : Name) : Option Data :=
  (documents.entries.find? fun entry => entry.1 = name).map Prod.snd

/-- The insertion replaces the document with the same name or opens a place in the order. -/
def insertEntry (name : Name) (data : Data) : List (Name × Data) → List (Name × Data)
  | [] => [(name, data)]
  | entry :: rest =>
      if name < entry.1 then (name, data) :: entry :: rest
      else if name = entry.1 then (name, data) :: rest
      else entry :: insertEntry name data rest

theorem mem_insertEntry {name : Name} {data : Data} {entries : List (Name × Data)}
    (sorted : entries.Pairwise fun first second => first.1 < second.1) (entry : Name × Data) :
    entry ∈ insertEntry name data entries ↔
      entry = (name, data) ∨ (entry ∈ entries ∧ entry.1 ≠ name) := by
  induction entries with
  | nil => simp [insertEntry]
  | cons head rest ih =>
      obtain ⟨below, sorted⟩ := List.pairwise_cons.mp sorted
      unfold insertEntry
      split
      · rename_i before
        have later : ∀ other ∈ head :: rest, other.1 ≠ name := by
          intro other member
          rcases List.mem_cons.mp member with rfl | member
          · exact before.ne'
          · exact (before.trans (below other member)).ne'
        simp only [List.mem_cons]
        constructor
        · rintro (same | old)
          · exact .inl same
          · exact .inr ⟨old, later entry (List.mem_cons.mpr old)⟩
        · rintro (same | ⟨old, _⟩)
          · exact .inl same
          · exact .inr old
      · split
        · rename_i same
          subst same
          simp only [List.mem_cons]
          constructor
          · rintro (equal | old)
            · exact .inl equal
            · exact .inr ⟨.inr old, (below entry old).ne'⟩
          · rintro (equal | ⟨rfl | old, different⟩)
            · exact .inl equal
            · exact absurd rfl different
            · exact .inr old
        · rename_i different
          simp only [List.mem_cons, ih sorted]
          constructor
          · rintro (rfl | equal | ⟨old, other⟩)
            · exact .inr ⟨.inl rfl, fun equal => different equal.symm⟩
            · exact .inl equal
            · exact .inr ⟨.inr old, other⟩
          · rintro (equal | ⟨rfl | old, other⟩)
            · exact .inr (.inl equal)
            · exact .inl rfl
            · exact .inr (.inr ⟨old, other⟩)

theorem insertEntry_sorted {name : Name} {data : Data} {entries : List (Name × Data)}
    (sorted : entries.Pairwise fun first second => first.1 < second.1) :
    (insertEntry name data entries).Pairwise fun first second => first.1 < second.1 := by
  induction entries with
  | nil => exact List.pairwise_singleton _ _
  | cons head rest ih =>
      obtain ⟨below, tail⟩ := List.pairwise_cons.mp sorted
      unfold insertEntry
      split
      · rename_i before
        refine List.pairwise_cons.mpr ⟨fun other member => ?_, sorted⟩
        rcases List.mem_cons.mp member with rfl | member
        · exact before
        · exact before.trans (below other member)
      · split
        · rename_i same
          exact List.pairwise_cons.mpr ⟨fun other member => same ▸ below other member, tail⟩
        · rename_i notBefore different
          refine List.pairwise_cons.mpr ⟨fun other member => ?_, ih tail⟩
          rcases (mem_insertEntry tail other).mp member with rfl | ⟨member, _⟩
          · exact lt_of_le_of_ne (not_lt.mp notBefore) (Ne.symm different)
          · exact below other member

/-- The write sets the whole document with the given name. -/
def set (documents : Documents Name Data) (name : Name) (data : Data) : Documents Name Data :=
  ⟨insertEntry name data documents.entries, insertEntry_sorted documents.sorted⟩

theorem mem_set {documents : Documents Name Data} {name : Name} {data : Data}
    (entry : Name × Data) :
    entry ∈ (documents.set name data).entries ↔
      entry = (name, data) ∨ (entry ∈ documents.entries ∧ entry.1 ≠ name) :=
  mem_insertEntry documents.sorted entry

/-- A name stands for at most one document. -/
theorem eq_of_mem {documents : Documents Name Data} {first second : Name × Data}
    (left : first ∈ documents.entries) (right : second ∈ documents.entries)
    (same : first.1 = second.1) : first = second := by
  obtain ⟨entries, sorted⟩ := documents
  induction entries with
  | nil => cases left
  | cons head rest ih =>
      obtain ⟨below, tail⟩ := List.pairwise_cons.mp sorted
      rcases List.mem_cons.mp left with atHead | left
      · rcases List.mem_cons.mp right with rfl | right
        · exact atHead
        · exact absurd same (atHead ▸ (below _ right).ne)
      · rcases List.mem_cons.mp right with atHead | right
        · exact absurd same (atHead ▸ (below _ left).ne')
        · exact ih tail left right

theorem get?_eq_some {documents : Documents Name Data} {name : Name} {data : Data} :
    documents.get? name = some data ↔ (name, data) ∈ documents.entries := by
  unfold get?
  constructor
  · intro found
    obtain ⟨entry, first, rfl⟩ := Option.map_eq_some_iff.mp found
    have same : entry.1 = name := by simpa using List.find?_some first
    exact same ▸ List.mem_of_find?_eq_some first
  · intro member
    cases first : documents.entries.find? fun entry => entry.1 = name with
    | none => simpa using List.find?_eq_none.mp first _ member
    | some entry =>
        have same : entry.1 = name := by simpa using List.find?_some first
        rw [eq_of_mem (List.mem_of_find?_eq_some first) member same]
        rfl

theorem get?_set {documents : Documents Name Data} {name other : Name} {data : Data} :
    (documents.set name data).get? other = if other = name then some data else documents.get? other := by
  apply Option.ext
  intro found
  rw [get?_eq_some, mem_set]
  split
  · rename_i same
    simp [same, eq_comm]
  · rename_i different
    simp [different, get?_eq_some]

@[simp] theorem get?_set_same {documents : Documents Name Data} {name : Name} {data : Data} :
    (documents.set name data).get? name = some data := by
  simp [get?_set]

theorem get?_set_other {documents : Documents Name Data} {name other : Name} {data : Data}
    (different : other ≠ name) : (documents.set name data).get? other = documents.get? other := by
  simp [get?_set, different]

/-- The query keeps the matching documents in the order of their names. -/
def filter (documents : Documents Name Data) (matching : Data → Prop)
    [DecidablePred matching] : List (Name × Data) :=
  documents.entries.filter fun entry => matching entry.2

variable {matching : Data → Prop} [DecidablePred matching]

theorem mem_filter {documents : Documents Name Data} {name : Name} {data : Data} :
    (name, data) ∈ documents.filter matching ↔ documents.get? name = some data ∧ matching data := by
  simp [filter, get?_eq_some]

/-- The write of a present name replaces its entry in place. -/
theorem insertEntry_of_mem {name : Name} {old data : Data} {entries : List (Name × Data)}
    (sorted : entries.Pairwise fun first second => first.1 < second.1) (present : (name, old) ∈ entries) :
    insertEntry name data entries =
      entries.map fun entry => if entry.1 = name then (name, data) else entry := by
  induction entries with
  | nil => cases present
  | cons head rest ih =>
      obtain ⟨below, tail⟩ := List.pairwise_cons.mp sorted
      unfold insertEntry
      rcases List.mem_cons.mp present with rfl | later
      · have others : ∀ entry ∈ rest, (if entry.1 = name then (name, data) else entry) = entry := by
          intro entry member
          exact if_neg (below entry member).ne'
        rw [if_neg (lt_irrefl _), if_pos rfl, List.map_cons, if_pos rfl, List.map_congr_left others,
          List.map_id']
      · have above : head.1 < name := below _ later
        rw [if_neg above.not_gt, if_neg above.ne', List.map_cons, if_neg above.ne, ih tail later]

/-- The write of an absent name adds one entry. -/
theorem insertEntry_perm {name : Name} {data : Data} {entries : List (Name × Data)}
    (absent : ∀ entry ∈ entries, entry.1 ≠ name) :
    (insertEntry name data entries).Perm ((name, data) :: entries) := by
  induction entries with
  | nil => exact List.Perm.refl _
  | cons head rest ih =>
      unfold insertEntry
      split
      · exact List.Perm.refl _
      · rw [if_neg (absent head List.mem_cons_self).symm]
        have inside := ih fun entry member => absent entry (List.mem_cons_of_mem _ member)
        exact (inside.cons head).trans (List.Perm.swap _ _ _)

/-- The query sees a write to a present document in place when the match stays the same. -/
theorem filter_set_present {documents : Documents Name Data} {name : Name} {old data : Data}
    (present : documents.get? name = some old) (same : matching data ↔ matching old) :
    (documents.set name data).filter matching =
      (documents.filter matching).map fun entry => if entry.1 = name then (name, data) else entry := by
  have inside := get?_eq_some.mp present
  change (insertEntry name data documents.entries).filter _ = (documents.entries.filter _).map _
  rw [insertEntry_of_mem documents.sorted inside, List.filter_map]
  congr 1
  apply List.filter_congr
  intro entry member
  by_cases atName : entry.1 = name
  · have whole : entry = (name, old) := eq_of_mem member inside atName
    simp [whole, same]
  · simp [atName]

/-- The query sees a new document when it matches. -/
theorem filter_set_absent {documents : Documents Name Data} {name : Name} {data : Data}
    (absent : documents.get? name = none) :
    ((documents.set name data).filter matching).Perm
      (if matching data then (name, data) :: documents.filter matching else documents.filter matching) := by
  have others : ∀ entry ∈ documents.entries, entry.1 ≠ name := by
    intro entry member atName
    have present : documents.get? name = some entry.2 := get?_eq_some.mpr (atName ▸ member)
    rw [absent] at present
    cases present
  have inserted : (insertEntry name data documents.entries).Perm _ := insertEntry_perm others
  have perm := inserted.filter fun entry => matching entry.2
  by_cases included : matching data
  · rw [if_pos included]
    simpa [filter, set, included] using perm
  · rw [if_neg included]
    simpa [filter, set, included] using perm

/-- The answer of a query depends only on the matching documents. -/
theorem filter_ext {first second : Documents Name Data}
    (same : ∀ name data, matching data → (first.get? name = some data ↔ second.get? name = some data)) :
    first.filter matching = second.filter matching := by
  have ordered (documents : Documents Name Data) :
      (documents.filter matching).Pairwise fun left right => left.1 < right.1 := documents.sorted.filter _
  have distinct (documents : Documents Name Data) : (documents.filter matching).Nodup := by
    refine (ordered documents).imp fun before equal => ?_
    rw [equal] at before
    exact lt_irrefl _ before
  have members (entry : Name × Data) : entry ∈ first.filter matching ↔ entry ∈ second.filter matching := by
    rw [mem_filter, mem_filter]
    exact and_congr_left fun matched => same entry.1 entry.2 matched
  refine List.Perm.eq_of_pairwise ?_ (ordered first) (ordered second)
    ((List.perm_ext_iff_of_nodup (distinct first) (distinct second)).mpr members)
  intro left right _ _ before after
  exact absurd (before.trans after) (lt_irrefl _)

/-- The documents that are kept stand in the same order among the later ones. -/
theorem entries_sublist {first second : Documents Name Data}
    (kept : ∀ name data, first.get? name = some data → second.get? name = some data) :
    first.entries.Sublist second.entries := by
  have asymmetric : Std.Antisymm fun left right : Name × Data => left.1 < right.1 :=
    ⟨fun left right before after => absurd (before.trans after) (lt_irrefl _)⟩
  have distinct : first.entries.Nodup := first.sorted.imp fun before equal => before.ne (congrArg Prod.fst equal)
  refine List.sublist_of_subperm_of_pairwise (List.subperm_of_subset distinct ?_) first.sorted second.sorted
  intro entry member
  exact get?_eq_some.mp (kept entry.1 entry.2 (get?_eq_some.mpr member))

end Documents
