import Mathlib.Algebra.BigOperators.Group.List.Basic
import Mathlib.Algebra.Order.Group.Multiset
import Mathlib.Data.List.Forall2

/-! A pool is a list in the order of insertion whose entries are changed or removed at any place. -/

namespace Pool

variable {Entry Total View : Type*} {pool : List Entry} {index : Nat} {entry : Entry}

/-- An entry splits the pool, and its change or removal happens between the two parts. -/
theorem split (found : pool[index]? = some entry) :
    pool = pool.take index ++ entry :: pool.drop (index + 1) ∧
      (∀ changed, pool.set index changed = pool.take index ++ changed :: pool.drop (index + 1)) ∧
      pool.eraseIdx index = pool.take index ++ pool.drop (index + 1) := by
  obtain ⟨inside, rfl⟩ := List.getElem?_eq_some_iff.mp found
  refine ⟨?_, fun changed => List.set_eq_take_append_cons_drop .. |>.trans (if_pos inside), ?_⟩
  · rw [List.getElem_cons_drop, List.take_append_drop]
  · exact List.eraseIdx_eq_take_drop_succ pool index

/-- A partial view of the pool splits at the entry. -/
theorem filterMap_split (view : Entry → Option View) (found : pool[index]? = some entry) :
    pool.filterMap view = (pool.take index).filterMap view ++
      ((view entry).toList ++ (pool.drop (index + 1)).filterMap view) := by
  have whole := congrArg (List.filterMap view) (split found).1
  rw [List.filterMap_append, List.filterMap_cons] at whole
  rw [whole]
  cases view entry <;> rfl

theorem filterMap_set (view : Entry → Option View) (found : pool[index]? = some entry)
    (changed : Entry) :
    (pool.set index changed).filterMap view = (pool.take index).filterMap view ++
      ((view changed).toList ++ (pool.drop (index + 1)).filterMap view) := by
  rw [(split found).2.1 changed, List.filterMap_append, List.filterMap_cons]
  cases view changed <;> rfl

theorem filterMap_eraseIdx (view : Entry → Option View) (found : pool[index]? = some entry) :
    (pool.eraseIdx index).filterMap view = (pool.take index).filterMap view ++
      (pool.drop (index + 1)).filterMap view := by
  rw [(split found).2.2, List.filterMap_append]

theorem perm_eraseIdx (found : pool[index]? = some entry) :
    pool.Perm (entry :: pool.eraseIdx index) := by
  obtain ⟨inside, rfl⟩ := List.getElem?_eq_some_iff.mp found
  exact (List.getElem_cons_eraseIdx_perm inside).symm

theorem perm_set (found : pool[index]? = some entry) (changed : Entry) :
    (pool.set index changed).Perm (changed :: pool.eraseIdx index) := by
  obtain ⟨inside, _⟩ := List.getElem?_eq_some_iff.mp found
  exact List.set_perm_cons_eraseIdx inside changed

/-- The removal takes one summand away. -/
theorem sum_eraseIdx [AddCommMonoid Total] (weight : Entry → Total)
    (found : pool[index]? = some entry) :
    (pool.map weight).sum = weight entry + ((pool.eraseIdx index).map weight).sum := by
  rw [((perm_eraseIdx found).map weight).sum_eq, List.map_cons, List.sum_cons]

/-- The change replaces one summand. -/
theorem sum_set [AddCommMonoid Total] (weight : Entry → Total)
    (found : pool[index]? = some entry) (changed : Entry) :
    ((pool.set index changed).map weight).sum =
      weight changed + ((pool.eraseIdx index).map weight).sum := by
  rw [((perm_set found changed).map weight).sum_eq, List.map_cons, List.sum_cons]

/-- The removal takes the part of one entry out of a partial view. -/
theorem filterMap_perm (view : Entry → Option View) (found : pool[index]? = some entry) :
    (pool.filterMap view).Perm ((view entry).toList ++ (pool.eraseIdx index).filterMap view) := by
  have perm := (perm_eraseIdx found).filterMap view
  rw [List.filterMap_cons] at perm
  cases shown : view entry <;> simpa [shown] using perm

/-- The change replaces the part of one entry in a partial view. -/
theorem filterMap_set_perm (view : Entry → Option View) (found : pool[index]? = some entry)
    (changed : Entry) :
    ((pool.set index changed).filterMap view).Perm
      ((view changed).toList ++ (pool.eraseIdx index).filterMap view) := by
  have perm := (perm_set found changed).filterMap view
  rw [List.filterMap_cons] at perm
  cases shown : view changed <;> simpa [shown] using perm

/-- A partial view does not see the removal of a silent entry. -/
theorem filterMap_eraseIdx_silent (view : Entry → Option View) (found : pool[index]? = some entry)
    (silent : view entry = none) : (pool.eraseIdx index).filterMap view = pool.filterMap view := by
  rw [filterMap_eraseIdx view found, filterMap_split view found, silent, Option.toList_none,
    List.nil_append]

/-- A partial view does not see a change that keeps its part. -/
theorem filterMap_set_same (view : Entry → Option View) (found : pool[index]? = some entry)
    {changed : Entry} (same : view changed = view entry) :
    (pool.set index changed).filterMap view = pool.filterMap view := by
  rw [filterMap_set view found, filterMap_split view found, same]

/-- A total view does not see a change that keeps its part. -/
theorem map_set_same (view : Entry → View) (found : pool[index]? = some entry) {changed : Entry}
    (same : view changed = view entry) : (pool.set index changed).map view = pool.map view := by
  have partly := filterMap_set_same (fun entry => some (view entry)) found (congrArg some same)
  rwa [List.filterMap_eq_map'] at partly

/-- A partial view does not see silent entries. -/
theorem filterMap_append_silent (view : Entry → Option View) {added : List Entry}
    (silent : ∀ member ∈ added, view member = none) :
    (pool ++ added).filterMap view = pool.filterMap view := by
  rw [List.filterMap_append, List.filterMap_eq_nil_iff.mpr silent, List.append_nil]

/-- Entries without weight do not change the sum. -/
theorem sum_append_silent [AddCommMonoid Total] (weight : Entry → Total) {added : List Entry}
    (silent : ∀ member ∈ added, weight member = 0) :
    ((pool ++ added).map weight).sum = (pool.map weight).sum := by
  have empty : (added.map weight).sum = 0 := by
    apply List.sum_eq_zero
    intro total member
    obtain ⟨entry, present, rfl⟩ := List.mem_map.mp member
    exact silent entry present
  rw [List.map_append, List.sum_append, empty, add_zero]

/-- A part of a pool shows a part of its partial view. -/
theorem filterMap_subperm (view : Entry → Option View) {part : List Entry} (inside : part.Subperm pool) :
    (part.filterMap view).Subperm (pool.filterMap view) := by
  obtain ⟨arranged, perm, sub⟩ := inside
  exact ⟨arranged.filterMap view, perm.filterMap view, sub.filterMap view⟩

/-- A view by places is a view of the entries. -/
theorem map_range {view : Entry → View} {shown : Nat → View}
    (same : ∀ place member, pool[place]? = some member → shown place = view member) :
    (List.range pool.length).map shown = pool.map view := by
  refine List.ext_getElem (by simp) fun place inside _ => ?_
  rw [List.length_map, List.length_range] at inside
  rw [List.getElem_map, List.getElem_map, List.getElem_range]
  exact same place _ (List.getElem?_eq_getElem inside)

/-- A property of every entry survives a removal. -/
theorem forall_eraseIdx {property : Entry → Prop} (all : ∀ member ∈ pool, property member) :
    ∀ member ∈ pool.eraseIdx index, property member :=
  fun member present => all member (List.mem_of_mem_eraseIdx present)

/-- A property of every entry survives a change to an entry that has it. -/
theorem forall_set {property : Entry → Prop} (all : ∀ member ∈ pool, property member)
    {changed : Entry} (kept : property changed) :
    ∀ member ∈ pool.set index changed, property member := by
  intro member present
  rcases List.mem_or_eq_of_mem_set present with old | rfl
  · exact all member old
  · exact kept

/-- A property of every entry survives an insertion of entries that have it. -/
theorem forall_append {property : Entry → Prop} (all : ∀ member ∈ pool, property member)
    {added : List Entry} (kept : ∀ member ∈ added, property member) :
    ∀ member ∈ pool ++ added, property member := by
  intro member present
  rcases List.mem_append.mp present with old | new
  · exact all member old
  · exact kept member new

/-- A property of every place survives a change to an entry that has it in its place. -/
theorem forall_places_set {property : Nat → Entry → Prop}
    (all : ∀ place member, pool[place]? = some member → property place member) {changed : Entry}
    (kept : property index changed) :
    ∀ place member, (pool.set index changed)[place]? = some member → property place member := by
  intro place member present
  rw [List.getElem?_set] at present
  split at present
  · rename_i same
    subst same
    split at present
    · exact Option.some.inj present ▸ kept
    · cases present
  · exact all place member present

/-- A property of every place survives an insertion of an entry that has it in its place. -/
theorem forall_places_concat {property : Nat → Entry → Prop}
    (all : ∀ place member, pool[place]? = some member → property place member) {added : Entry}
    (kept : property pool.length added) :
    ∀ place member, (pool ++ [added])[place]? = some member → property place member := by
  intro place member present
  rcases Nat.lt_or_ge place pool.length with inside | outside
  · rw [List.getElem?_append_left inside] at present
    exact all place member present
  · rw [List.getElem?_append_right outside, List.getElem?_singleton] at present
    split at present
    · obtain rfl : place = pool.length := by omega
      exact Option.some.inj present ▸ kept
    · cases present

/-- A witness that is another entry survives a removal. -/
theorem exists_eraseIdx {property : Entry → Prop} (found : pool[index]? = some entry) (other : ¬ property entry)
    (witness : ∃ member ∈ pool, property member) : ∃ member ∈ pool.eraseIdx index, property member := by
  obtain ⟨member, present, holds⟩ := witness
  rcases List.mem_cons.mp ((perm_eraseIdx found).mem_iff.mp present) with rfl | kept
  · exact absurd holds other
  · exact ⟨member, kept, holds⟩

/-- A witness survives a change that keeps its property. -/
theorem exists_set {property : Entry → Prop} {changed : Entry} (found : pool[index]? = some entry)
    (kept : property entry → property changed) (witness : ∃ member ∈ pool, property member) :
    ∃ member ∈ pool.set index changed, property member := by
  have replaced := perm_set found changed
  by_cases here : property entry
  · exact ⟨changed, replaced.mem_iff.mpr List.mem_cons_self, kept here⟩
  · obtain ⟨member, other, holds⟩ := exists_eraseIdx found here witness
    exact ⟨member, replaced.mem_iff.mpr (List.mem_cons_of_mem _ other), holds⟩

/-! A second list keeps a note for each entry of the pool. -/

section Notes

variable {Note : Type*} {related : Entry → Note → Prop} {notes : List Note}

theorem note_of_forall₂ (noted : List.Forall₂ related pool notes) (found : pool[index]? = some entry) :
    ∃ note, notes[index]? = some note ∧ related entry note := by
  obtain ⟨inside, rfl⟩ := List.getElem?_eq_some_iff.mp found
  exact ⟨_, List.getElem?_eq_getElem (noted.length_eq ▸ inside), noted.get inside (noted.length_eq ▸ inside)⟩

/-- An entry and its note are removed together. -/
theorem forall₂_eraseIdx (noted : List.Forall₂ related pool notes) (index : Nat) :
    List.Forall₂ related (pool.eraseIdx index) (notes.eraseIdx index) := by
  rw [List.eraseIdx_eq_take_drop_succ, List.eraseIdx_eq_take_drop_succ]
  exact List.rel_append (List.forall₂_take _ noted) (List.forall₂_drop _ noted)

/-- A changed entry keeps its note. -/
theorem forall₂_set (noted : List.Forall₂ related pool notes) (found : pool[index]? = some entry) {note : Note}
    (present : notes[index]? = some note) {changed : Entry} (kept : related changed note) :
    List.Forall₂ related (pool.set index changed) notes := by
  rw [(split found).2.1 changed, (split present).1]
  exact List.rel_append (List.forall₂_take _ noted) (.cons kept (List.forall₂_drop _ noted))

/-- Inserted entries get the same note. -/
theorem forall₂_append (noted : List.Forall₂ related pool notes) {added : List Entry} {note : Note}
    (new : ∀ member ∈ added, related member note) :
    List.Forall₂ related (pool ++ added) (notes ++ List.replicate added.length note) := by
  refine List.rel_append noted (List.forall₂_iff_get.mpr ⟨List.length_replicate.symm, fun place inside _ => ?_⟩)
  rw [List.get_eq_getElem, List.get_eq_getElem, List.getElem_replicate]
  exact new _ (List.getElem_mem inside)

end Notes

/-! A part of the pool keeps the entries of one kind in their order. -/

section Part

variable (kind : Entry → Bool)

/-- An entry of the part stands behind the entries of the part before it. -/
def place (pool : List Entry) (index : Nat) : Nat := ((pool.take index).filter kind).length

variable {kind}

theorem filter_split (found : pool[index]? = some entry) (inside : kind entry = true) :
    pool.filter kind = (pool.take index).filter kind ++ entry :: (pool.drop (index + 1)).filter kind := by
  have whole := congrArg (List.filter kind) (split found).1
  rwa [List.filter_append, List.filter_cons_of_pos inside] at whole

theorem filter_getElem? (found : pool[index]? = some entry) (inside : kind entry = true) :
    (pool.filter kind)[place kind pool index]? = some entry := by
  rw [filter_split found inside, place, List.getElem?_append_right (le_refl _), Nat.sub_self]
  rfl

theorem filter_set (found : pool[index]? = some entry) (inside : kind entry = true) {changed : Entry}
    (kept : kind changed = true) :
    (pool.set index changed).filter kind = (pool.filter kind).set (place kind pool index) changed := by
  rw [(split found).2.1 changed, List.filter_append, List.filter_cons_of_pos kept, filter_split found inside, place,
    List.set_append_right _ _ (le_refl _), Nat.sub_self]
  rfl

theorem filter_eraseIdx (found : pool[index]? = some entry) (inside : kind entry = true) :
    (pool.eraseIdx index).filter kind = (pool.filter kind).eraseIdx (place kind pool index) := by
  rw [(split found).2.2, List.filter_append, filter_split found inside, place,
    List.eraseIdx_append_of_length_le (le_refl _), Nat.sub_self]
  rfl

/-- The part does not see a change or a removal outside it. -/
theorem filter_outside (found : pool[index]? = some entry) (outside : kind entry = false) :
    (∀ changed, kind changed = false → (pool.set index changed).filter kind = pool.filter kind) ∧
      (pool.eraseIdx index).filter kind = pool.filter kind := by
  have whole := congrArg (List.filter kind) (split found).1
  have hidden : ¬ kind entry = true := Bool.eq_false_iff.mp outside
  rw [List.filter_append, List.filter_cons_of_neg hidden] at whole
  refine ⟨fun changed silent => ?_, ?_⟩
  · rw [(split found).2.1 changed, List.filter_append, List.filter_cons_of_neg (Bool.eq_false_iff.mp silent), ← whole]
  · rw [(split found).2.2, List.filter_append, ← whole]

end Part

end Pool
