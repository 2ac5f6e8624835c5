import Mathlib.Data.List.Nodup
import Mathlib.Data.List.Perm.Subperm
import Mathlib.Data.Set.Basic
import Mathlib.Logic.Function.Basic
import Mathlib.Tactic.Common

/-- A write-once store keeps the values, the writes that wait for it, and the keys that writes have used. A waiting
write has a free key of its own. -/
structure WriteOnce (Key Value : Type*) where
  stored : Key → Option Value
  waiting : List (Key × Value)
  used : Set Key
  storedUsed : ∀ key value, stored key = some value → key ∈ used
  waitingUsed : ∀ entry ∈ waiting, entry.1 ∈ used
  free : ∀ entry ∈ waiting, stored entry.1 = none
  distinct : (waiting.map Prod.fst).Nodup

namespace WriteOnce

variable {Key Value : Type*}

def empty : WriteOnce Key Value where
  stored _ := none
  waiting := []
  used := ∅
  storedUsed _ _ impossible := by cases impossible
  waitingUsed _ member := by cases member
  free _ member := by cases member
  distinct := List.nodup_nil

/-- New writes wait under new keys. -/
structure New (store : WriteOnce Key Value) (entries : List (Key × Value)) (used : Set Key) : Prop where
  grows : store.used ⊆ used
  fresh : ∀ entry ∈ entries, entry.1 ∉ store.used
  taken : ∀ entry ∈ entries, entry.1 ∈ used
  distinct : (entries.map Prod.fst).Nodup

def issue (store : WriteOnce Key Value) (entries : List (Key × Value)) (used : Set Key)
    (new : store.New entries used) : WriteOnce Key Value where
  stored := store.stored
  waiting := store.waiting ++ entries
  used := used
  storedUsed key value found := new.grows (store.storedUsed key value found)
  waitingUsed entry member := by
    rcases List.mem_append.mp member with old | added
    · exact new.grows (store.waitingUsed entry old)
    · exact new.taken entry added
  free entry member := by
    rcases List.mem_append.mp member with old | added
    · exact store.free entry old
    · cases found : store.stored entry.1 with
      | none => rfl
      | some value => exact absurd (store.storedUsed _ value found) (new.fresh entry added)
  distinct := by
    rw [List.map_append]
    refine List.nodup_append.mpr ⟨store.distinct, new.distinct, fun key old other added same => ?_⟩
    obtain ⟨before, waits, rfl⟩ := List.mem_map.mp old
    obtain ⟨entry, isNew, rfl⟩ := List.mem_map.mp added
    exact new.fresh entry isNew (same ▸ store.waitingUsed before waits)

/-- Some of the waiting writes fail. -/
def drop (store : WriteOnce Key Value) (waiting : List (Key × Value)) (fewer : waiting.Subperm store.waiting) :
    WriteOnce Key Value where
  stored := store.stored
  waiting := waiting
  used := store.used
  storedUsed := store.storedUsed
  waitingUsed entry member := store.waitingUsed entry (fewer.subset member)
  free entry member := store.free entry (fewer.subset member)
  distinct := by
    obtain ⟨kept, perm, sublist⟩ := fewer
    exact (perm.map Prod.fst).nodup_iff.mp (store.distinct.sublist (sublist.map Prod.fst))

/-- A waiting write is stored under its key. -/
def apply [DecidableEq Key] (store : WriteOnce Key Value) (key : Key) (value : Value) (waiting : List (Key × Value))
    (found : store.waiting.Perm ((key, value) :: waiting)) : WriteOnce Key Value where
  stored := Function.update store.stored key (some value)
  waiting := waiting
  used := store.used
  storedUsed other content stored := by
    by_cases same : other = key
    · exact same ▸ store.waitingUsed (key, value) (found.mem_iff.mpr List.mem_cons_self)
    · exact store.storedUsed other content ((Function.update_of_ne same _ _).symm.trans stored)
  waitingUsed entry member := store.waitingUsed entry (found.mem_iff.mpr (List.mem_cons_of_mem _ member))
  free entry member := by
    have apart : key ∉ waiting.map Prod.fst := (List.nodup_cons.mp ((found.map Prod.fst).nodup_iff.mp store.distinct)).1
    have other : entry.1 ≠ key := fun same => apart (same ▸ List.mem_map_of_mem member)
    rw [Function.update_of_ne other]
    exact store.free entry (found.mem_iff.mpr (List.mem_cons_of_mem _ member))
  distinct := (List.nodup_cons.mp ((found.map Prod.fst).nodup_iff.mp store.distinct)).2

/-- Writes are issued under new keys, one is applied, or some fail. -/
inductive Moves [DecidableEq Key] (store : WriteOnce Key Value) : WriteOnce Key Value → Prop where
  | issue (entries : List (Key × Value)) (used : Set Key) (new : store.New entries used) :
      Moves store (store.issue entries used new)
  | drop (waiting : List (Key × Value)) (fewer : waiting.Subperm store.waiting) : Moves store (store.drop waiting fewer)
  | apply (key : Key) (value : Value) (waiting : List (Key × Value))
      (found : store.waiting.Perm ((key, value) :: waiting)) : Moves store (store.apply key value waiting found)

/-- A write is known when it is stored or waits. -/
def Known (store : WriteOnce Key Value) (key : Key) (value : Value) : Prop :=
  store.stored key = some value ∨ (key, value) ∈ store.waiting

variable {store next : WriteOnce Key Value} {key : Key} {value : Value}

theorem Known.used (known : store.Known key value) : key ∈ store.used := by
  rcases known with found | waits
  · exact store.storedUsed key value found
  · exact store.waitingUsed _ waits

variable [DecidableEq Key]

/-- A stored value does not change and does not go away. -/
theorem Moves.keeps (moves : store.Moves next) (found : store.stored key = some value) :
    next.stored key = some value := by
  cases moves with
  | issue entries used new => exact found
  | drop waiting fewer => exact found
  | apply written content waiting waits =>
      have taken := store.free _ (waits.mem_iff.mpr List.mem_cons_self)
      have different : key ≠ written := by
        rintro rfl
        rw [taken] at found
        cases found
      exact (Function.update_of_ne different _ _).trans found

/-- A write that becomes known is issued under a new key. -/
theorem Moves.known (moves : store.Moves next) (known : next.Known key value) :
    store.Known key value ∨ key ∉ store.used := by
  cases moves with
  | issue entries used new =>
      rcases known with found | waits
      · exact .inl (.inl found)
      · rcases List.mem_append.mp waits with old | added
        · exact .inl (.inr old)
        · exact .inr (new.fresh _ added)
  | drop waiting fewer =>
      rcases known with found | waits
      · exact .inl (.inl found)
      · exact .inl (.inr (fewer.subset waits))
  | apply written content waiting found =>
      rcases known with stored | waits
      · by_cases same : key = written
        · subst same
          have written : Function.update store.stored key (some content) key = some value := stored
          rw [Function.update_self] at written
          obtain rfl := Option.some.inj written
          exact .inl (.inr (found.mem_iff.mpr List.mem_cons_self))
        · exact .inl (.inl ((Function.update_of_ne same _ _).symm.trans stored))
      · exact .inl (.inr (found.mem_iff.mpr (List.mem_cons_of_mem _ waits)))

end WriteOnce
