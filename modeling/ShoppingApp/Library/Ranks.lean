import ShoppingApp.Library.Pool
import Mathlib.Data.Multiset.DershowitzManna

/-! A pool comes down when one of its entries is replaced by any number of entries of lower rank. -/

namespace Pool

open Multiset

variable {Entry : Type*} {pool : List Entry} {index : Nat} {entry changed : Entry} {rank : Entry → Nat}

/-- The ranks of the entries do not depend on their order. -/
def ranks (rank : Entry → Nat) (pool : List Entry) : Multiset Nat := (pool.map rank : List Nat)

theorem ranks_eraseIdx (rank : Entry → Nat) (found : pool[index]? = some entry) :
    ranks rank pool = ranks rank (pool.eraseIdx index) + {rank entry} := by
  have perm := (perm_eraseIdx found).map rank
  rw [List.map_cons] at perm
  rw [ranks, coe_eq_coe.mpr perm, ← cons_coe, ← singleton_add, add_comm, ranks]

/-- An entry is replaced by entries of lower rank. -/
theorem ranks_replace (found : pool[index]? = some entry) {added : List Entry}
    (lower : ∀ member ∈ added, rank member < rank entry) :
    IsDershowitzMannaLT (ranks rank (pool.eraseIdx index ++ added)) (ranks rank pool) := by
  refine ⟨ranks rank (pool.eraseIdx index), ranks rank added, {rank entry}, singleton_ne_zero _, ?_,
    ranks_eraseIdx rank found, fun low member => ⟨rank entry, mem_singleton_self _, ?_⟩⟩
  · rw [ranks, List.map_append, ← coe_add, ranks, ranks]
  · obtain ⟨kept, inside, rfl⟩ := List.mem_map.mp (mem_coe.mp member)
    exact lower kept inside

/-- An entry is removed. -/
theorem ranks_remove (found : pool[index]? = some entry) :
    IsDershowitzMannaLT (ranks rank (pool.eraseIdx index)) (ranks rank pool) := by
  have replaced : IsDershowitzMannaLT (ranks rank (pool.eraseIdx index ++ [])) (ranks rank pool) :=
    ranks_replace found fun member inside => absurd inside List.not_mem_nil
  rwa [List.append_nil] at replaced

/-- An entry changes to a lower rank. -/
theorem ranks_set (found : pool[index]? = some entry) (lower : rank changed < rank entry) :
    IsDershowitzMannaLT (ranks rank (pool.set index changed)) (ranks rank pool) := by
  have replaced : IsDershowitzMannaLT (ranks rank (pool.eraseIdx index ++ [changed])) (ranks rank pool) :=
    ranks_replace found fun member inside => List.mem_singleton.mp inside ▸ lower
  have perm := ((perm_set found changed).trans (List.perm_append_singleton changed _).symm).map rank
  rwa [ranks, ← coe_eq_coe.mpr perm] at replaced

/-- One of two pools comes down while the other one stays. -/
theorem below_add_left {low high : Multiset Nat} (below : IsDershowitzMannaLT low high) (left : Multiset Nat) :
    IsDershowitzMannaLT (left + low) (left + high) := by
  obtain ⟨kept, lower, upper, some, rfl, rfl, below⟩ := below
  exact ⟨left + kept, lower, upper, some, (add_assoc ..).symm, (add_assoc ..).symm, below⟩

theorem below_add_right {low high : Multiset Nat} (below : IsDershowitzMannaLT low high) (right : Multiset Nat) :
    IsDershowitzMannaLT (low + right) (high + right) := by
  rw [add_comm low, add_comm high]
  exact below_add_left below right

/-- An empty pool does not come down. -/
theorem not_below_empty (low : Multiset Nat) : ¬ IsDershowitzMannaLT low (ranks rank []) := by
  rintro ⟨kept, lower, upper, some, _, empty, _⟩
  exact some (add_eq_zero.mp empty.symm).2

end Pool
