import ShoppingApp.Model.Dictionary
import Mathlib.Data.List.Basic

namespace ShoppingApp

/-- Every stored property of a basket is optional. -/
structure Basket where
  id : Option String := none
  ownerId : Option String := none
  itemIds : Option (List String) := none
  deriving DecidableEq, Repr

/-- This is the initializer `Basket(_dictionary:)`. -/
def Basket.ofDictionary (dictionary : Dictionary) : Basket where
  id := dictionary.read Value.asString .objectId
  ownerId := dictionary.read Value.asString .ownerId
  itemIds := dictionary.read Value.asStrings .itemIds

def basketDictionaryFrom (basket : Basket) : Dictionary :=
  Record.ofArrays
    [.string (basket.id.getD ""), .string (basket.ownerId.getD ""), .strings (basket.itemIds.getD [])]
    [.objectId, .ownerId, .itemIds]

/-- The decoded basket has the encoded values, with the defaults for the missing ones. -/
theorem Basket.ofDictionary_basketDictionaryFrom (basket : Basket) :
    Basket.ofDictionary (basketDictionaryFrom basket) =
      { id := some (basket.id.getD ""), ownerId := some (basket.ownerId.getD ""),
        itemIds := some (basket.itemIds.getD []) } := rfl

/-- These are the values `[kITEMIDS: itemIds]` of a basket update. -/
def itemIdsValues (itemIds : List String) : Dictionary := Record.ofArrays [.strings itemIds] [.itemIds]

/-- The basket update sets the items. -/
@[simp] theorem Dictionary.itemIds_patch_itemIdsValues (base : Dictionary) (itemIds : List String) :
    Dictionary.itemIds (base.patch (itemIdsValues itemIds)) = itemIds := rfl

/-- The decoded basket of an update has its items and the other fields of the document. -/
theorem Basket.ofDictionary_patch_itemIdsValues (base : Dictionary) (itemIds : List String) :
    Basket.ofDictionary (base.patch (itemIdsValues itemIds)) =
      { Basket.ofDictionary base with itemIds := some itemIds } := rfl

/-- The scan reads the positions in turn, removes the first match, and traps past the end. -/
def removeScan (itemIds : List String) (itemId : String) : List Nat → Option (List String)
  | [] => some itemIds
  | i :: rest =>
      match itemIds[i]? with
      | none => none
      | some found => if found = itemId then some (itemIds.eraseIdx i) else removeScan itemIds itemId rest

/-- This is the loop of `removeItemFromBasket` over the closed range `0...itemIds.count`. -/
def removeItemFromBasket (itemIds : List String) (itemId : String) : Option (List String) :=
  removeScan itemIds itemId (List.range (itemIds.length + 1))

/-- The scan finds the first match in the part of the list that it has not read. -/
theorem removeScan_range (read rest : List String) (itemId : String) (unread : itemId ∉ read) :
    removeScan (read ++ rest) itemId (List.range' read.length (rest.length + 1)) =
      if itemId ∈ rest then some (read ++ rest.erase itemId) else none := by
  induction rest generalizing read with
  | nil => simp [removeScan, List.range'_succ]
  | cons head rest ih =>
      rw [List.length_cons, List.range'_succ, removeScan]
      have atHead : (read ++ head :: rest)[read.length]? = some head := by simp
      rw [atHead]
      by_cases same : head = itemId
      · subst same
        simp [List.eraseIdx_append_of_length_le]
      · have later := ih (read ++ [head]) (by
          simp only [List.mem_append, List.mem_singleton, not_or]
          exact ⟨unread, Ne.symm same⟩)
        simp only [List.append_assoc, List.singleton_append, List.length_append, List.length_singleton]
          at later
        simp only [same, if_false, later, List.mem_cons, Ne.symm same, false_or]
        rw [List.erase_cons_tail (by simpa using same)]

/-- The loop removes the first occurrence, and it traps when there is none. -/
theorem removeItemFromBasket_eq (itemIds : List String) (itemId : String) :
    removeItemFromBasket itemIds itemId =
      if itemId ∈ itemIds then some (itemIds.erase itemId) else none := by
  have scan := removeScan_range [] itemIds itemId (List.not_mem_nil)
  rwa [List.length_nil, ← List.range_eq_range'] at scan

end ShoppingApp
