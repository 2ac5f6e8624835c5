import ShoppingApp.Model.Dictionary

namespace ShoppingApp

/-- Every stored property of an item is optional. -/
structure Item where
  id : Option String := none
  categoryId : Option String := none
  name : Option String := none
  description : Option String := none
  price : Option Double := none
  imageLinks : Option (List String) := none
  deriving DecidableEq, Repr

/-- This is the initializer `Item(_dictionary:)`. -/
def Item.ofDictionary (dictionary : Dictionary) : Item where
  id := dictionary.read Value.asString .objectId
  categoryId := dictionary.read Value.asString .categoryId
  name := dictionary.read Value.asString .name
  description := dictionary.read Value.asString .description
  price := dictionary.read Value.asDouble .price
  imageLinks := dictionary.read Value.asStrings .imageLinks

def itemDictionaryFrom (item : Item) : Dictionary :=
  Record.ofArrays
    [.string (item.id.getD ""), .string (item.categoryId.getD ""), .string (item.name.getD ""),
      .string (item.description.getD ""), .number (item.price.getD .zero),
      .strings (item.imageLinks.getD [])]
    [.objectId, .categoryId, .name, .description, .price, .imageLinks]

/-- The decoded item has the encoded values, with the defaults for the missing ones. -/
theorem Item.ofDictionary_itemDictionaryFrom (item : Item) :
    Item.ofDictionary (itemDictionaryFrom item) =
      { id := some (item.id.getD ""), categoryId := some (item.categoryId.getD ""),
        name := some (item.name.getD ""), description := some (item.description.getD ""),
        price := some (item.price.getD .zero), imageLinks := some (item.imageLinks.getD []) } := rfl

/-- One call of `downloadItemsFromFirebase(withIds:)` shares these variables with its callbacks. -/
structure ItemDownload where
  withIds : List String
  itemArray : List Item := []
  counter : Nat := 0
  deriving DecidableEq, Repr

/-- The answer to one document read is a failure, a missing document, or its data. -/
inductive DocumentRead where
  | failed
  | missing
  | found (data : Dictionary)

/-- One callback updates the shared variables and lists the arrays that it delivers. -/
def ItemDownload.receive (download : ItemDownload) : DocumentRead → ItemDownload × List (List Item)
  | .failed => (download, [download.itemArray])
  | .missing =>
      (download, download.itemArray ::
        if download.counter = download.withIds.length then [download.itemArray] else [])
  | .found data =>
      let itemArray := download.itemArray ++ [Item.ofDictionary data]
      let counter := download.counter + 1
      ({ download with itemArray := itemArray, counter := counter },
        if counter = download.withIds.length then [itemArray] else [])

/-- A callback delivers the items that are collected after it. -/
theorem ItemDownload.receive_delivers {download : ItemDownload} {read : DocumentRead} {delivered : List Item}
    (member : delivered ∈ (download.receive read).2) : delivered = (download.receive read).1.itemArray := by
  cases read with
  | failed => exact List.mem_singleton.mp member
  | missing =>
      rcases List.mem_cons.mp member with same | again
      · exact same
      · split at again
        · exact List.mem_singleton.mp again
        · exact absurd again List.not_mem_nil
  | found data =>
      simp only [receive] at member
      split at member
      · exact List.mem_singleton.mp member
      · exact absurd member List.not_mem_nil

end ShoppingApp
