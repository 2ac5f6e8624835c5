import ShoppingApp.Proof.Inversion

namespace ShoppingApp

/-- The item document exists and carries its name. -/
def Store.Sells (store : Store) (itemId : String) : Prop :=
  ∃ data, store.data .items itemId = some data ∧ data.read Value.asString .objectId = some itemId

/-- Every item document has a price. -/
def Store.Priced (store : Store) : Prop :=
  ∀ itemId data, store.data .items itemId = some data → (Item.ofDictionary data).price.isSome

/-- The identifiers that the rows show. -/
def Device.rowIds (device : Device) : List (Option String) := device.screen.allItems.map fun item => item.id

/-- The callbacks of a download have collected all items but the pending ones. -/
structure ItemDownload.Collects (store : Store) (itemIds pending : List String) (download : ItemDownload) : Prop where
  withIds : download.withIds = itemIds
  counter : download.counter = download.itemArray.length
  items : (download.itemArray.map (fun item => item.id) ++ pending.map some).Perm (itemIds.map some)
  stored : ∀ item ∈ download.itemArray, ∃ itemId data,
    store.data .items itemId = some data ∧ item = Item.ofDictionary data

/-- The rows show the identifiers, or a download collects them and shows them at its end. -/
def Device.Shows (store : Store) (itemIds pending : List String) (download : Nat) (device : Device) : Prop :=
  (pending = [] → device.rowIds.Perm (itemIds.map some)) ∧
    (pending ≠ [] → ∃ shared, device.downloads[download]? = some shared ∧ shared.Collects store itemIds pending)

namespace ItemDownload.Collects

variable {store : Store} {itemIds rest : List String} {itemId : String} {download : ItemDownload}

/-- A found document is collected, and the array is delivered exactly when nothing is pending. -/
theorem receive {data : Dictionary} (collects : download.Collects store itemIds (itemId :: rest))
    (stored : store.data .items itemId = some data) (named : data.read Value.asString .objectId = some itemId) :
    (download.receive (.found data)).1.Collects store itemIds rest ∧
      (download.receive (.found data)).2 =
        if rest = [] then [download.itemArray ++ [Item.ofDictionary data]] else [] := by
  have total := collects.items.length_eq
  simp only [List.length_append, List.length_map, List.length_cons] at total
  refine ⟨⟨collects.withIds, ?_, ?_, ?_⟩, ?_⟩
  · simp [ItemDownload.receive, collects.counter]
  · have own : (Item.ofDictionary data).id = some itemId := named
    simpa [ItemDownload.receive, own] using collects.items
  · intro item member
    rcases List.mem_append.mp member with old | new
    · exact collects.stored item old
    · exact ⟨itemId, data, stored, List.mem_singleton.mp new⟩
  · simp only [ItemDownload.receive, collects.counter, collects.withIds]
    by_cases last : rest = []
    · subst last
      rw [if_pos rfl, if_pos (by simpa using total)]
    · have waiting : 0 < rest.length := List.length_pos_iff.mpr last
      rw [if_neg last, if_neg (by omega)]

/-- The order of the pending identifiers does not matter. -/
theorem perm {pending other : List String} (collects : download.Collects store itemIds pending)
    (same : pending.Perm other) : download.Collects store itemIds other :=
  ⟨collects.withIds, collects.counter, ((same.symm.map some).append_left _).trans collects.items, collects.stored⟩

/-- The answers of the server keep what is collected. -/
theorem answer {pending : List String} (collects : download.Collects store itemIds pending) (request : Request) :
    download.Collects (store.answer request).1 itemIds pending := by
  refine ⟨collects.withIds, collects.counter, collects.items, fun item member => ?_⟩
  obtain ⟨itemId, data, stored, same⟩ := collects.stored item member
  exact ⟨itemId, data, (store.answer_items request itemId).trans stored, same⟩

/-- The collected items have prices when the documents do. -/
theorem priced (collects : download.Collects store itemIds rest) (priced : store.Priced) :
    ∀ item ∈ download.itemArray, item.price.isSome := by
  intro item member
  obtain ⟨itemId, data, stored, rfl⟩ := collects.stored item member
  exact priced itemId data stored

end ItemDownload.Collects

namespace Device

variable {device : Device} {store : Store}

/-- The rows are shown, and the application stops when a row has no price. -/
theorem showItems_eq (device : Device) (items : List Item) :
    (device.showItems items).device.screen.allItems = items ∧
      (device.showItems items).device.downloads = device.downloads ∧
      ((∀ item ∈ items, item.price.isSome) → (device.showItems items).device.trapped = device.trapped) := by
  unfold showItems updateTotalLabels
  dsimp only
  split
  · exact ⟨rfl, rfl, fun _ => rfl⟩
  · rename_i missing
    refine ⟨rfl, rfl, fun priced => absurd ?_ missing⟩
    exact List.all_eq_true.mpr priced

/-- One delivered array is shown. -/
theorem deliver_singleton (device : Device) (items : List Item) :
    (device.deliver [items]).device = (device.showItems items).device := by
  unfold deliver Outcome.andThen
  split <;> rfl

/-- The reload of the copy reads its items, and it shows an empty copy at once. -/
theorem getBasketItems_shows (store : Store) {basket : Basket} {itemIds : List String}
    (copy : device.screen.basket = some basket) (hasItems : basket.itemIds = some itemIds) :
    device.getBasketItems.issued = itemIds.map (fun itemId => .getItem itemId device.downloads.length) ∧
      device.getBasketItems.device.Shows store itemIds itemIds device.downloads.length ∧
      device.getBasketItems.device.trapped = device.trapped := by
  simp only [getBasketItems, copy, hasItems, downloadItemsFromFirebase]
  split
  · rename_i some
    refine ⟨rfl, ⟨fun empty => ?_, fun _ => ?_⟩, rfl⟩
    · rw [empty] at some
      exact absurd some (Nat.lt_irrefl 0)
    · exact ⟨{ withIds := itemIds }, by simp, rfl, rfl, by simp, by simp⟩
  · rename_i empty
    obtain rfl : itemIds = [] := List.eq_nil_of_length_eq_zero (by omega)
    obtain ⟨rows, _, running⟩ := device.showItems_eq []
    refine ⟨device.showItems_issued [], ⟨fun _ => ?_, fun impossible => absurd rfl impossible⟩,
      running fun _ member => by cases member⟩
    rw [rowIds, rows]
    exact List.Perm.refl []

/-- The order of the pending identifiers does not matter. -/
theorem Shows.perm {itemIds pending other : List String} {download : Nat}
    (shows : device.Shows store itemIds pending download) (same : pending.Perm other) :
    device.Shows store itemIds other download := by
  refine ⟨fun empty => shows.1 ?_, fun waiting => ?_⟩
  · rw [empty] at same
    exact same.eq_nil
  · obtain ⟨shared, present, collects⟩ := shows.2 fun empty => waiting (by
      rw [empty] at same
      exact same.symm.eq_nil)
    exact ⟨shared, present, collects.perm same⟩

/-- A found item document moves the rows towards the identifiers. -/
theorem Shows.itemCompletion {itemIds rest : List String} {itemId : String} {download : Nat} {data : Dictionary}
    (shows : device.Shows store itemIds (itemId :: rest) download)
    (stored : store.data .items itemId = some data) (named : data.read Value.asString .objectId = some itemId) :
    (device.itemCompletion download (.found data)).device.Shows store itemIds rest download ∧
      (store.Priced ∨ rest ≠ [] →
        (device.itemCompletion download (.found data)).device.trapped = device.trapped) := by
  obtain ⟨shared, present, collects⟩ := shows.2 (List.cons_ne_nil _ _)
  obtain ⟨received, delivered⟩ := collects.receive stored named
  have inside : download < device.downloads.length := (List.getElem?_eq_some_iff.mp present).1
  simp only [Device.itemCompletion, present, delivered]
  by_cases last : rest = []
  · subst last
    rw [if_pos rfl, deliver_singleton]
    let updated : Device := { device with downloads := device.downloads.set download (shared.receive (.found data)).1 }
    obtain ⟨rows, _, running⟩ := updated.showItems_eq (shared.itemArray ++ [Item.ofDictionary data])
    refine ⟨⟨fun _ => ?_, fun impossible => absurd rfl impossible⟩, fun priced => ?_⟩
    · have items := received.items
      rw [List.map_nil, List.append_nil] at items
      rw [rowIds, rows]
      exact items
    · exact running (received.priced (priced.resolve_right fun more => more rfl))
  · rw [if_neg last]
    refine ⟨⟨fun empty => absurd empty last, fun _ => ⟨_, ?_, received⟩⟩, fun _ => rfl⟩
    simp [deliver, done, inside]

/-- A found item of a download is collected, and the last one shows the items of the download. -/
theorem itemCompletion_collects {shared : ItemDownload} {rest : List String} {itemId : String} {download : Nat}
    {data : Dictionary} (present : device.downloads[download]? = some shared)
    (collects : shared.Collects store shared.withIds (itemId :: rest)) (stored : store.data .items itemId = some data)
    (named : data.read Value.asString .objectId = some itemId) :
    (device.itemCompletion download (.found data)).device.downloads =
        device.downloads.set download (shared.receive (.found data)).1 ∧
      (shared.receive (.found data)).1.Collects store (shared.receive (.found data)).1.withIds rest ∧
      (rest = [] → (device.itemCompletion download (.found data)).device.rowIds.Perm (shared.withIds.map some)) := by
  obtain ⟨received, delivered⟩ := collects.receive stored named
  have same : (shared.receive (.found data)).1.withIds = shared.withIds := received.withIds
  simp only [Device.itemCompletion, present, delivered]
  let updated : Device := { device with downloads := device.downloads.set download (shared.receive (.found data)).1 }
  obtain ⟨rows, downloads, _⟩ := updated.showItems_eq (shared.itemArray ++ [Item.ofDictionary data])
  by_cases last : rest = []
  · subst last
    rw [if_pos rfl, deliver_singleton]
    refine ⟨downloads, same ▸ received, fun _ => ?_⟩
    have items := received.items
    rw [List.map_nil, List.append_nil] at items
    rw [rowIds, rows]
    exact items
  · rw [if_neg last]
    exact ⟨rfl, same ▸ received, fun empty => absurd empty last⟩

end Device

end ShoppingApp
