import ShoppingApp.Model.Item
import Mathlib.Data.Multiset.Basic

namespace ShoppingApp

/-- The item of a request whose document was found. -/
def DocumentRead.item : DocumentRead → Option Item
  | .found data => some (Item.ofDictionary data)
  | .failed | .missing => none

/-- The items of the callbacks that found their documents, in the order of the callbacks. -/
def foundItems (callbacks : List (String × DocumentRead)) : List Item :=
  callbacks.filterMap fun callback => callback.2.item

theorem foundItems_append (first second : List (String × DocumentRead)) :
    foundItems (first ++ second) = foundItems first ++ foundItems second := List.filterMap_append

theorem foundItems_singleton (callback : String × DocumentRead) :
    foundItems [callback] = callback.2.item.toList := by
  cases found : callback.2.item <;> simp [foundItems, found]

namespace ItemDownload

/-- The callbacks run one after another, and their deliveries follow each other. -/
def receiveAll (download : ItemDownload) :
    List (String × DocumentRead) → ItemDownload × List (List Item)
  | [] => (download, [])
  | callback :: rest =>
      let received := download.receive callback.2
      let later := received.1.receiveAll rest
      (later.1, received.2 ++ later.2)

/-- These are the completion calls of `downloadItemsFromFirebase(withIds:)` after its callbacks. -/
def completions (withIds : List String) (callbacks : List (String × DocumentRead)) : List (List Item) :=
  if 0 < withIds.length then (receiveAll { withIds := withIds } callbacks).2 else [[]]

variable {download : ItemDownload} {callbacks first second : List (String × DocumentRead)}

theorem receiveAll_append (download : ItemDownload) (first second : List (String × DocumentRead)) :
    download.receiveAll (first ++ second) =
      (((download.receiveAll first).1.receiveAll second).1,
        (download.receiveAll first).2 ++ ((download.receiveAll first).1.receiveAll second).2) := by
  induction first generalizing download with
  | nil => rfl
  | cons callback rest ih => simp [receiveAll, ih]

/-- A callback appends the item of a found document and counts it. -/
theorem receive_fst (download : ItemDownload) (read : DocumentRead) :
    (download.receive read).1 =
      { download with
        itemArray := download.itemArray ++ read.item.toList
        counter := download.counter + read.item.toList.length } := by
  cases read <;> simp [receive, DocumentRead.item]

/-- The callbacks collect the found items and count them. -/
theorem receiveAll_fst (download : ItemDownload) (callbacks : List (String × DocumentRead)) :
    (download.receiveAll callbacks).1 =
      { download with
        itemArray := download.itemArray ++ foundItems callbacks
        counter := download.counter + (foundItems callbacks).length } := by
  induction callbacks generalizing download with
  | nil => simp [receiveAll, foundItems]
  | cons callback rest ih =>
      have split : foundItems (callback :: rest) = callback.2.item.toList ++ foundItems rest := by
        rw [← List.singleton_append, foundItems_append, foundItems_singleton]
      rw [receiveAll, split]
      dsimp only
      rw [ih, receive_fst]
      simp [List.append_assoc, Nat.add_assoc]

/-- The callback of a document that was not found delivers the items so far. -/
theorem receive_unfound {read : DocumentRead} (unfound : read.item = none) :
    (download.receive read).2.getLast? = some download.itemArray := by
  cases read with
  | failed => rfl
  | missing =>
      simp only [receive]
      split <;> rfl
  | found data => cases unfound

/-- The callback of a found document delivers only when it is the last one to be counted. -/
theorem receive_found {read : DocumentRead} {item : Item} (found : read.item = some item) :
    (download.receive read).2 =
      if download.counter + 1 = download.withIds.length then [download.itemArray ++ [item]] else [] := by
  cases read with
  | failed => cases found
  | missing => cases found
  | found data =>
      obtain rfl := Option.some.inj found
      rfl

/-- No delivered array is longer than the items that are collected at the end. -/
theorem receiveAll_bounded {delivered : List Item} (member : delivered ∈ (download.receiveAll callbacks).2) :
    delivered.length ≤ (download.receiveAll callbacks).1.itemArray.length := by
  induction callbacks generalizing download with
  | nil => cases member
  | cons callback rest ih =>
      rcases List.mem_append.mp member with now | later
      · rw [receive_delivers now, receiveAll, receiveAll_fst]
        simp
      · exact ih later

/-- The last callback decides what the last completion call delivers. -/
theorem completions_concat {withIds : List String} (last : String × DocumentRead)
    (some : 0 < withIds.length) :
    completions withIds (first ++ [last]) =
      (receiveAll { withIds := withIds } first).2 ++
        (({ withIds := withIds, itemArray := foundItems first,
            counter := (foundItems first).length } : ItemDownload).receive last.2).2 := by
  rw [completions, if_pos some, receiveAll_append]
  simp [receiveAll, receiveAll_fst { withIds := withIds } first]

end ItemDownload

theorem foundItems_concat (first : List (String × DocumentRead)) (last : String × DocumentRead) :
    foundItems (first ++ [last]) = foundItems first ++ last.2.item.toList := by
  rw [foundItems_append, foundItems_singleton]

/-- Every callback found its document exactly when each of them yields an item. -/
theorem length_foundItems_eq {callbacks : List (String × DocumentRead)} :
    (foundItems callbacks).length = callbacks.length ↔ ∀ callback ∈ callbacks, callback.2.item.isSome := by
  unfold foundItems
  rw [List.filterMap_length_eq_length]

/-- The last completion call delivers the item of every found document, if and only if every document was
found or the callback that runs last did not find its document. -/
theorem found_items_delivered_iff {withIds : List String} {callbacks : List (String × DocumentRead)}
    (requested : (callbacks.map Prod.fst).Perm withIds) :
    (∃ delivered ∈ (ItemDownload.completions withIds callbacks).getLast?,
        (foundItems callbacks : Multiset Item) ≤ delivered) ↔
      (∀ callback ∈ callbacks, callback.2.item.isSome) ∨
        ∀ last ∈ callbacks.getLast?, last.2.item = none := by
  have total : callbacks.length = withIds.length := by simpa using requested.length_eq
  rcases List.eq_nil_or_concat' callbacks with rfl | ⟨first, last, rfl⟩
  · obtain rfl : withIds = [] := List.eq_nil_of_length_eq_zero total.symm
    refine iff_of_true ⟨[], rfl, ?_⟩ (.inl fun callback member => by cases member)
    exact le_rfl
  · have some : 0 < withIds.length := by simp [← total]
    rw [ItemDownload.completions_concat last some, foundItems_concat]
    cases read : last.2.item with
    | none =>
        let collected : ItemDownload :=
          { withIds := withIds, itemArray := foundItems first, counter := (foundItems first).length }
        have delivers : (collected.receive last.2).2.getLast? = Option.some (foundItems first) :=
          ItemDownload.receive_unfound read
        refine iff_of_true ⟨foundItems first, ?_, ?_⟩ (.inr ?_)
        · simp [List.getLast?_append, collected, delivers]
        · simp
        · intro other same
          obtain rfl : last = other := by simpa using same
          exact read
    | some item =>
        rw [ItemDownload.receive_found read]
        by_cases whole : (foundItems first).length = first.length
        · have counted : (foundItems first).length + 1 = withIds.length := by simp [← total, whole]
          have others := length_foundItems_eq.mp whole
          refine iff_of_true ⟨foundItems first ++ [item], ?_, ?_⟩ (.inl ?_)
          · simp [counted]
          · simp
          · intro callback member
            rcases List.mem_append.mp member with early | final
            · exact others callback early
            · obtain rfl := List.mem_singleton.mp final
              simp [read]
        · have missed : ¬ (foundItems first).length + 1 = withIds.length := by
            simpa [← total] using whole
          refine iff_of_false ?_ ?_
          · rintro ⟨delivered, member, holds⟩
            simp only [missed, if_false, List.append_nil] at member
            have bounded := ItemDownload.receiveAll_bounded (List.mem_of_getLast? member)
            have longer : (foundItems first).length + 1 ≤ delivered.length := by
              simpa using Multiset.card_le_card holds
            rw [ItemDownload.receiveAll_fst] at bounded
            exact absurd (longer.trans bounded) (by simp)
          · rintro (all | unfound)
            · apply whole
              exact length_foundItems_eq.mpr fun callback member => all callback (List.mem_append_left _ member)
            · have none := unfound last (by simp)
              rw [read] at none
              cases none

/-- The document of the second item. -/
def secondRead : String × DocumentRead := ("b", .found (itemDictionaryFrom { id := "b" }))

/-- A document that turns out to be missing at the end hides nothing. -/
theorem found_items_delivered_missing_last :
    ∃ delivered ∈ (ItemDownload.completions ["a", "b"] [secondRead, ("a", .missing)]).getLast?,
      (foundItems [secondRead, ("a", .missing)] : Multiset Item) ≤ delivered := by
  have requested : ([secondRead, ("a", .missing)].map Prod.fst).Perm ["a", "b"] := by decide
  refine (found_items_delivered_iff requested).mpr (.inr ?_)
  intro last same
  obtain rfl := Option.some.inj same
  rfl

/-- A document that turns out to be missing at the start hides the item that is found after it. -/
theorem missing_item_hides_other :
    ([("a", .missing), secondRead].map Prod.fst).Perm ["a", "b"] ∧
      ItemDownload.completions ["a", "b"] [("a", .missing), secondRead] = [[]] ∧
      ¬ ∃ delivered ∈ (ItemDownload.completions ["a", "b"] [("a", .missing), secondRead]).getLast?,
        (foundItems [("a", .missing), secondRead] : Multiset Item) ≤ delivered := by
  refine ⟨by decide, rfl, ?_⟩
  rintro ⟨delivered, last, holds⟩
  obtain rfl := Option.some.inj last
  exact absurd (Multiset.card_le_card holds) (by decide)

end ShoppingApp
