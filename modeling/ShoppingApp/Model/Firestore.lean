import ShoppingApp.Library.Documents
import ShoppingApp.Model.Item
import ShoppingApp.Model.Basket
import ShoppingApp.Model.MUser
import Mathlib.Data.String.Basic
import Mathlib.Logic.Function.Basic

namespace ShoppingApp

inductive FCollectionReference where
  | user | category | items | basket
  deriving DecidableEq, Repr

/-- The server keeps one collection of named documents for each reference. -/
abbrev Store := FCollectionReference → Documents String Dictionary

/-- A store starts from the named documents of its users, items, and baskets. -/
def Store.ofEntries (users items baskets : List (String × Dictionary)) : Store := fun collection =>
  List.foldl (fun documents entry => documents.set entry.1 entry.2) Documents.empty
    (match collection with
      | .user => users
      | .items => items
      | .basket => baskets
      | .category => [])

def Store.data (store : Store) (collection : FCollectionReference) (name : String) :
    Option Dictionary := (store collection).get? name

/-- The write `setData` replaces the whole document. -/
def Store.setData (store : Store) (collection : FCollectionReference) (name : String)
    (data : Dictionary) : Store :=
  Function.update store collection ((store collection).set name data)

/-- The write `updateData` merges the fields and fails for a missing document. -/
def Store.updateData (store : Store) (collection : FCollectionReference) (name : String)
    (values : Dictionary) : Option Store :=
  (store.data collection name).map fun data => store.setData collection name (data.patch values)

/-- This is the purchase history that the server keeps for an account. -/
def Store.purchasedItemIds (store : Store) (userId : String) : List String :=
  ((store.data .user userId).map Dictionary.purchasedItemIds).getD []

/-- These are the items that the server keeps in a basket document. -/
def Store.itemIds (store : Store) (basketId : String) : List String :=
  ((store.data .basket basketId).map Dictionary.itemIds).getD []

/-- A basket document belongs to the account that its owner field names. -/
def Owned (ownerId : String) (data : Dictionary) : Prop := data .ownerId = some (.string ownerId)

instance (ownerId : String) (data : Dictionary) : Decidable (Owned ownerId data) :=
  inferInstanceAs (Decidable (_ = _))

/-- The query `whereField(kOWNERID, isEqualTo:)` lists the matches in the order of their names. -/
def Store.basketsOf (store : Store) (ownerId : String) : List (String × Dictionary) :=
  (store .basket).filter (Owned ownerId)

/-- The item screen and the basket screen query the basket of an account. -/
inductive BasketQuery where
  | addToBasket (item : Item)
  | loadBasket

/-- Three gestures write the item identifiers of a basket. -/
inductive BasketUpdate where
  | addToBasket (itemId : String)
  | deleteRow (itemId : String)
  | emptyTheBasket

/-- A request carries the captured variables that its completion uses. -/
inductive Request where
  | getBaskets (ownerId : String) (completion : BasketQuery)
  | setBasket (name : String) (data : Dictionary)
  | updateBasket (name : String) (values : Dictionary) (completion : BasketUpdate)
  | getItem (name : String) (download : Nat)
  | getUser (userId email : String)
  | setUser (name : String) (data : Dictionary)
  | updateUser (name : String) (values userObject : Dictionary)
  | signIn (email : String)
  | createUser (email : String)

/-- The authentication requests are not answered by the document store. -/
def Request.isAuth : Request → Bool
  | .signIn _ => true
  | .createUser _ => true
  | _ => false

inductive Reply where
  | error
  | done
  | documents (documents : List Dictionary)
  | document (data : Option Dictionary)
  | account (uid : String) (isEmailVerified : Bool)

/-- The server applies one request atomically and reads the documents as they stand. -/
def Store.answer (store : Store) : Request → Store × Reply
  | .getBaskets ownerId _ => (store, .documents ((store.basketsOf ownerId).map Prod.snd))
  | .setBasket name data => (store.setData .basket name data, .done)
  | .updateBasket name values _ =>
      match store.updateData .basket name values with
      | none => (store, .error)
      | some next => (next, .done)
  | .getItem name _ => (store, .document (store.data .items name))
  | .getUser userId _ => (store, .document (store.data .user userId))
  | .setUser name data => (store.setData .user name data, .done)
  | .updateUser name values _ =>
      match store.updateData .user name values with
      | none => (store, .error)
      | some next => (next, .done)
  | .signIn _ | .createUser _ => (store, .error)

@[simp] theorem Store.data_setData_same (store : Store) (collection : FCollectionReference)
    (name : String) (data : Dictionary) :
    (store.setData collection name data).data collection name = some data := by
  simp [Store.data, Store.setData]

theorem Store.data_setData_other (store : Store) {collection other : FCollectionReference}
    {name otherName : String} (data : Dictionary)
    (different : other ≠ collection ∨ otherName ≠ name) :
    (store.setData collection name data).data other otherName = store.data other otherName := by
  by_cases same : other = collection
  · subst same
    simp [Store.data, Store.setData, Documents.get?_set_other (different.resolve_left (by simp))]
  · simp [Store.data, Store.setData, Function.update_of_ne same]

theorem Store.mem_basketsOf {store : Store} {ownerId name : String} {data : Dictionary} :
    (name, data) ∈ store.basketsOf ownerId ↔ store.data .basket name = some data ∧ Owned ownerId data :=
  Documents.mem_filter

/-- A property of the listed documents holds of every document that a read finds. -/
theorem Store.forall_data {store : Store} {collection : FCollectionReference}
    {property : String → Dictionary → Prop}
    (all : ∀ entry ∈ (store collection).entries, property entry.1 entry.2) (name : String) (data : Dictionary)
    (found : store.data collection name = some data) : property name data :=
  all (name, data) (Documents.get?_eq_some.mp found)

/-- A request changes at most the user document that it names. -/
def Request.onUser (userId : String) (data : Option Dictionary) : Request → Option Dictionary
  | .setUser name written => if name = userId then some written else data
  | .updateUser name values _ => if name = userId then data.map fun old => old.patch values else data
  | _ => data

/-- A request changes at most the basket document that it names. -/
def Request.onBasket (basketId : String) (data : Option Dictionary) : Request → Option Dictionary
  | .setBasket name written => if name = basketId then some written else data
  | .updateBasket name values _ =>
      if name = basketId then data.map fun old => old.patch values else data
  | _ => data

theorem Store.data_setData (store : Store) (collection other : FCollectionReference)
    (name otherName : String) (data : Dictionary) :
    (store.setData collection name data).data other otherName =
      if other = collection ∧ otherName = name then some data else store.data other otherName := by
  by_cases same : other = collection ∧ otherName = name
  · rw [if_pos same, same.1, same.2, data_setData_same]
  · rw [if_neg same, data_setData_other store data (not_and_or.mp same)]

/-- The update of a missing document leaves every document as it is. -/
theorem Store.data_updateData (store : Store) (collection other : FCollectionReference)
    (name otherName : String) (values : Dictionary) :
    ((store.updateData collection name values).getD store).data other otherName =
      if other = collection ∧ otherName = name then
        (store.data collection name).map fun old => old.patch values
      else store.data other otherName := by
  unfold updateData
  cases found : store.data collection name with
  | none =>
      by_cases same : other = collection ∧ otherName = name
      · rw [if_pos same, same.1, same.2]
        exact found
      · rw [if_neg same]
        rfl
  | some old => exact store.data_setData collection other name otherName (old.patch values)

theorem Store.answer_updateUser (store : Store) (name : String) (values userObject : Dictionary) :
    (store.answer (.updateUser name values userObject)).1 = (store.updateData .user name values).getD store := by
  unfold answer
  cases written : store.updateData .user name values <;> simp [written]

theorem Store.answer_updateBasket (store : Store) (name : String) (values : Dictionary)
    (completion : BasketUpdate) :
    (store.answer (.updateBasket name values completion)).1 =
      (store.updateData .basket name values).getD store := by
  unfold answer
  cases written : store.updateData .basket name values <;> simp [written]

/-- The server changes the user documents as the request says. -/
theorem Store.answer_user (store : Store) (request : Request) (userId : String) :
    (store.answer request).1.data .user userId = request.onUser userId (store.data .user userId) := by
  cases request with
  | setUser name data => simp [answer, data_setData, Request.onUser, eq_comm]
  | updateUser name values userObject =>
      rw [answer_updateUser, data_updateData]
      by_cases same : name = userId
      · simp [Request.onUser, same]
      · simp [Request.onUser, same, Ne.symm same]
  | setBasket name data => simp [answer, data_setData, Request.onUser]
  | updateBasket name values completion =>
      rw [answer_updateBasket, data_updateData]
      rfl
  | _ => rfl

/-- The server changes the basket documents as the request says. -/
theorem Store.answer_basket (store : Store) (request : Request) (basketId : String) :
    (store.answer request).1.data .basket basketId =
      request.onBasket basketId (store.data .basket basketId) := by
  cases request with
  | setBasket name data => simp [answer, data_setData, Request.onBasket, eq_comm]
  | updateBasket name values completion =>
      rw [answer_updateBasket, data_updateData]
      by_cases same : name = basketId
      · simp [Request.onBasket, same]
      · simp [Request.onBasket, same, Ne.symm same]
  | setUser name data => simp [answer, data_setData, Request.onBasket]
  | updateUser name values userObject =>
      rw [answer_updateUser, data_updateData]
      rfl
  | _ => rfl

/-- A user document after the answer was there before, or the request created or updated it. -/
theorem Store.answer_user_cases {store : Store} {request : Request} {userId : String} {record : Dictionary}
    (stored : (store.answer request).1.data .user userId = some record) :
    store.data .user userId = some record ∨ request = .setUser userId record ∨
      ∃ values userObject old, request = .updateUser userId values userObject ∧
        store.data .user userId = some old ∧ record = old.patch values := by
  rw [answer_user] at stored
  cases request with
  | setUser name data =>
      simp only [Request.onUser] at stored
      split at stored
      · rename_i same
        exact .inr (.inl (same ▸ Option.some.inj stored ▸ rfl))
      · exact .inl stored
  | updateUser name values userObject =>
      simp only [Request.onUser] at stored
      split at stored
      · rename_i same
        obtain ⟨old, present, updated⟩ := Option.map_eq_some_iff.mp stored
        exact .inr (.inr ⟨values, userObject, old, same ▸ rfl, present, updated.symm⟩)
      · exact .inl stored
  | _ => exact .inl stored

/-- A basket document after the answer was there before, or the request created or updated it. -/
theorem Store.answer_basket_cases {store : Store} {request : Request} {basketId : String} {data : Dictionary}
    (stored : (store.answer request).1.data .basket basketId = some data) :
    store.data .basket basketId = some data ∨ request = .setBasket basketId data ∨
      ∃ values completion old, request = .updateBasket basketId values completion ∧
        store.data .basket basketId = some old ∧ data = old.patch values := by
  rw [answer_basket] at stored
  cases request with
  | setBasket name written =>
      simp only [Request.onBasket] at stored
      split at stored
      · rename_i same
        exact .inr (.inl (same ▸ Option.some.inj stored ▸ rfl))
      · exact .inl stored
  | updateBasket name values completion =>
      simp only [Request.onBasket] at stored
      split at stored
      · rename_i same
        obtain ⟨old, present, updated⟩ := Option.map_eq_some_iff.mp stored
        exact .inr (.inr ⟨values, completion, old, same ▸ rfl, present, updated.symm⟩)
      · exact .inl stored
  | _ => exact .inl stored

/-- A basket document is absent after the answer when it was absent before and the request does not create it. -/
theorem Store.answer_basket_eq_none {store : Store} {request : Request} {basketId : String} :
    (store.answer request).1.data .basket basketId = none ↔
      store.data .basket basketId = none ∧ ∀ data, request ≠ .setBasket basketId data := by
  rw [answer_basket]
  cases request with
  | setBasket name data =>
      simp only [Request.onBasket]
      split
      · rename_i same
        simp [same]
      · rename_i other
        simp [other]
  | updateBasket name values completion =>
      simp only [Request.onBasket]
      split <;> simp
  | _ => simp [Request.onBasket]

/-- No request changes the documents of the other collections. -/
theorem Store.answer_other (store : Store) (request : Request) {collection : FCollectionReference}
    (user : collection ≠ .user) (basket : collection ≠ .basket) (name : String) :
    (store.answer request).1.data collection name = store.data collection name := by
  cases request with
  | setBasket created data => simp [answer, data_setData, basket]
  | setUser userId data => simp [answer, data_setData, user]
  | updateBasket updated values completion =>
      rw [answer_updateBasket, data_updateData, if_neg fun same => basket same.1]
  | updateUser userId values userObject =>
      rw [answer_updateUser, data_updateData, if_neg fun same => user same.1]
  | _ => rfl

/-- No request changes the item documents. -/
theorem Store.answer_items (store : Store) (request : Request) (itemId : String) :
    (store.answer request).1.data .items itemId = store.data .items itemId :=
  store.answer_other request (by decide) (by decide) itemId

/-- An update of a user leaves the baskets of each owner. -/
theorem Store.basketsOf_updateUser (store : Store) (name ownerId : String) (values userObject : Dictionary) :
    (store.answer (.updateUser name values userObject)).1.basketsOf ownerId = store.basketsOf ownerId := by
  rw [answer_updateUser]
  unfold updateData
  cases store.data .user name <;> rfl

/-- A new basket document joins the baskets of its owner. -/
theorem Store.basketsOf_setData_absent {store : Store} {name ownerId : String} {data : Dictionary}
    (absent : store.data .basket name = none) :
    ((store.setData .basket name data).basketsOf ownerId).Perm
      (if Owned ownerId data then (name, data) :: store.basketsOf ownerId else store.basketsOf ownerId) := by
  unfold basketsOf setData
  rw [Function.update_self]
  exact Documents.filter_set_absent absent

/-- A created document joins the baskets of the account. -/
theorem Store.basketsOf_create {store : Store} (uid itemId : String) {name : String}
    (fresh : store.data .basket name = none) :
    ((store.answer (.setBasket name (basketDictionaryFrom ⟨some name, some uid, some [itemId]⟩))).1.basketsOf
      uid).Perm
      ((name, basketDictionaryFrom ⟨some name, some uid, some [itemId]⟩) :: store.basketsOf uid) := by
  have owned : Owned uid (basketDictionaryFrom ⟨some name, some uid, some [itemId]⟩) := rfl
  exact (basketsOf_setData_absent fresh).trans (by rw [if_pos owned])

/-- A written basket document stays in its place while its owner stays the same. -/
theorem Store.basketsOf_setData_present {store : Store} {name ownerId : String} {old data : Dictionary}
    (present : store.data .basket name = some old) (same : Owned ownerId data ↔ Owned ownerId old) :
    (store.setData .basket name data).basketsOf ownerId =
      (store.basketsOf ownerId).map fun entry => if entry.1 = name then (name, data) else entry := by
  unfold basketsOf setData
  rw [Function.update_self]
  exact Documents.filter_set_present present same

/-- The update of the items keeps the owner. -/
theorem owned_patch_itemIdsValues {ownerId : String} {data : Dictionary} {itemIds : List String} :
    Owned ownerId (data.patch (itemIdsValues itemIds)) ↔ Owned ownerId data := Iff.rfl

/-- The update of the items keeps the baskets of each owner in their places. -/
theorem Store.basketsOf_updateBasket (store : Store) (name ownerId : String) (itemIds : List String)
    (completion : BasketUpdate) :
    (store.answer (.updateBasket name (itemIdsValues itemIds) completion)).1.basketsOf ownerId =
      (store.basketsOf ownerId).map fun entry =>
        if entry.1 = name then (name, entry.2.patch (itemIdsValues itemIds)) else entry := by
  rw [answer_updateBasket]
  unfold updateData
  cases found : store.data .basket name with
  | none =>
      have others : ∀ entry ∈ store.basketsOf ownerId, entry.1 ≠ name := by
        intro entry member atName
        have present := (mem_basketsOf.mp (show (entry.1, entry.2) ∈ _ from member)).1
        rw [atName, found] at present
        cases present
      rw [List.map_congr_left fun entry member => if_neg (others entry member), List.map_id']
      rfl
  | some old =>
      refine (basketsOf_setData_present found owned_patch_itemIdsValues).trans ?_
      apply List.map_congr_left
      intro entry member
      by_cases atName : entry.1 = name
      · have present := (mem_basketsOf.mp (show (entry.1, entry.2) ∈ _ from member)).1
        rw [atName, found] at present
        rw [if_pos atName, if_pos atName, Option.some.inj present]
      · rw [if_neg atName, if_neg atName]

end ShoppingApp
