import ShoppingApp.Model.Category
import ShoppingApp.Model.Search

namespace ShoppingApp

/-- This is the one variable of `CategoryCollectionViewController`. -/
structure CategoryScreen where
  device : Nat
  categoryArray : List Category := []

/-- These are the variables of `ItemsTableViewController`. -/
structure ItemsTable where
  device : Nat
  category : Option Category
  itemArray : List Item := []

/-- This is the variable of `PurchasedHistoryTableViewController` and what its downloads share with their callbacks. -/
structure PurchasedHistory where
  device : Nat
  itemArray : List Item := []
  downloads : List ItemDownload := []

/-- An item screen was opened for one item of a list. -/
structure ItemView where
  device : Nat
  item : Item

/-- A screen asks for the categories, for the items of a category, or for one bought item. -/
inductive BrowseRequest where
  | getCategories (screen : Nat)
  | getItems (table : Nat) (categoryId : String)
  | getItem (history download : Nat) (name : String)

inductive BrowseReply where
  | failed
  | documents (documents : List Dictionary)
  | document (read : DocumentRead)

structure BrowseFlight where
  request : BrowseRequest
  reply : Option BrowseReply

/-- An item document is in the category that its field names. -/
def InCategory (categoryId : String) (data : Dictionary) : Prop := data .categoryId = some (.string categoryId)

instance (categoryId : String) (data : Dictionary) : Decidable (InCategory categoryId data) :=
  inferInstanceAs (Decidable (_ = _))

/-- The query `whereField(kCATEGORYID, isEqualTo:)` lists the matches in the order of their names. -/
def Store.itemsOf (store : Store) (categoryId : String) : List (String × Dictionary) :=
  (store .items).filter (InCategory categoryId)

/-- The server answers a query or a read from its documents as they stand. -/
def Store.browse (store : Store) : BrowseRequest → BrowseReply
  | .getCategories _ => .documents ((store .category).entries.map Prod.snd)
  | .getItems _ categoryId => .documents ((store.itemsOf categoryId).map Prod.snd)
  | .getItem _ _ name => .document (store.readItem name)

/-- This is the completion in `loadCategories`: a document that does not decode stops the application, and a failed
query shows no category. -/
def CategoryScreen.categoriesCompletion (reply : BrowseReply) (screen : CategoryScreen) : Option CategoryScreen :=
  match reply with
  | .documents documents =>
      (documents.mapM Category.ofDictionary).map fun categoryArray => { screen with categoryArray := categoryArray }
  | _ => some { screen with categoryArray := [] }

/-- This is the completion in `loadItems` of the items table. -/
def ItemsTable.itemsCompletion (reply : BrowseReply) (table : ItemsTable) : ItemsTable :=
  match reply with
  | .documents documents => { table with itemArray := documents.map Item.ofDictionary }
  | _ => { table with itemArray := [] }

namespace PurchasedHistory

/-- The completion runs once for each delivered array. -/
def deliver (delivered : List (List Item)) (history : PurchasedHistory) : PurchasedHistory :=
  delivered.foldl (fun history allItems => { history with itemArray := allItems }) history

/-- One read is issued for each identifier, and an empty list is delivered at once. -/
def downloadItemsFromFirebase (own : Nat) (withIds : List String) (history : PurchasedHistory) :
    PurchasedHistory × List BrowseRequest :=
  if 0 < withIds.length then
    ({ history with downloads := history.downloads ++ [{ withIds := withIds }] },
      withIds.map fun itemId => .getItem own history.downloads.length itemId)
  else (history.deliver [[]], [])

/-- This is the callback of one item read. -/
def itemCompletion (download : Nat) (read : DocumentRead) (history : PurchasedHistory) : PurchasedHistory :=
  match history.downloads[download]? with
  | none => history
  | some shared =>
      { history with downloads := history.downloads.set download (shared.receive read).1 }.deliver
        (shared.receive read).2

end PurchasedHistory

/-- These are the text fields of `FinishRegistrationViewController` and its Done button, which starts disabled. -/
structure FinishRegistration where
  nameTextField : String := ""
  surnameTextField : String := ""
  addressTextField : String := ""
  doneButton : Bool := false

/-- Every edit of a field updates the button. -/
def FinishRegistration.textFieldDidChange (name surname address : String) : FinishRegistration where
  nameTextField := name
  surnameTextField := surname
  addressTextField := address
  doneButton := name ≠ "" && surname ≠ "" && address ≠ ""

/-- The profile tab shows its root or one of the three screens that are opened from it. -/
inductive ProfilePage where
  | profile
  | editProfile
  | finishRegistration (form : FinishRegistration)
  | purchasedHistory (history : Nat)

/-- These are the buttons of `ProfileTableViewController` and the page of its tab. -/
structure ProfileTab where
  editBarButton : String
  finishRegistrationTitle : String
  finishRegistrationButton : Bool
  purchaseHistoryButton : Bool
  page : ProfilePage := .profile

/-- This is `viewDidAppear` with `checkLoginStatus` and `checkOnboardingStatus`. -/
def ProfileTab.ofUser : Option MUser → ProfileTab
  | some user =>
      { editBarButton := "Edit"
        finishRegistrationTitle := if user.onBoard then "Account is Active" else "Finish registration"
        finishRegistrationButton := !user.onBoard
        purchaseHistoryButton := true }
  | none =>
      { editBarButton := "Login"
        finishRegistrationTitle := "Logged out"
        finishRegistrationButton := false
        purchaseHistoryButton := false }

/-- The edited form has an enabled button exactly if all of its fields have text. -/
theorem FinishRegistration.doneButton_textFieldDidChange (name surname address : String) :
    (textFieldDidChange name surname address).doneButton = true ↔ name ≠ "" ∧ surname ≠ "" ∧ address ≠ "" := by
  simp [textFieldDidChange, and_assoc]

theorem Store.mem_itemsOf {store : Store} {categoryId name : String} {data : Dictionary} :
    (name, data) ∈ store.itemsOf categoryId ↔ store.data .items name = some data ∧ InCategory categoryId data :=
  Documents.mem_filter

/-- The history reads the items of the identifiers. -/
theorem PurchasedHistory.mem_downloadItems {own : Nat} {withIds : List String} {history : PurchasedHistory}
    {request : BrowseRequest} (issued : request ∈ (history.downloadItemsFromFirebase own withIds).2) :
    ∃ itemId ∈ withIds, request = .getItem own history.downloads.length itemId := by
  unfold downloadItemsFromFirebase at issued
  split at issued
  · obtain ⟨itemId, inside, rfl⟩ := List.mem_map.mp issued
    exact ⟨itemId, inside, rfl⟩
  · cases issued

/-- The delivered arrays change the rows alone. -/
theorem PurchasedHistory.deliver_eq (delivered : List (List Item)) (history : PurchasedHistory) :
    history.deliver delivered = { history with itemArray := delivered.getLast?.getD history.itemArray } := by
  induction delivered generalizing history with
  | nil => rfl
  | cons items rest ih =>
      have later := ih { history with itemArray := items }
      unfold deliver at later ⊢
      rw [List.foldl_cons, later]
      cases rest with
      | nil => rfl
      | cons next others => rw [List.getLast?_cons_cons, List.getLast?_cons, Option.getD_some, Option.getD_some]

end ShoppingApp
