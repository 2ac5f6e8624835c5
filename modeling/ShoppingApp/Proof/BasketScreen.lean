import ShoppingApp.Library.Pool
import ShoppingApp.Proof.ItemDownload
import ShoppingApp.Proof.PurchaseHistory
import ShoppingApp.Proof.ScreenHandlers

namespace ShoppingApp

/-- An absent basket has no items. -/
def Basket.ids (basket : Option Basket) : List String := (basket.bind fun basket => basket.itemIds).getD []

/-- The screen treats an account as signed in when there is a current user. -/
def Device.account (device : Device) : Option String := device.currentUser.join.bind fun _ => device.auth

theorem Device.account_congr {before after : Device} (auth : after.auth = before.auth)
    (defaults : after.defaults = before.defaults) : after.account = before.account := by
  unfold account currentUser
  rw [auth, defaults]

/-- The items of the basket that a query for the account finds. -/
def Store.heldIds (store : Store) (account : Option String) : List String :=
  Basket.ids ((account.bind fun uid => (store.basketsOf uid).head?).map fun entry => Basket.ofDictionary entry.2)

def Request.isLoad : Request → Bool
  | .getBaskets _ .loadBasket => true
  | _ => false

def Request.isItemRead : Request → Bool
  | .getItem _ _ => true
  | _ => false

def Request.isBasketWrite : Request → Bool
  | .setBasket _ _ | .updateBasket _ _ _ => true
  | _ => false

/-- The screen waits for its basket. -/
def Flight.Loads (number : Nat) (flight : Flight) : Prop := flight.device = number ∧ flight.request.isLoad = true

/-- The screen waits for an item. -/
def Flight.ReadsItem (number : Nat) (flight : Flight) : Prop :=
  flight.device = number ∧ flight.request.isItemRead = true

/-- The server has not yet applied the write of a basket. -/
def Flight.WritesBasket (flight : Flight) : Prop := flight.reply.isNone = true ∧ flight.request.isBasketWrite = true

instance (number : Nat) (flight : Flight) : Decidable (flight.Loads number) := inferInstanceAs (Decidable (_ ∧ _))
instance (number : Nat) (flight : Flight) : Decidable (flight.ReadsItem number) := inferInstanceAs (Decidable (_ ∧ _))
instance (flight : Flight) : Decidable flight.WritesBasket := inferInstanceAs (Decidable (_ ∧ _))

/-- The name of the item that the flight reads for a download. -/
def Flight.readFor (number download : Nat) (flight : Flight) : Option String :=
  match flight.request with
  | .getItem name shared => if flight.device = number ∧ shared = download then some name else none
  | _ => none

/-- The reply to an item read of the device is the document of the item. -/
def Flight.FindsItem (number : Nat) (store : Store) (flight : Flight) : Prop :=
  match flight.request, flight.reply with
  | .getItem name _, some reply => flight.device = number → ∃ data, reply = .document (some data) ∧
      store.data .items name = some data ∧ data.read Value.asString .objectId = some name
  | _, _ => True

/-- The basket screen appears, or what it has to show changes from outside. -/
inductive ScreenMark where
  | appeared
  | changed
  deriving DecidableEq

/-- The screen has appeared since the last change. -/
def Appeared (past : List ScreenMark) : Prop := past.getLast? = some .appeared

instance (past : List ScreenMark) : Decidable (Appeared past) := inferInstanceAs (Decidable (_ = _))

/-- The item document of the request exists. -/
def Request.Finds (store : Store) : Request → Prop
  | .getItem name _ => store.Sells name
  | _ => True

namespace World

/-- The step changes the session of the device, or it adds an item for the account of the device. -/
def changesBasket (number : Nat) (world : World) (event : Event) : Bool :=
  (world.step event).any (fun next => decide ((next.devices number).account ≠ (world.devices number).account)) ||
    match event with
    | .gesture device (.addToBasket _) => (world.devices number).account.any fun uid =>
        decide ((world.devices device).account = some uid)
    | _ => false

/-- The step is an appearance of the basket screen, or it changes what the screen has to show. -/
def mark (number : Nat) (world : World) (event : Event) : List ScreenMark :=
  if world.changesBasket number event then [.changed]
  else match event with
    | .gesture device .viewDidAppear => if device = number then [.appeared] else []
    | _ => []

/-- The rows are the items of the basket of the account, and there are none without an account or a basket. -/
def ShowsBasket (number : Nat) (world : World) : Prop :=
  (world.devices number).rowIds.Perm ((world.store.heldIds (world.devices number).account).map some)

/-- The item documents that are read exist. -/
def SellsRead (world : World) : Event → Prop
  | .serve index _ => ∀ flight ∈ world.flights[index]?, flight.request.Finds world.store
  | .gesture _ _ | .callback _ _ => True

/-- The last load brings the basket that the server holds and meets no rows when there is none, and the last item
read belongs to the copy. -/
def BringsCurrent (number index : Nat) (world : World) : Request → Reply → Prop
  | .getBaskets _ .loadBasket, reply =>
      ((∃ other ∈ world.flights, other.WritesBasket) ∨
        (Basket.ids reply.basket).Perm (world.store.heldIds (world.devices number).account)) ∧
      (reply.basket = none → (world.devices number).screen.allItems = [])
  | .getItem _ download, _ =>
      (∃ other ∈ world.flights.eraseIdx index, other.ReadsItem number) ∨
        ∀ shared ∈ (world.devices number).downloads[download]?,
          shared.withIds.Perm (Basket.ids (world.devices number).screen.basket)
  | _, _ => True

/-- The screen appears blank without a user, it gets current answers, and the last write of a basket leaves the items
of the copy. -/
def StaysCurrent (number : Nat) (world : World) : Event → Prop
  | .gesture device .viewDidAppear => device = number → (world.devices number).account = none →
      (∃ flight ∈ world.flights, flight.Loads number) ∨
        (world.devices number).screen.allItems = [] ∧ Basket.ids (world.devices number).screen.basket = []
  | .gesture _ _ => True
  | .serve index _ => ∀ flight ∈ world.flights[index]?, flight.WritesBasket →
      (∃ other ∈ world.flights, other.Loads number) ∨
        (∃ other ∈ world.flights.eraseIdx index, other.WritesBasket) ∨
          (Basket.ids (world.devices number).screen.basket).Perm
            ((world.store.answer flight.request).1.heldIds (world.devices number).account)
  | .callback index _ => ∀ flight ∈ world.flights[index]?, ∀ reply ∈ flight.reply, flight.device = number →
      (∃ other ∈ world.flights.eraseIdx index, other.Loads number) ∨
        world.BringsCurrent number index flight.request reply

/-- The names of the items that a download still waits for. -/
def awaitedItems (number download : Nat) (world : World) : List String :=
  world.flights.filterMap (Flight.readFor number download)

/-- Every download of the device collects its items. -/
structure Collecting (number : Nat) (world : World) : Prop where
  replies : ∀ flight ∈ world.flights, flight.FindsItem number world.store
  downloads : ∀ download, world.awaitedItems number download ≠ [] → ∃ shared,
    (world.devices number).downloads[download]? = some shared ∧
      shared.Collects world.store shared.withIds (world.awaitedItems number download)

/-- The copy goes to the items on the server, and the rows go to the copy. -/
structure Settles (number : Nat) (world : World) : Prop where
  synced : (∃ flight ∈ world.flights, flight.Loads number) ∨ (∃ flight ∈ world.flights, flight.WritesBasket) ∨
    (Basket.ids (world.devices number).screen.basket).Perm (world.store.heldIds (world.devices number).account)
  shown : (∃ flight ∈ world.flights, flight.Loads number) ∨ (∃ flight ∈ world.flights, flight.ReadsItem number) ∨
    (world.devices number).rowIds.Perm ((Basket.ids (world.devices number).screen.basket).map some)

end World

/-- The handler starts no download, or it starts one for some items. -/
inductive Outcome.Downloads (device : Device) (outcome : Outcome) : Prop where
  | idle (downloads : outcome.device.downloads = device.downloads)
      (unread : ∀ request ∈ outcome.issued, request.isItemRead = false)
  | starts {itemIds : List String} {written : List Request} (some : itemIds ≠ [])
      (downloads : outcome.device.downloads = device.downloads ++ [{ withIds := itemIds }])
      (unread : ∀ request ∈ written, request.isItemRead = false)
      (issued : outcome.issued = written ++ itemIds.map fun itemId => .getItem itemId device.downloads.length)

/-- A write before the reads starts no download. -/
theorem Outcome.Downloads.cons {device edited : Device} {outcome : Outcome} {request : Request}
    (downloads : Downloads edited outcome) (same : edited.downloads = device.downloads)
    (write : request.isItemRead = false) : Downloads device ⟨outcome.device, request :: outcome.issued⟩ := by
  have unreadable {written : List Request} (unread : ∀ other ∈ written, other.isItemRead = false) :
      ∀ other ∈ request :: written, other.isItemRead = false := by
    intro other member
    rcases List.mem_cons.mp member with rfl | member
    · exact write
    · exact unread other member
  cases downloads with
  | idle kept unread => exact .idle (kept.trans same) (unreadable unread)
  | starts some started unread issued =>
      rw [same] at started issued
      refine .starts some started (unreadable unread) ?_
      rw [issued, List.cons_append]

namespace Device

variable {device : Device}

/-- The reload does nothing without a copy, it shows an empty copy, and it starts a download for the items of
another one. -/
theorem getBasketItems_cases (running : device.getBasketItems.device.trapped = false) :
    (device.screen.basket = none ∧ device.getBasketItems = device.done) ∨
      (Basket.ids device.screen.basket = [] ∧ device.getBasketItems = device.showItems []) ∨
      (Basket.ids device.screen.basket ≠ [] ∧ device.getBasketItems =
        ⟨{ device with downloads := device.downloads ++ [{ withIds := Basket.ids device.screen.basket }] },
          (Basket.ids device.screen.basket).map fun itemId => .getItem itemId device.downloads.length⟩) := by
  unfold getBasketItems at running ⊢
  cases copy : device.screen.basket with
  | none => exact .inl ⟨rfl, rfl⟩
  | some basket =>
      rw [copy] at running
      dsimp only at running ⊢
      cases hasItems : basket.itemIds with
      | none =>
          rw [hasItems] at running
          cases running
      | some itemIds =>
          have ids : Basket.ids (some basket) = itemIds := by simp [Basket.ids, hasItems]
          rw [ids]
          dsimp only
          unfold downloadItemsFromFirebase
          split
          · rename_i some
            exact .inr (.inr ⟨List.length_pos_iff.mp some, rfl⟩)
          · rename_i empty
            exact .inr (.inl ⟨List.length_eq_zero_iff.mp (Nat.eq_zero_of_not_pos empty), rfl⟩)

theorem showItems_empty (device : Device) :
    (device.showItems []).device.rowIds = [] ∧ (device.showItems []).device.downloads = device.downloads ∧
      (device.showItems []).device.screen.basket = device.screen.basket ∧ (device.showItems []).issued = [] := by
  rw [rowIds, showItems_device]
  exact ⟨rfl, rfl, rfl, device.showItems_issued []⟩

theorem getBasketItems_downloads (running : device.getBasketItems.device.trapped = false) :
    Outcome.Downloads device device.getBasketItems := by
  obtain ⟨_, same⟩ | ⟨_, same⟩ | ⟨some, same⟩ := getBasketItems_cases running
  · rw [same]
    exact .idle rfl fun request member => absurd member List.not_mem_nil
  · obtain ⟨_, downloads, _, silent⟩ := device.showItems_empty
    rw [same]
    exact .idle downloads fun request member => absurd (silent ▸ member) List.not_mem_nil
  · rw [same]
    exact .starts some rfl (fun request member => absurd member List.not_mem_nil) (List.nil_append _).symm

/-- The reload of a copy reads its items, or it leaves the rows of an empty copy. -/
theorem getBasketItems_shown (running : device.getBasketItems.device.trapped = false)
    (copy : device.screen.basket ≠ none) :
    (∃ request ∈ device.getBasketItems.issued, request.isItemRead = true) ∨
      device.getBasketItems.device.rowIds.Perm ((Basket.ids device.screen.basket).map some) := by
  obtain ⟨absent, _⟩ | ⟨empty, same⟩ | ⟨some, same⟩ := getBasketItems_cases running
  · exact absurd absent copy
  · right
    rw [same, device.showItems_empty.1, empty]
    exact List.Perm.refl _
  · left
    rw [same]
    obtain ⟨itemId, rest, cons⟩ := List.exists_cons_of_ne_nil some
    exact ⟨.getItem itemId device.downloads.length, by simp [cons], rfl⟩

end Device

/-- A gesture keeps the rows and the copy, or it writes a copy and brings its rows. -/
structure Outcome.WritesCopy (device : Device) (outcome : Outcome) : Prop where
  writes : ∃ request ∈ outcome.issued, request.isBasketWrite = true
  shown : (∃ request ∈ outcome.issued, request.isItemRead = true) ∨
    outcome.device.rowIds.Perm ((Basket.ids outcome.device.screen.basket).map some)

/-- The handler keeps the rows and the copy. -/
structure Outcome.KeepsScreen (device : Device) (outcome : Outcome) : Prop where
  rows : outcome.device.rowIds = device.rowIds
  copy : outcome.device.screen.basket = device.screen.basket

theorem Device.deleteRow_writesCopy {device : Device} {row : Nat} (running : device.trapped = false)
    (alive : (device.deleteRow row).device.trapped = false) :
    Outcome.Downloads device (device.deleteRow row) ∧ Outcome.WritesCopy device (device.deleteRow row) := by
  rcases device.deleteRow_device row running with
    stopped | ⟨item, itemId, basket, name, itemIds, present, hasId, hasBasket, hasName, hasItems, member, _⟩
  · rw [stopped] at alive
    cases alive
  · have same := deleteRow_eq running present hasId hasBasket hasItems hasName member
    rw [same] at alive ⊢
    generalize shorter : ({ device with screen :=
      { device.screen with
        allItems := device.screen.allItems.eraseIdx row
        basket := some { basket with itemIds := some (itemIds.erase itemId) } } } : Device) = edited at alive ⊢
    have downloads : edited.downloads = device.downloads := by rw [← shorter]
    have copy : edited.screen.basket ≠ none := by
      rw [← shorter]
      exact Option.some_ne_none _
    refine ⟨?_, ⟨_, List.mem_cons_self, rfl⟩, ?_⟩
    · exact (Device.getBasketItems_downloads alive).cons downloads rfl
    · rw [edited.getBasketItems_reads.keeps.basket]
      rcases Device.getBasketItems_shown alive copy with ⟨request, member, reads⟩ | rows
      · exact .inl ⟨request, List.mem_cons_of_mem _ member, reads⟩
      · exact .inr rows

theorem Outcome.Stays.downloads {device : Device} {outcome : Outcome} (stays : Stays device outcome) :
    outcome.device.downloads = device.downloads := by
  rcases stays with same | same <;> rw [same]

/-- The payment clears the rows and the copy, and it writes the copy. -/
theorem Device.payPalPaymentDidComplete_writesCopy {device : Device} (running : device.trapped = false)
    (alive : device.payPalPaymentDidComplete.device.trapped = false) :
    device.payPalPaymentDidComplete.device.downloads = device.downloads ∧
      Outcome.WritesCopy device device.payPalPaymentDidComplete := by
  rcases device.payPalPaymentDidComplete_device running with
    ⟨stopped, _⟩ | ⟨current, basket, name, hasBasket, hasName, same⟩
  · rw [stopped] at alive
    cases alive
  · let dismissed : Device := { device with screen := { device.screen with payment := none } }
    have recorded := dismissed.addItemsToPurchaseHistory_device device.screen.purchasedItemIds
    rw [if_neg (show ¬ dismissed.currentUser = none from current)] at recorded
    have recording : (dismissed.addItemsToPurchaseHistory device.screen.purchasedItemIds).device.trapped = false := by
      rw [recorded]
      exact running
    refine ⟨by rw [same], ⟨.updateBasket name (itemIdsValues []) .emptyTheBasket, ?_, rfl⟩, .inr ?_⟩
    · rw [payPalPaymentDidComplete, Outcome.andThen_of_running recording, recorded]
      apply List.mem_append_right
      simp [emptyTheBasket, dismissed, hasBasket, updateBasketInFirestore, hasName, issue]
    · rw [rowIds, same]
      exact List.Perm.refl _

theorem Device.checkOutButtonWasTapped_downloads (device : Device) (processable : Bool) :
    (device.checkOutButtonWasTapped processable).device.downloads = device.downloads := by
  unfold checkOutButtonWasTapped withCurrentUser
  split
  · rfl
  · rfl
  · dsimp only
    split
    · unfold payButtonPressed
      split <;> rfl
    · rfl

/-- The appearance asks for the basket and leaves the screen to the answer. -/
theorem Device.viewDidAppear_screen (device : Device) :
    device.viewDidAppear.device.downloads = device.downloads ∧ Outcome.KeepsScreen device device.viewDidAppear := by
  unfold viewDidAppear withCurrentUser
  split
  · exact ⟨rfl, rfl, rfl⟩
  · unfold updateTotalLabels
    dsimp only
    split
    · exact ⟨rfl, rfl, rfl⟩
    · exact ⟨rfl, rfl, rfl⟩
  · have stays := device.loadBasketFromFirestore_stays
    refine ⟨stays.downloads, ?_, by rw [stays.screen]⟩
    rw [rowIds, stays.screen, rowIds]

/-- A gesture keeps the rows and the copy, or it writes the copy and brings its rows. -/
theorem Gesture.handle_screen (gesture : Gesture) {device : Device} (running : device.trapped = false)
    (alive : (gesture.handle device).device.trapped = false) :
    Outcome.Downloads device (gesture.handle device) ∧
      (Outcome.KeepsScreen device (gesture.handle device) ∨ Outcome.WritesCopy device (gesture.handle device)) := by
  have unread (other : ∀ row, gesture ≠ .deleteRow row) :
      ∀ request ∈ (gesture.handle device).issued, request.isItemRead = false := by
    intro request member
    cases issues_of_mem member with
    | readItem => exact absurd rfl (other _)
    | _ => rfl
  have leaves (kept : gesture.leavesOffer = true)
      (downloads : (gesture.handle device).device.downloads = device.downloads) :
      Outcome.Downloads device (gesture.handle device) ∧
        (Outcome.KeepsScreen device (gesture.handle device) ∨ Outcome.WritesCopy device (gesture.handle device)) := by
    have keeps := gesture.handle_keepsOffer device kept
    have rows : (gesture.handle device).device.rowIds = device.rowIds := by
      unfold Device.rowIds
      rw [keeps.rows]
    refine ⟨.idle downloads (unread ?_), .inl ⟨rows, keeps.basket⟩⟩
    rintro row rfl
    cases kept
  cases gesture with
  | deleteRow row =>
      obtain ⟨downloads, writes⟩ := Device.deleteRow_writesCopy running alive
      exact ⟨downloads, .inr writes⟩
  | completePayment =>
      obtain ⟨downloads, writes⟩ := Device.payPalPaymentDidComplete_writesCopy running alive
      exact ⟨.idle downloads (unread (by simp)), .inr writes⟩
  | viewDidAppear =>
      obtain ⟨downloads, screen⟩ := device.viewDidAppear_screen
      exact ⟨.idle downloads (unread (by simp)), .inl screen⟩
  | logOut signedOut =>
      cases signedOut with
      | true => exact ⟨.idle rfl (unread (by simp)), .inl ⟨rfl, rfl⟩⟩
      | false => exact ⟨.idle rfl (unread (by simp)), .inl ⟨rfl, rfl⟩⟩
  | addToBasket item => exact leaves rfl (device.addToBasketTapped_stays item).downloads
  | checkOut processable => exact leaves rfl (device.checkOutButtonWasTapped_downloads processable)
  | cancelPayment => exact leaves rfl rfl
  | login email => exact leaves rfl rfl
  | register email => exact leaves rfl rfl
  | saveProfile name surname address =>
      refine leaves rfl ?_
      simp only [handle, Device.saveBarButtonPressed]
      split
      · exact (device.updateCurrentUserInFirestore_stays _).downloads
      · rfl
  | finishOnboarding name surname address => exact leaves rfl (device.updateCurrentUserInFirestore_stays _).downloads
  | updateUser withValues => exact leaves rfl (device.updateCurrentUserInFirestore_stays withValues).downloads

/-- The handler keeps the copy, and it keeps the rows or brings the ones of the copy. -/
structure Outcome.ReloadsCopy (device : Device) (outcome : Outcome) : Prop where
  copy : outcome.device.screen.basket = device.screen.basket
  shown : outcome.device.rowIds = device.rowIds ∨ (∃ request ∈ outcome.issued, request.isItemRead = true) ∨
    outcome.device.rowIds.Perm ((Basket.ids device.screen.basket).map some)

/-- The other completions start no download, but the one that reloads the copy. -/
theorem Request.complete_screen (uuid : String) {request : Request} {reply : Reply} {device : Device}
    (load : request.isLoad = false) (read : request.isItemRead = false)
    (alive : (request.complete uuid reply device).device.trapped = false) :
    Outcome.Downloads device (request.complete uuid reply device) ∧
      Outcome.ReloadsCopy device (request.complete uuid reply device) := by
  have leaves (kept : request.fillsScreen = false)
      (downloads : (request.complete uuid reply device).device.downloads = device.downloads) :
      Outcome.Downloads device (request.complete uuid reply device) ∧
        Outcome.ReloadsCopy device (request.complete uuid reply device) := by
    have keeps := request.complete_keepsOffer uuid reply device kept
    refine ⟨.idle downloads fun issued member => ?_, keeps.basket, .inl ?_⟩
    · cases follows_of_mem member with
      | readLoaded => cases load
      | readEmptied => cases kept
      | _ => rfl
    · unfold Device.rowIds
      rw [keeps.rows]
  cases request with
  | getBaskets owner completion =>
      cases completion with
      | addToBasket item => exact leaves rfl (device.addToBasketCompletion_stays item uuid _).downloads
      | loadBasket => cases load
  | updateBasket name values completion =>
      cases completion with
      | emptyTheBasket =>
          have reads := device.getBasketItems_reads
          refine ⟨Device.getBasketItems_downloads alive, reads.keeps.basket, ?_⟩
          by_cases copy : device.screen.basket = none
          · left
            simp [complete, Device.getBasketItems, copy, Device.done]
          · exact .inr (Device.getBasketItems_shown alive copy)
      | addToBasket itemId => exact leaves rfl rfl
      | deleteRow itemId => exact leaves rfl rfl
  | getItem name download => cases read
  | getUser userId email =>
      cases reply with
      | document data => cases data <;> exact leaves rfl rfl
      | _ => exact leaves rfl rfl
  | updateUser name values userObject => cases reply <;> exact leaves rfl rfl
  | signIn email =>
      cases reply with
      | account uid isEmailVerified => cases isEmailVerified <;> exact leaves rfl rfl
      | _ => exact leaves rfl rfl
  | setBasket name data => exact leaves rfl rfl
  | setUser name data => exact leaves rfl rfl
  | createUser email => exact leaves rfl rfl

/-- The loaded copy reads its items, or it meets its rows. -/
theorem Device.loadBasketCompletion_screen {device : Device} {basket : Option Basket}
    (alive : (device.loadBasketCompletion basket).device.trapped = false) :
    Outcome.Downloads device (device.loadBasketCompletion basket) ∧
      (device.loadBasketCompletion basket).device.screen.basket = basket ∧
      ((basket = none → device.screen.allItems = []) →
        (∃ issued ∈ (device.loadBasketCompletion basket).issued, issued.isItemRead = true) ∨
          (device.loadBasketCompletion basket).device.rowIds.Perm ((Basket.ids basket).map some)) := by
  let loaded : Device := { device with screen := { device.screen with basket := basket } }
  have downloads : Outcome.Downloads loaded (device.loadBasketCompletion basket) := getBasketItems_downloads alive
  have keeps : (device.loadBasketCompletion basket).device.screen.basket = basket :=
    loaded.getBasketItems_reads.keeps.basket
  refine ⟨?_, keeps, fun blank => ?_⟩
  · cases downloads with
    | idle kept unread => exact .idle kept unread
    | starts some started unread issued => exact .starts some started unread issued
  · cases basket with
    | some basket =>
        have reloaded : loaded.getBasketItems.device.trapped = false := alive
        exact getBasketItems_shown reloaded (Option.some_ne_none basket)
    | none =>
        right
        have rows : (device.loadBasketCompletion none).device.rowIds = device.rowIds := rfl
        rw [rows, rowIds, blank rfl]
        exact List.Perm.refl []

/-- Only the writes of baskets change what an account holds. -/
theorem Store.heldIds_answer (store : Store) {request : Request} (account : Option String)
    (other : request.isBasketWrite = false) : (store.answer request).1.heldIds account = store.heldIds account := by
  have same : (store.answer request).1 .basket = store .basket := by
    cases request with
    | setBasket name data => cases other
    | updateBasket name values completion => cases other
    | updateUser name values userObject =>
        rw [answer_updateUser]
        unfold updateData
        cases store.data .user name <;> rfl
    | _ => rfl
  unfold heldIds basketsOf
  rw [same]

theorem Flight.FindsItem.answer {number : Nat} {store : Store} {flight : Flight} (finds : flight.FindsItem number store)
    (request : Request) : flight.FindsItem number (store.answer request).1 := by
  obtain ⟨device, asked, reply⟩ := flight
  cases asked with
  | getItem name download =>
      cases reply with
      | none => trivial
      | some reply =>
          intro onDevice
          obtain ⟨data, same, stored, named⟩ := finds onDevice
          exact ⟨data, same, (store.answer_items request name).trans stored, named⟩
  | _ => trivial

/-- A request that waits for the server has brought nothing yet. -/
theorem Flight.findsItem_of_waiting (number device : Nat) (store : Store) (request : Request) :
    Flight.FindsItem number store ⟨device, request, none⟩ := by
  cases request <;> trivial

theorem Flight.readFor_of_unread {number download device : Nat} {request : Request} {reply : Option Reply}
    (unread : device = number → request.isItemRead = false) :
    Flight.readFor number download ⟨device, request, reply⟩ = none := by
  cases request with
  | getItem name shared =>
      refine if_neg fun same => ?_
      cases unread same.1
  | _ => rfl

theorem Flight.readsItem_of_readFor {number download : Nat} {itemId : String} {flight : Flight}
    (reads : flight.readFor number download = some itemId) : flight.ReadsItem number := by
  obtain ⟨device, request, reply⟩ := flight
  by_contra other
  have unread : device = number → request.isItemRead = false := fun here =>
    Bool.eq_false_iff.mpr fun read => other ⟨here, read⟩
  rw [readFor_of_unread unread] at reads
  cases reads

namespace World

variable {world next : World} {number : Nat}

theorem perform_flights (world : World) {outcome : Outcome} (silent : outcome.issued = []) :
    (world.perform number outcome).flights = world.flights := by
  unfold World.perform
  rw [silent, List.map_nil, List.append_nil]

/-- A request that waits for something still waits after a handler. -/
theorem exists_perform {property : Flight → Prop} {outcome : Outcome}
    (witness : ∃ flight ∈ world.flights, property flight) :
    ∃ flight ∈ (world.perform number outcome).flights, property flight := by
  obtain ⟨flight, member, holds⟩ := witness
  exact ⟨flight, List.mem_append_left _ member, holds⟩

/-- Another device starts no download here. -/
theorem Collecting.perform_other (collecting : world.Collecting number) {other : Nat} {outcome : Outcome}
    (different : other ≠ number) : (world.perform other outcome).Collecting number := by
  have same (download : Nat) : (world.perform other outcome).awaitedItems number download =
      world.awaitedItems number download := by
    refine Pool.filterMap_append_silent _ fun flight member => ?_
    obtain ⟨request, _, rfl⟩ := List.mem_map.mp member
    exact Flight.readFor_of_unread fun here => absurd here different
  refine ⟨forall_perform collecting.replies fun request _ => Flight.findsItem_of_waiting .., fun download waiting => ?_⟩
  rw [same] at waiting ⊢
  rw [world.perform_other outcome (Ne.symm different)]
  exact collecting.downloads download waiting

/-- A handler of the device starts at most one download. -/
theorem Collecting.perform (collecting : world.Collecting number) {outcome : Outcome}
    (downloads : Outcome.Downloads (world.devices number) outcome) :
    (world.perform number outcome).Collecting number := by
  refine ⟨forall_perform collecting.replies fun request _ => Flight.findsItem_of_waiting .., fun download waiting => ?_⟩
  have split : (world.perform number outcome).awaitedItems number download = world.awaitedItems number download ++
      outcome.issued.filterMap fun request => Flight.readFor number download ⟨number, request, none⟩ := by
    unfold awaitedItems World.perform
    rw [List.filterMap_append, List.filterMap_map]
    rfl
  have silent {written : List Request} (unread : ∀ request ∈ written, request.isItemRead = false) :
      (written.filterMap fun request => Flight.readFor number download ⟨number, request, none⟩) = [] :=
    List.filterMap_eq_nil_iff.mpr fun request member => Flight.readFor_of_unread fun _ => unread request member
  rw [split] at waiting ⊢
  rw [perform_devices]
  cases downloads with
  | idle kept unread =>
      rw [silent unread, List.append_nil] at waiting ⊢
      rw [kept]
      exact collecting.downloads download waiting
  | @starts itemIds written some started unread issued =>
      rw [issued, List.filterMap_append, silent unread, List.nil_append, List.filterMap_map] at waiting ⊢
      rw [started]
      by_cases new : download = (world.devices number).downloads.length
      · subst new
        have none : world.awaitedItems number (world.devices number).downloads.length = [] := by
          by_contra waiting
          obtain ⟨shared, present, _⟩ := collecting.downloads _ waiting
          exact absurd (List.getElem?_eq_some_iff.mp present).1 (Nat.lt_irrefl _)
        have all : itemIds.filterMap ((fun request => Flight.readFor number (world.devices number).downloads.length
            ⟨number, request, Option.none⟩) ∘ fun itemId => .getItem itemId (world.devices number).downloads.length) =
              itemIds := by
          simp [Flight.readFor]
        rw [none, all, List.nil_append]
        exact ⟨{ withIds := itemIds }, List.getElem?_concat_length, rfl, rfl, by simp, by simp⟩
      · have others : itemIds.filterMap ((fun request => Flight.readFor number download
            ⟨number, request, Option.none⟩) ∘ fun itemId => .getItem itemId (world.devices number).downloads.length) =
              [] := by
          simp [Flight.readFor, Ne.symm new]
        rw [others, List.append_nil] at waiting ⊢
        obtain ⟨shared, present, collects⟩ := collecting.downloads download waiting
        refine ⟨shared, ?_, collects⟩
        rw [List.getElem?_append_left (List.getElem?_eq_some_iff.mp present).1]
        exact present

/-- A callback that is no item read of the device leaves its downloads. -/
theorem Collecting.erase (collecting : world.Collecting number) {index device : Nat} {request : Request}
    {reply : Option Reply} (found : world.flights[index]? = some ⟨device, request, reply⟩)
    (unread : device = number → request.isItemRead = false) :
    Collecting number { world with flights := world.flights.eraseIdx index } := by
  have same (download : Nat) : awaitedItems number download { world with flights := world.flights.eraseIdx index } =
      world.awaitedItems number download :=
    Pool.filterMap_eraseIdx_silent _ found (Flight.readFor_of_unread unread)
  refine ⟨Pool.forall_eraseIdx collecting.replies, fun download waiting => ?_⟩
  rw [same] at waiting ⊢
  exact collecting.downloads download waiting

/-- The last item read of the device shows the items of its download. -/
theorem Collecting.itemRead (collecting : world.Collecting number) {index download : Nat} {name : String}
    {reply : Reply} (found : world.flights[index]? = some ⟨number, .getItem name download, some reply⟩) :
    Collecting number (World.perform { world with flights := world.flights.eraseIdx index } number
      ((world.devices number).itemCompletion download reply.read)) ∧
      ((∃ other ∈ world.flights.eraseIdx index, other.ReadsItem number) ∨
        ∃ shared, (world.devices number).downloads[download]? = some shared ∧
          ((world.devices number).itemCompletion download reply.read).device.rowIds.Perm
            (shared.withIds.map some)) := by
  obtain ⟨data, rfl, stored, named⟩ := collecting.replies _ (List.mem_of_getElem? found) rfl
  let erased : World := { world with flights := world.flights.eraseIdx index }
  have taken : (world.awaitedItems number download).Perm (name :: erased.awaitedItems number download) := by
    have perm := Pool.filterMap_perm (Flight.readFor number download) found
    rwa [show Flight.readFor number download ⟨number, .getItem name download, some (.document (some data))⟩ = some name
      from if_pos ⟨rfl, rfl⟩] at perm
  have waiting : world.awaitedItems number download ≠ [] := by
    intro empty
    rw [empty] at taken
    cases taken.symm.eq_nil
  obtain ⟨shared, present, collects⟩ := collecting.downloads download waiting
  obtain ⟨downloads, received, shown⟩ := Device.itemCompletion_collects present (collects.perm taken) stored named
  have flights : (erased.perform number ((world.devices number).itemCompletion download (.found data))).flights =
      erased.flights := erased.perform_flights ((world.devices number).itemCompletion_issued download (.found data))
  refine ⟨⟨fun flight member => ?_, fun other more => ?_⟩, ?_⟩
  · exact collecting.replies flight (List.mem_of_mem_eraseIdx (flights ▸ member))
  · have same : awaitedItems number other (erased.perform number
        ((world.devices number).itemCompletion download (.found data))) = erased.awaitedItems number other := by
      unfold awaitedItems
      rw [flights]
    rw [perform_devices]
    refine (?_ : ∃ shared, ((world.devices number).itemCompletion download (.found data)).device.downloads[other]? =
      some shared ∧ shared.Collects world.store shared.withIds _)
    rw [downloads]
    by_cases own : download = other
    · subst own
      refine ⟨(shared.receive (.found data)).1, ?_, same ▸ received⟩
      exact List.getElem?_set_self (List.getElem?_eq_some_iff.mp present).1
    · have kept : erased.awaitedItems number other = world.awaitedItems number other :=
        Pool.filterMap_eraseIdx_silent _ found (if_neg fun here => own here.2)
      rw [List.getElem?_set_ne own]
      have waitingOther := same.trans kept
      obtain ⟨collected, there, others⟩ := collecting.downloads other (waitingOther ▸ more)
      exact ⟨collected, there, waitingOther ▸ others⟩
  · by_cases last : erased.awaitedItems number download = []
    · exact .inr ⟨shared, present, shown last⟩
    · left
      obtain ⟨itemId, inside⟩ := List.exists_mem_of_ne_nil _ last
      obtain ⟨flight, member, reads⟩ := List.mem_filterMap.mp inside
      exact ⟨flight, member, Flight.readsItem_of_readFor reads⟩

/-- A completion of the device collects an item, or it starts at most one download. -/
theorem Collecting.callback (collecting : world.Collecting number) {index : Nat} {request : Request} {reply : Reply}
    {uuid : String} (found : world.flights[index]? = some ⟨number, request, some reply⟩)
    (alive : (request.complete uuid reply (world.devices number)).device.trapped = false) :
    Collecting number (World.perform { world with flights := world.flights.eraseIdx index } number
      (request.complete uuid reply (world.devices number))) := by
  cases read : request.isItemRead with
  | true =>
      cases request with
      | getItem name download => exact (collecting.itemRead found).1
      | _ => cases read
  | false =>
      refine (collecting.erase found fun _ => read).perform ?_
      cases load : request.isLoad with
      | false => exact (Request.complete_screen uuid load read alive).1
      | true =>
          cases request with
          | getBaskets owner completion =>
              cases completion with
              | addToBasket item => cases load
              | loadBasket => exact (Device.loadBasketCompletion_screen alive).1
          | _ => cases load

/-- The server finds the items, and the other replies bring none. -/
theorem Collecting.serve (collecting : world.Collecting number) {index device : Nat} {request : Request}
    {answer : Answer} (found : world.flights[index]? = some ⟨device, request, none⟩)
    (sold : world.SellsRead (.serve index answer)) (succeeds : answer.succeeds = true)
    (served : world.serve index device request answer = some next) : next.Collecting number := by
  have same (store : Store) (devices : Nat → Device) (reply : Reply) (download : Nat) :
      awaitedItems number download (World.record ⟨store, devices, world.flights⟩ index device request reply) =
        world.awaitedItems number download := Pool.filterMap_set_same _ found rfl
  rcases serve_cases served with ⟨rfl, _⟩ | ⟨_, _, rfl⟩ | ⟨uid, isEmailVerified, _, auth, rfl⟩
  · cases succeeds
  · refine ⟨Pool.forall_set (fun flight member => (collecting.replies flight member).answer request) ?_,
      fun download waiting => ?_⟩
    · cases request with
      | getItem name shared =>
          intro _
          obtain ⟨data, stored, named⟩ := sold _ found
          exact ⟨data, congrArg Reply.document stored, stored, named⟩
      | _ => trivial
    · rw [same] at waiting ⊢
      obtain ⟨shared, present, collects⟩ := collecting.downloads download waiting
      exact ⟨shared, present, collects.answer request⟩
  · refine ⟨Pool.forall_set collecting.replies ?_, fun download waiting => ?_⟩
    · cases request with
      | getItem name shared => cases auth
      | _ => trivial
    · have kept := same world.store (world.signIn device uid).devices (.account uid isEmailVerified) download
      obtain ⟨shared, present, collects⟩ := collecting.downloads download (kept ▸ waiting)
      obtain ⟨auth, _, signedIn⟩ := world.signIn_device device number uid
      refine ⟨shared, ?_, kept.symm ▸ collects⟩
      change ((world.signIn device uid).devices number).downloads[download]? = some shared
      rw [signedIn]
      exact present

namespace Settles

/-- Another device leaves the screen. -/
theorem perform_other (settles : world.Settles number) {other : Nat} (outcome : Outcome) (different : other ≠ number) :
    (world.perform other outcome).Settles number := by
  have device := world.perform_other outcome (Ne.symm different)
  refine ⟨?_, ?_⟩
  · rw [device]
    exact settles.synced.imp exists_perform (Or.imp exists_perform id)
  · rw [device]
    exact settles.shown.imp exists_perform (Or.imp exists_perform id)

/-- A handler of the device keeps the copy or writes it, and it keeps the rows or brings the ones of the copy. -/
theorem perform (settles : world.Settles number) {outcome : Outcome}
    (account : outcome.device.account = (world.devices number).account)
    (synced : outcome.device.screen.basket = (world.devices number).screen.basket ∨
      ∃ request ∈ outcome.issued, request.isBasketWrite = true)
    (shown : outcome.device.rowIds = (world.devices number).rowIds ∧
        outcome.device.screen.basket = (world.devices number).screen.basket ∨
      (∃ request ∈ outcome.issued, request.isItemRead = true) ∨
      outcome.device.rowIds.Perm ((Basket.ids outcome.device.screen.basket).map some)) :
    (world.perform number outcome).Settles number := by
  refine ⟨?_, ?_⟩
  · rw [perform_devices, account]
    rcases synced with copy | ⟨request, member, write⟩
    · rw [copy]
      exact settles.synced.imp exists_perform (Or.imp exists_perform id)
    · exact .inr (.inl ⟨_, world.mem_perform number outcome member, rfl, write⟩)
  · rw [perform_devices]
    rcases shown with ⟨rows, copy⟩ | ⟨request, member, read⟩ | same
    · rw [rows, copy]
      exact settles.shown.imp exists_perform (Or.imp exists_perform id)
    · exact .inr (.inl ⟨_, world.mem_perform number outcome member, rfl, read⟩)
    · exact .inr (.inr same)

/-- The screen asks for the basket of the current user, and it appears blank without one. -/
theorem appear (current : world.StaysCurrent number (.gesture number .viewDidAppear))
    (alive : (world.devices number).viewDidAppear.device.trapped = false) :
    (world.perform number (world.devices number).viewDidAppear).Settles number := by
  cases present : (world.devices number).currentUser with
  | none =>
      have stopped : (world.devices number).viewDidAppear.device.trapped = true := by
        simp [Device.viewDidAppear, Device.withCurrentUser, present, Device.trap]
      rw [stopped] at alive
      cases alive
  | some user =>
      cases user with
      | some user =>
          obtain ⟨uid, _, signedIn, _, _⟩ := Device.currentUser_eq_some present
          have issued : .getBaskets uid .loadBasket ∈ (world.devices number).viewDidAppear.issued := by
            rw [Device.viewDidAppear, Device.withCurrentUser_of_some present, Device.loadBasketFromFirestore,
              Device.withCurrentId_of_some signedIn]
            exact List.mem_singleton_self _
          have loads := world.mem_perform number _ issued
          exact ⟨.inl ⟨_, loads, rfl, rfl⟩, .inl ⟨_, loads, rfl, rfl⟩⟩
      | none =>
          have nobody : (world.devices number).account = none := by simp [Device.account, present]
          rcases current rfl nobody with loads | ⟨rows, copy⟩
          · exact ⟨.inl (exists_perform loads), .inl (exists_perform loads)⟩
          · obtain ⟨_, keepsRows, keepsCopy⟩ := (world.devices number).viewDidAppear_screen
            have narrows := (world.devices number).viewDidAppear_trims
            have account : (world.devices number).viewDidAppear.device.account = none :=
              (Device.account_congr narrows.auth narrows.defaults).trans nobody
            refine ⟨.inr (.inr ?_), .inr (.inr ?_)⟩
            · rw [perform_devices, keepsCopy, copy, account]
              exact List.Perm.refl []
            · rw [perform_devices, keepsCopy, copy, keepsRows, Device.rowIds, rows]
              exact List.Perm.refl []

/-- An answered request that the screen does not wait for is taken away. -/
theorem erase (settles : world.Settles number) {index device : Nat} {request : Request} {reply : Reply}
    (found : world.flights[index]? = some ⟨device, request, some reply⟩)
    (load : device = number → request.isLoad = false) (read : device = number → request.isItemRead = false) :
    Settles number { world with flights := world.flights.eraseIdx index } := by
  have answered : ¬ Flight.WritesBasket ⟨device, request, some reply⟩ := fun writes => by cases writes.1
  have notLoad : ¬ Flight.Loads number ⟨device, request, some reply⟩ :=
    fun loads => Bool.eq_false_iff.mp (load loads.1) loads.2
  have notRead : ¬ Flight.ReadsItem number ⟨device, request, some reply⟩ :=
    fun reads => Bool.eq_false_iff.mp (read reads.1) reads.2
  exact ⟨settles.synced.imp (Pool.exists_eraseIdx found notLoad) (Or.imp (Pool.exists_eraseIdx found answered) id),
    settles.shown.imp (Pool.exists_eraseIdx found notLoad) (Or.imp (Pool.exists_eraseIdx found notRead) id)⟩

/-- The server applies a write, it answers another request, or it signs an account in. -/
theorem serve (settles : world.Settles number) {index device : Nat} {request : Request} {answer : Answer}
    (found : world.flights[index]? = some ⟨device, request, none⟩)
    (current : world.StaysCurrent number (.serve index answer)) (succeeds : answer.succeeds = true)
    (served : world.serve index device request answer = some next)
    (account : (next.devices number).account = (world.devices number).account) : next.Settles number := by
  have set {property : Flight → Prop} {reply : Reply}
      (kept : property ⟨device, request, none⟩ → property ⟨device, request, some reply⟩)
      (witness : ∃ flight ∈ world.flights, property flight) :
      ∃ flight ∈ world.flights.set index ⟨device, request, some reply⟩, property flight :=
    Pool.exists_set found kept witness
  rcases serve_cases served with ⟨rfl, _⟩ | ⟨_, _, rfl⟩ | ⟨uid, isEmailVerified, _, auth, rfl⟩
  · cases succeeds
  · refine ⟨?_, settles.shown.imp (set id) (Or.imp (set id) id)⟩
    cases write : request.isBasketWrite with
    | true =>
        rcases current _ found ⟨rfl, write⟩ with loads | ⟨other, member, writes⟩ | same
        · exact .inl (set id loads)
        · refine .inr (.inl ⟨other, ?_, writes⟩)
          exact (Pool.perm_set found _).mem_iff.mpr (List.mem_cons_of_mem _ member)
        · exact .inr (.inr same)
    | false =>
        have notWrite : ¬ Flight.WritesBasket ⟨device, request, none⟩ :=
          fun writes => Bool.eq_false_iff.mp write writes.2
        refine settles.synced.imp (set id) (Or.imp (set fun writes => absurd writes notWrite) fun same => ?_)
        exact same.trans (world.store.heldIds_answer _ write ▸ List.Perm.refl _)
  · obtain ⟨_, _, signedIn⟩ := world.signIn_device device number uid
    have screen : ((world.signIn device uid).devices number).screen = (world.devices number).screen := by rw [signedIn]
    have notWrite : ¬ Flight.WritesBasket ⟨device, request, none⟩ := by
      rintro ⟨_, write⟩
      cases request with
      | setBasket name data => cases auth
      | updateBasket name values completion => cases auth
      | _ => cases write
    refine ⟨settles.synced.imp (set id) (Or.imp (set fun writes => absurd writes notWrite) fun same => ?_),
      settles.shown.imp (set id) (Or.imp (set id) fun same => ?_)⟩
    · rw [account]
      change (Basket.ids ((world.signIn device uid).devices number).screen.basket).Perm _
      rwa [screen]
    · change ((world.signIn device uid).devices number).rowIds.Perm
        ((Basket.ids ((world.signIn device uid).devices number).screen.basket).map some)
      rwa [Device.rowIds, screen]

/-- An item that comes back is not the last one, or it brings the rows of the copy. -/
theorem itemRead (settles : world.Settles number) (collecting : world.Collecting number) {index download : Nat}
    {name : String} {reply : Reply}
    (found : world.flights[index]? = some ⟨number, .getItem name download, some reply⟩)
    (current : (∃ other ∈ world.flights.eraseIdx index, other.Loads number) ∨
      world.BringsCurrent number index (.getItem name download) reply)
    (account : ((world.devices number).itemCompletion download reply.read).device.account =
      (world.devices number).account) :
    Settles number (World.perform { world with flights := world.flights.eraseIdx index } number
      ((world.devices number).itemCompletion download reply.read)) := by
  have answered : ¬ Flight.WritesBasket ⟨number, .getItem name download, some reply⟩ := fun writes => by
    cases writes.1
  have notLoad : ¬ Flight.Loads number ⟨number, .getItem name download, some reply⟩ := fun loads => by cases loads.2
  have copy := ((world.devices number).itemCompletion_reads download reply.read).keeps.basket
  refine ⟨?_, ?_⟩
  · rw [perform_devices, account, copy]
    exact settles.synced.imp (fun loads => exists_perform (Pool.exists_eraseIdx found notLoad loads))
      (Or.imp (fun writes => exists_perform (Pool.exists_eraseIdx found answered writes)) id)
  · rw [perform_devices, copy]
    rcases current with loads | reads | own
    · exact .inl (exists_perform loads)
    · exact .inr (.inl (exists_perform reads))
    · rcases (collecting.itemRead found).2 with reads | ⟨shared, present, rows⟩
      · exact .inr (.inl (exists_perform reads))
      · exact .inr (.inr (rows.trans ((own shared present).map some)))

/-- A load that comes back is not the last one, or it brings the basket of the server. -/
theorem load {index : Nat} {owner : String} {reply : Reply}
    (found : world.flights[index]? = some ⟨number, .getBaskets owner .loadBasket, some reply⟩)
    (current : (∃ other ∈ world.flights.eraseIdx index, other.Loads number) ∨
      world.BringsCurrent number index (.getBaskets owner .loadBasket) reply)
    (alive : ((world.devices number).loadBasketCompletion reply.basket).device.trapped = false)
    (account : ((world.devices number).loadBasketCompletion reply.basket).device.account =
      (world.devices number).account) :
    Settles number (World.perform { world with flights := world.flights.eraseIdx index } number
      ((world.devices number).loadBasketCompletion reply.basket)) := by
  have answered : ¬ Flight.WritesBasket ⟨number, .getBaskets owner .loadBasket, some reply⟩ := fun writes => by
    cases writes.1
  obtain ⟨_, copy, shown⟩ := Device.loadBasketCompletion_screen alive
  rcases current with loads | ⟨fresh, blank⟩
  · exact ⟨.inl (exists_perform loads), .inl (exists_perform loads)⟩
  · refine ⟨.inr ?_, .inr ?_⟩
    · rw [perform_devices, account, copy]
      exact fresh.imp (fun writes => exists_perform (Pool.exists_eraseIdx found answered writes)) id
    · rw [perform_devices, copy]
      refine (shown blank).imp ?_ id
      rintro ⟨issued, member, reads⟩
      exact ⟨_, World.mem_perform _ number _ member, rfl, reads⟩

/-- A completion brings the basket of the server, the items of the copy, or nothing to the screen. -/
theorem callback (settles : world.Settles number) (collecting : world.Collecting number) {index : Nat}
    {request : Request} {reply : Reply} {uuid : String}
    (found : world.flights[index]? = some ⟨number, request, some reply⟩)
    (current : world.StaysCurrent number (.callback index uuid))
    (alive : (request.complete uuid reply (world.devices number)).device.trapped = false)
    (account : (request.complete uuid reply (world.devices number)).device.account = (world.devices number).account) :
    Settles number (World.perform { world with flights := world.flights.eraseIdx index } number
      (request.complete uuid reply (world.devices number))) := by
  have condition := current _ found reply rfl rfl
  cases read : request.isItemRead with
  | true =>
      cases request with
      | getItem name download => exact settles.itemRead collecting found condition account
      | _ => cases read
  | false =>
      cases load : request.isLoad with
      | true =>
          cases request with
          | getBaskets owner completion =>
              cases completion with
              | addToBasket item => cases load
              | loadBasket => exact Settles.load found condition alive account
          | _ => cases load
      | false =>
          obtain ⟨_, copy, shown⟩ := Request.complete_screen uuid load read alive
          refine (settles.erase found (fun _ => load) fun _ => read).perform account (.inl copy) ?_
          rcases shown with rows | reads | same
          · exact .inl ⟨rows, copy⟩
          · exact .inr (.inl reads)
          · exact .inr (.inr (copy.symm ▸ same))

end Settles

/-- The screen still appears when the step is an appearance or changes nothing that it has to show. -/
theorem appeared_mark {past : List ScreenMark} {event : Event} (appeared : Appeared (past ++ world.mark number event)) :
    world.changesBasket number event = false ∧ (event = .gesture number .viewDidAppear ∨ Appeared past) := by
  unfold mark at appeared
  cases changes : world.changesBasket number event with
  | true =>
      rw [changes, if_pos rfl, Appeared, List.getLast?_concat] at appeared
      cases appeared
  | false =>
      refine ⟨rfl, ?_⟩
      rw [changes, if_neg Bool.false_ne_true] at appeared
      split at appeared
      · rename_i device
        split at appeared
        · rename_i same
          exact .inl (same ▸ rfl)
        · exact .inr (List.append_nil past ▸ appeared)
      · exact .inr (List.append_nil past ▸ appeared)

theorem account_of_changesBasket {event : Event} (taken : world.step event = some next)
    (kept : world.changesBasket number event = false) :
    (next.devices number).account = (world.devices number).account := by
  unfold changesBasket at kept
  rw [taken, Bool.or_eq_false_iff] at kept
  simpa using kept.1

/-- The downloads of the device collect their items, and the screen settles once it has appeared. -/
def Awaits (number : Nat) (past : List ScreenMark) (world : World) : Prop :=
  (world.devices number).trapped = false → world.Collecting number ∧ (Appeared past → world.Settles number)

/-- Each step on the current basket keeps the screen settling. -/
theorem Awaits.step {past : List ScreenMark} (awaits : world.Awaits number past) {event : Event}
    (succeeds : event.Succeeds) (sold : world.SellsRead event)
    (current : Appeared (past ++ world.mark number event) → world.StaysCurrent number event)
    (taken : world.step event = some next) : next.Awaits number (past ++ world.mark number event) := by
  intro alive
  obtain ⟨collecting, settles⟩ := awaits (step_trapped taken alive)
  have running := step_trapped taken alive
  have account (appeared : Appeared (past ++ world.mark number event)) :=
    account_of_changesBasket taken (appeared_mark appeared).1
  have before (other : event ≠ .gesture number .viewDidAppear)
      (appeared : Appeared (past ++ world.mark number event)) : world.Settles number :=
    settles ((appeared_mark appeared).2.resolve_left other)
  cases event with
  | gesture device made =>
      obtain ⟨_, rfl⟩ := step_gesture.mp taken
      by_cases own : device = number
      · subst own
        rw [perform_devices] at alive account
        obtain ⟨downloads, screen⟩ := made.handle_screen running alive
        refine ⟨collecting.perform downloads, fun appeared => ?_⟩
        by_cases appears : made = .viewDidAppear
        · subst appears
          exact Settles.appear (current appeared) alive
        · have other : Event.gesture device made ≠ .gesture device .viewDidAppear := fun same => by
            cases same
            exact appears rfl
          refine (before other appeared).perform (account appeared) ?_ ?_
          · exact screen.imp (fun keeps => keeps.copy) fun writes => writes.writes
          · exact screen.imp (fun keeps => ⟨keeps.rows, keeps.copy⟩) fun writes => writes.shown
      · refine ⟨collecting.perform_other own, fun appeared => ?_⟩
        have other : Event.gesture device made ≠ .gesture number .viewDidAppear := fun same => by
          cases same
          exact own rfl
        exact (before other appeared).perform_other _ own
  | serve index answer =>
      obtain ⟨device, request, found, served⟩ := step_serve.mp taken
      refine ⟨collecting.serve found sold succeeds served, fun appeared => ?_⟩
      exact (before (by simp) appeared).serve found (current appeared) succeeds served (account appeared)
  | callback index uuid =>
      obtain ⟨device, request, reply, found, _, rfl⟩ := step_callback.mp taken
      by_cases own : device = number
      · subst own
        rw [callback_of_running running] at alive account ⊢
        rw [perform_devices] at alive account
        exact ⟨collecting.callback found alive, fun appeared =>
          (before (by simp) appeared).callback collecting found (current appeared) alive (account appeared)⟩
      · have elsewhere {read : Bool} : device = number → read = false := fun same => absurd same own
        exact ⟨(collecting.erase found elsewhere).perform_other own, fun appeared =>
          ((before (by simp) appeared).erase found elsewhere elsewhere).perform_other _ own⟩

end World

/-- Once the screen has appeared since the last change and all requests are answered, it shows the basket of the
account, if its steps since the appearance stayed current. -/
theorem basket_screen_settles {world final : World} {events : List Event} {number : Nat} (quiet : world.Quiet)
    (succeeds : ∀ event ∈ events, event.Succeeds) (sold : world.Along World.SellsRead events)
    (met : Transition.Along (Transition.recording World.step (World.mark number))
      (fun recorded event => Appeared (recorded.2 ++ recorded.1.mark number event) →
        recorded.1.StaysCurrent number event) (world, []) events)
    (ran : world.run events = some final) (running : (final.devices number).trapped = false)
    (appeared : Appeared (Transition.log World.step (World.mark number) world events)) (done : final.Quiet) :
    final.ShowsBasket number := by
  have start : world.Awaits number [] := by
    have empty : world.flights = [] := quiet
    refine fun _ => ⟨⟨by simp [empty], fun download waiting => absurd ?_ waiting⟩, fun appeared => by cases appeared⟩
    simp [World.awaitedItems, empty]
  have awaits := Transition.run_invariant
    (fun recorded : World × List ScreenMark => recorded.1.Awaits number recorded.2) ?_ start
    (Transition.Along.and (.of_forall succeeds) (Transition.Along.and sold.recording met))
    (Transition.run_recording (World.mark number) [] ran)
  · obtain ⟨_, settles⟩ := awaits running
    obtain ⟨synced, shown⟩ := settles appeared
    have nothing {property : Flight → Prop} : ¬ ∃ flight ∈ final.flights, property flight := by
      rw [show final.flights = [] from done]
      simp
    have same := (shown.resolve_left nothing).resolve_left nothing
    exact same.trans (((synced.resolve_left nothing).resolve_left nothing).map some)
  · intro ⟨state, past⟩ event next awaits ⟨succeeds, sold, current⟩ taken
    obtain ⟨after, stepped, rfl⟩ := Option.map_eq_some_iff.mp taken
    exact awaits.step succeeds sold current stepped

instance (store : Store) (itemId : String) : Decidable (store.Sells itemId) :=
  decidable_of_iff
    (((store.data .items itemId).bind fun data => data.read Value.asString .objectId) = some itemId)
    Option.bind_eq_some_iff

instance Request.decidableFinds (store : Store) : ∀ request : Request, Decidable (request.Finds store)
  | .getItem _ _ => inferInstanceAs (Decidable (Store.Sells _ _))
  | .getBaskets _ _ | .setBasket _ _ | .updateBasket _ _ _ | .getUser _ _ | .setUser _ _ | .updateUser _ _ _
  | .signIn _ | .createUser _ => inferInstanceAs (Decidable True)

instance (world : World) : ∀ event, Decidable (world.SellsRead event)
  | .serve _ _ => inferInstanceAs (Decidable (∀ _ ∈ _, Request.Finds _ _))
  | .gesture _ _ | .callback _ _ => inferInstanceAs (Decidable True)

instance (number index : Nat) (world : World) :
    ∀ request reply, Decidable (world.BringsCurrent number index request reply)
  | .getBaskets _ .loadBasket, _ => inferInstanceAs (Decidable ((_ ∨ _) ∧ (_ → _)))
  | .getItem _ _, _ => inferInstanceAs (Decidable (_ ∨ ∀ _ ∈ _, _))
  | .getBaskets _ (.addToBasket _), _ | .setBasket _ _, _ | .updateBasket _ _ _, _ | .getUser _ _, _
  | .setUser _ _, _ | .updateUser _ _ _, _ | .signIn _, _ | .createUser _, _ => inferInstanceAs (Decidable True)

instance (number : Nat) (world : World) : ∀ event, Decidable (world.StaysCurrent number event)
  | .gesture _ .viewDidAppear => inferInstanceAs (Decidable (_ → _ → _ ∨ _ ∧ _))
  | .serve _ _ => inferInstanceAs (Decidable (∀ _ ∈ _, _ → _ ∨ _ ∨ _))
  | .callback _ _ => inferInstanceAs (Decidable (∀ _ ∈ _, ∀ _ ∈ _, _ → _ ∨ World.BringsCurrent _ _ _ _ _))
  | .gesture _ (.addToBasket _) | .gesture _ (.deleteRow _) | .gesture _ (.checkOut _) | .gesture _ .cancelPayment
  | .gesture _ .completePayment | .gesture _ (.login _) | .gesture _ (.register _) | .gesture _ (.logOut _)
  | .gesture _ (.saveProfile _ _ _) | .gesture _ (.finishOnboarding _ _ _) | .gesture _ (.updateUser _) =>
      inferInstanceAs (Decidable True)

instance (number : Nat) (world : World) : Decidable (world.ShowsBasket number) :=
  inferInstanceAs (Decidable (List.Perm _ _))

/-- The screen appears twice in a row, the loads come back in the other order, and the row is deleted. -/
def twoVisits : List Event :=
  [.gesture 0 .viewDidAppear, .gesture 0 .viewDidAppear, .serve 0 .success, .serve 1 .success, .callback 1 "n",
    .callback 0 "n", .serve 0 .success, .serve 1 .success, .callback 0 "n", .callback 0 "n",
    .gesture 0 (.deleteRow 0), .serve 0 .success, .callback 0 "n"]

theorem basket_screen_settles_twoVisits :
    ∃ final, (openShop ["a"]).run twoVisits = some final ∧ final.ShowsBasket 0 := by
  have quiet : (openShop ["a"]).Quiet := rfl
  have succeeds : ∀ event ∈ twoVisits, event.Succeeds := by decide
  have sold : (openShop ["a"]).Along World.SellsRead twoVisits := by decide
  have met : Transition.Along (Transition.recording World.step (World.mark 0))
      (fun recorded event => Appeared (recorded.2 ++ recorded.1.mark 0 event) →
        recorded.1.StaysCurrent 0 event) (openShop ["a"], []) twoVisits := by decide
  exact ⟨_, rfl, basket_screen_settles quiet succeeds sold met rfl rfl (by decide) rfl⟩

/-- The user logs out on another screen and returns to the basket. -/
def returnAfterLogout : List Event :=
  loadOneItem ++ [.gesture 0 (.logOut true), .gesture 0 .viewDidAppear]

/-- The row of the account stays on the screen when nobody is signed in. -/
theorem rows_outlive_session :
    (∀ event ∈ returnAfterLogout, event.Succeeds) ∧ (openShop ["a"]).Along World.SellsRead returnAfterLogout ∧
      ∃ final, (openShop ["a"]).run returnAfterLogout = some final ∧ final.Quiet ∧
        Appeared (Transition.log World.step (World.mark 0) (openShop ["a"]) returnAfterLogout) ∧
        (final.devices 0).account = none ∧ (final.devices 0).rowIds = [some "a"] ∧ ¬ final.ShowsBasket 0 :=
  ⟨by decide, by decide, _, rfl, rfl, by decide, rfl, rfl, by decide⟩

end ShoppingApp
