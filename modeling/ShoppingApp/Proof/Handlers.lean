import ShoppingApp.Model.World

namespace ShoppingApp

/-- A read of the rows keeps the session, the basket copy, the accumulator, and the payment. -/
structure Device.Keeps (before after : Device) : Prop where
  auth : after.auth = before.auth
  defaults : after.defaults = before.defaults
  basket : after.screen.basket = before.screen.basket
  purchasedItemIds : after.screen.purchasedItemIds = before.screen.purchasedItemIds
  payment : after.screen.payment = before.screen.payment

namespace Device.Keeps

theorem refl (device : Device) : device.Keeps device := ⟨rfl, rfl, rfl, rfl, rfl⟩

theorem trans {first second third : Device} (left : first.Keeps second) (right : second.Keeps third) :
    first.Keeps third :=
  ⟨right.auth.trans left.auth, right.defaults.trans left.defaults, right.basket.trans left.basket,
    right.purchasedItemIds.trans left.purchasedItemIds, right.payment.trans left.payment⟩

end Device.Keeps

/-- The outcome only reads items and only changes the rows, the labels, and the downloads. -/
structure Outcome.Reads (before : Device) (outcome : Outcome) : Prop where
  keeps : before.Keeps outcome.device
  reads : ∀ request ∈ outcome.issued, ∃ name download, request = .getItem name download

namespace Outcome

theorem andThen_of_stopped {outcome : Outcome} {next : Device → Outcome}
    (stopped : outcome.device.trapped = true) : outcome.andThen next = outcome := by
  simp [andThen, stopped]

theorem andThen_of_running {outcome : Outcome} {next : Device → Outcome}
    (running : outcome.device.trapped = false) :
    outcome.andThen next =
      ⟨(next outcome.device).device, outcome.issued ++ (next outcome.device).issued⟩ := by
  simp [andThen, running]

theorem Reads.done {before device : Device} (keeps : before.Keeps device) : Reads before device.done :=
  ⟨keeps, fun _ member => by cases member⟩

theorem Reads.trap {before device : Device} (keeps : before.Keeps device) : Reads before device.trap :=
  ⟨⟨keeps.auth, keeps.defaults, keeps.basket, keeps.purchasedItemIds, keeps.payment⟩,
    fun _ member => by cases member⟩

theorem Reads.of_keeps {first second : Device} {outcome : Outcome} (keeps : first.Keeps second)
    (reads : Reads second outcome) : Reads first outcome :=
  ⟨keeps.trans reads.keeps, reads.reads⟩

theorem Reads.andThen {before : Device} {outcome : Outcome} {next : Device → Outcome}
    (first : Reads before outcome) (second : Reads outcome.device (next outcome.device)) :
    Reads before (outcome.andThen next) := by
  cases running : outcome.device.trapped with
  | true => rwa [andThen_of_stopped running]
  | false =>
      rw [andThen_of_running running]
      refine ⟨first.keeps.trans second.keeps, fun request member => ?_⟩
      rcases List.mem_append.mp member with early | late
      · exact first.reads request early
      · exact second.reads request late

end Outcome

/-- The handler leaves the device as it is or stops the application. -/
def Outcome.Stays (before : Device) (outcome : Outcome) : Prop :=
  outcome.device = before ∨ outcome.device = { before with trapped := true }

theorem Outcome.Stays.screen {before : Device} {outcome : Outcome} (stays : Stays before outcome) :
    outcome.device.screen = before.screen := by
  rcases stays with same | same <;> rw [same]

namespace Device

theorem withCurrentId_stays {device : Device} {next : String → Outcome}
    (stays : ∀ uid, Outcome.Stays device (next uid)) : Outcome.Stays device (device.withCurrentId next) := by
  unfold withCurrentId
  split
  · exact .inr rfl
  · exact stays _

theorem withCurrentUser_stays {device : Device} {absent : Outcome} {present : MUser → Outcome}
    (idle : Outcome.Stays device absent) (stays : ∀ user, Outcome.Stays device (present user)) :
    Outcome.Stays device (device.withCurrentUser absent present) := by
  unfold withCurrentUser
  split
  · exact .inr rfl
  · exact idle
  · exact stays _

theorem addToBasketTapped_stays (device : Device) (item : Item) :
    Outcome.Stays device (device.addToBasketTapped item) :=
  withCurrentUser_stays (.inl rfl) fun _ => withCurrentId_stays fun _ => .inl rfl

theorem loadBasketFromFirestore_stays (device : Device) :
    Outcome.Stays device device.loadBasketFromFirestore :=
  withCurrentId_stays fun _ => .inl rfl

theorem updateBasketInFirestore_stays (device : Device) (basket : Basket) (values : Dictionary)
    (completion : BasketUpdate) :
    Outcome.Stays device (device.updateBasketInFirestore basket values completion) := by
  unfold updateBasketInFirestore
  split
  · exact .inr rfl
  · exact .inl rfl

theorem addToBasketCompletion_stays (device : Device) (item : Item) (uuid : String)
    (basket : Option Basket) : Outcome.Stays device (device.addToBasketCompletion item uuid basket) := by
  unfold addToBasketCompletion
  split
  · refine withCurrentId_stays fun uid => ?_
    split
    · exact .inr rfl
    · exact .inl rfl
  · split
    · exact device.updateBasketInFirestore_stays _ _ _
    · exact .inr rfl

theorem updateCurrentUserInFirestore_stays (device : Device) (withValues : Dictionary) :
    Outcome.Stays device (device.updateCurrentUserInFirestore withValues) := by
  unfold updateCurrentUserInFirestore
  split
  · exact .inl rfl
  · exact withCurrentId_stays fun _ => .inl rfl

theorem addItemsToPurchaseHistory_stays (device : Device) (itemIds : List String) :
    Outcome.Stays device (device.addItemsToPurchaseHistory itemIds) :=
  withCurrentUser_stays (.inl rfl) fun _ => device.updateCurrentUserInFirestore_stays _

theorem updateTotalLabels_reads (device : Device) (isEmpty : Bool) :
    Outcome.Reads device (device.updateTotalLabels isEmpty) := by
  unfold updateTotalLabels
  dsimp only
  split
  · exact .done ⟨rfl, rfl, rfl, rfl, rfl⟩
  · exact .trap ⟨rfl, rfl, rfl, rfl, rfl⟩

theorem showItems_reads (device : Device) (items : List Item) :
    Outcome.Reads device (device.showItems items) := by
  refine .of_keeps ?_ (updateTotalLabels_reads _ _)
  exact ⟨rfl, rfl, rfl, rfl, rfl⟩

theorem deliver_reads (device : Device) (delivered : List (List Item)) :
    Outcome.Reads device (device.deliver delivered) := by
  induction delivered generalizing device with
  | nil => exact .done (.refl device)
  | cons items rest ih => exact (device.showItems_reads items).andThen (ih _)

theorem downloadItemsFromFirebase_reads (device : Device) (withIds : List String) :
    Outcome.Reads device (device.downloadItemsFromFirebase withIds) := by
  unfold downloadItemsFromFirebase
  split
  · refine ⟨⟨rfl, rfl, rfl, rfl, rfl⟩, fun request member => ?_⟩
    obtain ⟨itemId, _, rfl⟩ := List.mem_map.mp member
    exact ⟨_, _, rfl⟩
  · exact device.showItems_reads []

theorem itemCompletion_reads (device : Device) (download : Nat) (read : DocumentRead) :
    Outcome.Reads device (device.itemCompletion download read) := by
  unfold itemCompletion
  split
  · exact .done (.refl device)
  · refine .of_keeps ?_ (deliver_reads _ _)
    exact ⟨rfl, rfl, rfl, rfl, rfl⟩

theorem getBasketItems_reads (device : Device) : Outcome.Reads device device.getBasketItems := by
  unfold getBasketItems
  split
  · exact .done (.refl device)
  · split
    · exact .trap (.refl device)
    · exact device.downloadItemsFromFirebase_reads _

theorem updateTotalLabels_issued (device : Device) (isEmpty : Bool) :
    (device.updateTotalLabels isEmpty).issued = [] := by
  unfold updateTotalLabels
  dsimp only
  split <;> rfl

theorem showItems_issued (device : Device) (items : List Item) : (device.showItems items).issued = [] :=
  updateTotalLabels_issued _ _

theorem deliver_issued (device : Device) (delivered : List (List Item)) :
    (device.deliver delivered).issued = [] := by
  induction delivered generalizing device with
  | nil => rfl
  | cons items rest ih =>
      unfold deliver Outcome.andThen
      split
      · exact device.showItems_issued items
      · simp [showItems_issued, ih]

theorem itemCompletion_issued (device : Device) (download : Nat) (read : DocumentRead) :
    (device.itemCompletion download read).issued = [] := by
  unfold itemCompletion
  split
  · rfl
  · exact deliver_issued _ _

/-- The signed-in account has a cached record that decodes. -/
theorem currentUser_eq_some {device : Device} {user : MUser}
    (current : device.currentUser = some (some user)) :
    ∃ uid dictionary, device.auth = some uid ∧ device.defaults = some dictionary ∧
      MUser.ofDictionary dictionary = some user := by
  unfold currentUser at current
  split at current
  · rename_i uid dictionary signedIn cached
    obtain ⟨decoded, found, same⟩ := Option.map_eq_some_iff.mp current
    exact ⟨uid, dictionary, signedIn, cached, Option.some.inj same ▸ found⟩
  · cases current

theorem withCurrentUser_of_some {device : Device} {absent : Outcome} {present : MUser → Outcome}
    {user : MUser} (current : device.currentUser = some (some user)) :
    device.withCurrentUser absent present = present user := by
  simp [withCurrentUser, current]

theorem withCurrentId_of_some {device : Device} {next : String → Outcome} {uid : String}
    (signedIn : device.auth = some uid) : device.withCurrentId next = next uid := by
  simp [withCurrentId, signedIn]

/-- A signed-in user of an item screen queries the basket of the account. -/
theorem addToBasketTapped_eq {device : Device} {uid : String} (signedIn : device.auth = some uid)
    (item : Item) :
    (device.addToBasketTapped item).issued = [] ∨
      device.addToBasketTapped item = device.issue (.getBaskets uid (.addToBasket item)) := by
  unfold addToBasketTapped withCurrentUser
  split
  · exact .inl rfl
  · exact .inl rfl
  · exact .inr (withCurrentId_of_some signedIn)

/-- The completion creates a basket, appends to the found one, or issues nothing. -/
theorem addToBasketCompletion_eq {device : Device} {uid : String} (signedIn : device.auth = some uid)
    (item : Item) (uuid : String) (basket : Option Basket) :
    (device.addToBasketCompletion item uuid basket).issued = [] ∨
      (∃ itemId, item.id = some itemId ∧ basket = none ∧
        device.addToBasketCompletion item uuid basket =
          device.issue (.setBasket uuid (basketDictionaryFrom ⟨some uuid, some uid, some [itemId]⟩))) ∨
      ∃ itemId found name itemIds, item.id = some itemId ∧ basket = some found ∧ found.id = some name ∧
        found.itemIds = some itemIds ∧
        device.addToBasketCompletion item uuid basket =
          device.issue (.updateBasket name (itemIdsValues (itemIds ++ [itemId])) (.addToBasket itemId)) := by
  unfold addToBasketCompletion
  cases basket with
  | none =>
      simp only [createNewBasket, withCurrentId_of_some signedIn]
      cases hasId : item.id with
      | none => exact .inl rfl
      | some itemId => exact .inr (.inl ⟨itemId, rfl, trivial, rfl⟩)
  | some found =>
      dsimp only
      split
      · rename_i itemIds itemId hasItems hasId
        unfold updateBasketInFirestore
        dsimp only
        cases hasName : found.id with
        | none => exact .inl rfl
        | some name => exact .inr (.inr ⟨itemId, found, name, itemIds, hasId, rfl, hasName, hasItems, rfl⟩)
      · exact .inl rfl

/-- The delete gesture writes the copy without the identifier of a row that the copy contains. -/
theorem deleteRow_eq {device : Device} {row : Nat} {item : Item} {basket : Basket} {itemId name : String}
    {itemIds : List String} (running : device.trapped = false)
    (present : device.screen.allItems[row]? = some item) (hasId : item.id = some itemId)
    (hasBasket : device.screen.basket = some basket) (hasItems : basket.itemIds = some itemIds)
    (hasName : basket.id = some name) (member : itemId ∈ itemIds) :
    let shorter : Device := { device with screen :=
      { device.screen with
        allItems := device.screen.allItems.eraseIdx row
        basket := some { basket with itemIds := some (itemIds.erase itemId) } } }
    device.deleteRow row =
      ⟨shorter.getBasketItems.device,
        .updateBasket name (itemIdsValues (itemIds.erase itemId)) (.deleteRow itemId) ::
          shorter.getBasketItems.issued⟩ := by
  intro shorter
  obtain ⟨_, ownerId, _⟩ := basket
  cases hasName
  cases hasItems
  have found : removeItemFromBasket itemIds itemId = some (itemIds.erase itemId) := by
    rw [removeItemFromBasket_eq, if_pos member]
  have alive : (shorter.issue (.updateBasket name (itemIdsValues (itemIds.erase itemId))
      (.deleteRow itemId))).device.trapped = false := running
  simp only [deleteRow, present, hasId, hasBasket, Option.bind_some, found, updateBasketInFirestore]
  exact Outcome.andThen_of_running alive

/-- A completed payment records the accumulator behind the cached history, and then it clears the basket. -/
theorem payPalPaymentDidComplete_eq {device : Device} {uid name : String} {record : Dictionary} {user : MUser}
    {basket : Basket} (running : device.trapped = false) (signedIn : device.auth = some uid)
    (cached : device.defaults = some record) (decoded : MUser.ofDictionary record = some user)
    (hasBasket : device.screen.basket = some basket) (hasName : basket.id = some name) :
    device.payPalPaymentDidComplete =
      ⟨{ device with screen :=
          { device.screen with
            basket := some { basket with itemIds := some [] }
            purchasedItemIds := []
            allItems := []
            payment := none } },
        [.updateUser uid (purchasedValues (user.purchasedItemIds ++ device.screen.purchasedItemIds))
            (record.patch (purchasedValues (user.purchasedItemIds ++ device.screen.purchasedItemIds))),
          .updateBasket name (itemIdsValues []) .emptyTheBasket]⟩ := by
  simp [payPalPaymentDidComplete, addItemsToPurchaseHistory, withCurrentUser, currentUser, signedIn, cached, decoded,
    updateCurrentUserInFirestore, withCurrentId, issue, Outcome.andThen, running, emptyTheBasket, hasBasket,
    updateBasketInFirestore, hasName]

end Device

end ShoppingApp
