import ShoppingApp.Model.Firestore

namespace ShoppingApp

structure PayPalItem where
  name : String
  price : Double
  deriving DecidableEq, Repr

/-- The items of a payment list what the basket screen showed at the checkout tap. -/
structure PayPalPayment where
  items : List PayPalItem
  deriving DecidableEq, Repr

/-- These are the variables of `BasketViewController`, its button, and the payment it presents. -/
structure BasketScreen where
  basket : Option Basket := none
  purchasedItemIds : List String := []
  allItems : List Item := []
  totalItemLabel : String := ""
  checkOutButton : Bool := true
  payment : Option PayPalPayment := none

/-- A device keeps the Auth account, the cached record, its basket screen, and the item downloads. -/
structure Device where
  auth : Option String := none
  defaults : Option Dictionary := none
  screen : BasketScreen := {}
  downloads : List ItemDownload := []
  trapped : Bool := false

/-- A handler changes the device and issues requests. -/
structure Outcome where
  device : Device
  issued : List Request

namespace Device

/-- The handler ends with the device as it is. -/
def done (device : Device) : Outcome := ⟨device, []⟩

/-- The handler issues one request. -/
def issue (device : Device) (request : Request) : Outcome := ⟨device, [request]⟩

/-- A forced unwrap of nil stops the application. -/
def trap (device : Device) : Outcome := ⟨{ device with trapped := true }, []⟩

end Device

/-- The second handler runs unless the first one stopped the application. -/
def Outcome.andThen (outcome : Outcome) (next : Device → Outcome) : Outcome :=
  if outcome.device.trapped then outcome
  else ⟨(next outcome.device).device, outcome.issued ++ (next outcome.device).issued⟩

namespace Device

/-- The outer option is the trap of a failed forced cast and the inner one is a nil user. -/
def currentUser (device : Device) : Option (Option MUser) :=
  match device.auth, device.defaults with
  | some _, some dictionary => (MUser.ofDictionary dictionary).map some
  | _, _ => some none

/-- The forced unwrap of `Auth.auth().currentUser` traps when nobody is signed in. -/
def withCurrentId (device : Device) (next : String → Outcome) : Outcome :=
  match device.auth with
  | none => device.trap
  | some uid => next uid

/-- The test `MUser.currentUser() != nil` chooses between two continuations. -/
def withCurrentUser (device : Device) (absent : Outcome) (present : MUser → Outcome) : Outcome :=
  match device.currentUser with
  | none => device.trap
  | some none => absent
  | some (some user) => present user

/-! The item screen. -/

def addToBasketTapped (item : Item) (device : Device) : Outcome :=
  device.withCurrentUser device.done fun _ =>
    device.withCurrentId fun uid => device.issue (.getBaskets uid (.addToBasket item))

def saveBasketToFirestore (basket : Basket) (device : Device) : Outcome :=
  match basket.id with
  | none => device.trap
  | some name => device.issue (.setBasket name (basketDictionaryFrom basket))

def updateBasketInFirestore (basket : Basket) (values : Dictionary) (completion : BasketUpdate)
    (device : Device) : Outcome :=
  match basket.id with
  | none => device.trap
  | some name => device.issue (.updateBasket name values completion)

def createNewBasket (item : Item) (uuid : String) (device : Device) : Outcome :=
  device.withCurrentId fun uid =>
    match item.id with
    | none => device.trap
    | some itemId =>
        device.saveBasketToFirestore { id := uuid, ownerId := uid, itemIds := some [itemId] }

/-- This is the completion of the basket query in `addToBasketTapped`. -/
def addToBasketCompletion (item : Item) (uuid : String) (basket : Option Basket) (device : Device) :
    Outcome :=
  match basket with
  | none => device.createNewBasket item uuid
  | some basket =>
      match basket.itemIds, item.id with
      | some itemIds, some itemId =>
          device.updateBasketInFirestore { basket with itemIds := some (itemIds ++ [itemId]) }
            (itemIdsValues (itemIds ++ [itemId])) (.addToBasket itemId)
      | _, _ => device.trap

/-! The basket screen. -/

def checkoutButtonStatusUpdate (device : Device) : Device :=
  { device with screen :=
    { device.screen with checkOutButton := decide (0 < device.screen.allItems.length) } }

/-- The total price unwraps every price before the button is updated. -/
def updateTotalLabels (isEmpty : Bool) (device : Device) : Outcome :=
  let text := if isEmpty then "0" else toString device.screen.allItems.length
  let device := { device with screen := { device.screen with totalItemLabel := text } }
  if device.screen.allItems.all fun item => item.price.isSome then
    device.checkoutButtonStatusUpdate.done
  else device.trap

/-- This is the completion of the item download in `getBasketItems`. -/
def showItems (items : List Item) (device : Device) : Outcome :=
  { device with screen := { device.screen with allItems := items } }.updateTotalLabels
    (decide (items.length = 0))

/-- The completion runs once for each delivered array. -/
def deliver : List (List Item) → Device → Outcome
  | [], device => device.done
  | items :: rest, device => (device.showItems items).andThen (deliver rest)

/-- One read is issued for each identifier, and an empty list is delivered at once. -/
def downloadItemsFromFirebase (withIds : List String) (device : Device) : Outcome :=
  if 0 < withIds.length then
    ⟨{ device with downloads := device.downloads ++ [{ withIds := withIds }] },
      withIds.map fun itemId => .getItem itemId device.downloads.length⟩
  else device.showItems []

/-- This is the callback of one item read. -/
def itemCompletion (download : Nat) (read : DocumentRead) (device : Device) : Outcome :=
  match device.downloads[download]? with
  | none => device.done
  | some shared =>
      { device with downloads := device.downloads.set download (shared.receive read).1 }.deliver
        (shared.receive read).2

def getBasketItems (device : Device) : Outcome :=
  match device.screen.basket with
  | none => device.done
  | some basket =>
      match basket.itemIds with
      | none => device.trap
      | some itemIds => device.downloadItemsFromFirebase itemIds

def loadBasketFromFirestore (device : Device) : Outcome :=
  device.withCurrentId fun uid => device.issue (.getBaskets uid .loadBasket)

/-- This is the completion of the basket query in `loadBasketFromFirestore`. -/
def loadBasketCompletion (basket : Option Basket) (device : Device) : Outcome :=
  { device with screen := { device.screen with basket := basket } }.getBasketItems

def viewDidAppear (device : Device) : Outcome :=
  device.withCurrentUser (device.updateTotalLabels true) fun _ => device.loadBasketFromFirestore

/-- The row and the identifier leave the screen before the shortened array is written. -/
def deleteRow (row : Nat) (device : Device) : Outcome :=
  match device.screen.allItems[row]? with
  | none => device.trap
  | some itemToDelete =>
      let device := { device with screen :=
        { device.screen with allItems := device.screen.allItems.eraseIdx row } }
      match itemToDelete.id, device.screen.basket with
      | some itemId, some basket =>
          match (basket.itemIds).bind fun itemIds => removeItemFromBasket itemIds itemId with
          | none => device.trap
          | some itemIds =>
              let basket := { basket with itemIds := some itemIds }
              let device := { device with screen := { device.screen with basket := some basket } }
              (device.updateBasketInFirestore basket (itemIdsValues itemIds) (.deleteRow itemId)).andThen
                getBasketItems
      | _, _ => device.trap

/-- The payment lists every row, and the identifiers join the accumulator. -/
def payButtonPressed (processable : Bool) (device : Device) : Outcome :=
  match device.screen.allItems.mapM fun item => item.name, device.screen.allItems.mapM fun item => item.price,
      device.screen.allItems.mapM fun item => item.id with
  | some names, some prices, some itemIds =>
      let payment : PayPalPayment := ⟨(names.zip prices).map fun pair => ⟨pair.1, pair.2⟩⟩
      { device with screen :=
        { device.screen with
          purchasedItemIds := device.screen.purchasedItemIds ++ itemIds
          payment := if processable then some payment else none } }.done
  | _, _, _ => device.trap

def checkOutButtonWasTapped (processable : Bool) (device : Device) : Outcome :=
  device.withCurrentUser device.trap fun user =>
    if user.onBoard then device.payButtonPressed processable else device.done

def payPalPaymentDidCancel (device : Device) : Outcome :=
  { device with screen := { device.screen with payment := none } }.done

/-- The merged copy is taken from the cached record at the time of the call. -/
def updateCurrentUserInFirestore (withValues : Dictionary) (device : Device) : Outcome :=
  match device.defaults with
  | none => device.done
  | some dictionary =>
      device.withCurrentId fun uid =>
        device.issue (.updateUser uid withValues (dictionary.patch withValues))

def addItemsToPurchaseHistory (itemIds : List String) (device : Device) : Outcome :=
  device.withCurrentUser device.done fun user =>
    device.updateCurrentUserInFirestore (purchasedValues (user.purchasedItemIds ++ itemIds))

def emptyTheBasket (device : Device) : Outcome :=
  let device := { device with screen := { device.screen with purchasedItemIds := [], allItems := [] } }
  match device.screen.basket with
  | none => device.trap
  | some basket =>
      let basket := { basket with itemIds := some [] }
      { device with screen := { device.screen with basket := some basket } }.updateBasketInFirestore
        basket (itemIdsValues []) .emptyTheBasket

/-- This is `payPalPaymentViewController(_:didComplete:)` after the dismissal. -/
def payPalPaymentDidComplete (device : Device) : Outcome :=
  let device := { device with screen := { device.screen with payment := none } }
  (device.addItemsToPurchaseHistory device.screen.purchasedItemIds).andThen emptyTheBasket

/-! The session. -/

def saveUserLocally (mUserDictionary : Dictionary) (device : Device) : Device :=
  { device with defaults := some mUserDictionary }

def downloadUserFromFirestore (userId email : String) (device : Device) : Outcome :=
  device.issue (.getUser userId email)

def saveUserToFirestore (mUser : MUser) (device : Device) : Outcome :=
  device.issue (.setUser mUser.objectId (userDictionaryFrom mUser))

/-- This is the callback of the document read in `downloadUserFromFirestore`. -/
def downloadUserCompletion (userId email : String) (read : DocumentRead) (device : Device) : Outcome :=
  match read with
  | .failed => device.done
  | .found data => (device.saveUserLocally data).done
  | .missing =>
      let user := MUser.new userId email "" ""
      (device.saveUserLocally (userDictionaryFrom user)).saveUserToFirestore user

/-- This is the completion of `signIn` in `loginUserWith`. -/
def loginUserCompletion (email uid : String) (isEmailVerified : Bool) (device : Device) : Outcome :=
  if isEmailVerified then device.downloadUserFromFirestore uid email else device.done

/-- A failed `signOut` leaves the account and the cached record. -/
def logOutCurrentUser (signedOut : Bool) (device : Device) : Outcome :=
  if signedOut then { device with auth := none, defaults := none }.done else device.done

/-- The profile screen saves only when all of its fields have text. -/
def saveBarButtonPressed (name surname address : String) (device : Device) : Outcome :=
  if name ≠ "" ∧ surname ≠ "" ∧ address ≠ "" then
    device.updateCurrentUserInFirestore (profileValues name surname address)
  else device.done

def finishiOnboarding (name surname address : String) (device : Device) : Outcome :=
  device.updateCurrentUserInFirestore (onboardingValues name surname address)

end Device

end ShoppingApp
