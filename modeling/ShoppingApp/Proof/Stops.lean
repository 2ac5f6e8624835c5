import ShoppingApp.Proof.ListedItems
import ShoppingApp.Proof.BasketScreen

namespace ShoppingApp

/-- The item has the properties that the screens unwrap by force. -/
structure Item.Whole (item : Item) : Prop where
  id : item.id.isSome
  name : item.name.isSome
  price : item.price.isSome

/-- The basket has the properties that the screens unwrap by force. -/
structure Basket.Whole (basket : Basket) : Prop where
  id : basket.id.isSome
  itemIds : basket.itemIds.isSome

/-- The cached record decodes, and the screen has whole items and a whole copy. -/
structure Device.Whole (device : Device) : Prop where
  user : device.currentUser ≠ none
  lists : device.Lists Item.Whole
  copy : ∀ basket, device.screen.basket = some basket → basket.Whole

/-- These gestures unwrap the account of a cached record by force. -/
def Gesture.savesProfile : Gesture → Bool
  | .saveProfile _ _ _ | .finishOnboarding _ _ _ | .updateUser _ => true
  | _ => false

/-- The delete gesture stops on a row that the copy does not have, the checkout without a user, and the completed
payment without a basket. -/
def Gesture.Stops (device : Device) : Gesture → Prop
  | .deleteRow row => ∃ item itemId, device.screen.allItems[row]? = some item ∧ item.id = some itemId ∧
      itemId ∉ Basket.ids device.screen.basket
  | .checkOut _ => device.currentUser = some none
  | .completePayment => device.screen.basket = none
  | _ => False

/-- The completion of a basket query stops when it has to create a basket and nobody is signed in any more. -/
def Request.Stops (reply : Reply) (device : Device) (request : Request) : Prop :=
  ∃ uid item, request = .getBaskets uid (.addToBasket item) ∧ reply.basket = none ∧ device.auth = none

namespace Device

variable {device : Device}

/-- The user is nil, or the signed-in account has a cached record that decodes. -/
theorem Whole.user_cases (whole : device.Whole) : device.currentUser = some none ∨
    ∃ user uid, device.currentUser = some (some user) ∧ device.auth = some uid := by
  cases current : device.currentUser with
  | none => exact absurd current whole.user
  | some user =>
      cases user with
      | none => exact .inl rfl
      | some user =>
          obtain ⟨uid, _, signedIn, _⟩ := currentUser_eq_some current
          exact .inr ⟨user, uid, rfl, signedIn⟩

theorem updateTotalLabels_trapped (device : Device) (rows : ∀ item ∈ device.screen.allItems, item.Whole)
    (isEmpty : Bool) :
    (device.updateTotalLabels isEmpty).device.trapped = device.trapped := by
  unfold updateTotalLabels
  dsimp only
  rw [if_pos (List.all_eq_true.mpr fun item member => (rows item member).price)]
  rfl

theorem showItems_trapped (device : Device) {items : List Item} (whole : ∀ item ∈ items, item.Whole) :
    (device.showItems items).device.trapped = device.trapped :=
  updateTotalLabels_trapped { device with screen := { device.screen with allItems := items } } whole _

theorem deliver_trapped (device : Device) {delivered : List (List Item)}
    (whole : ∀ items ∈ delivered, ∀ item ∈ items, item.Whole) :
    (device.deliver delivered).device.trapped = device.trapped := by
  induction delivered generalizing device with
  | nil => rfl
  | cons items rest ih =>
      have shown := device.showItems_trapped (whole items List.mem_cons_self)
      have later := ih (device.showItems items).device fun items member => whole items (List.mem_cons_of_mem _ member)
      unfold deliver Outcome.andThen
      split
      · exact shown
      · exact later.trans shown

theorem downloadItemsFromFirebase_trapped (device : Device) (withIds : List String) :
    (device.downloadItemsFromFirebase withIds).device.trapped = device.trapped := by
  unfold downloadItemsFromFirebase
  split
  · rfl
  · exact device.showItems_trapped fun item nothing => absurd nothing List.not_mem_nil

theorem getBasketItems_trapped (device : Device)
    (copy : ∀ basket, device.screen.basket = some basket → basket.Whole) :
    device.getBasketItems.device.trapped = device.trapped := by
  unfold getBasketItems
  split
  · rfl
  · rename_i basket hasBasket
    split
    · rename_i noItems
      have whole := (copy basket hasBasket).itemIds
      rw [noItems] at whole
      cases whole
    · exact device.downloadItemsFromFirebase_trapped _

theorem itemCompletion_trapped (lists : device.Lists Item.Whole) {read : DocumentRead} (reads : read.Reads Item.Whole)
    (download : Nat) : (device.itemCompletion download read).device.trapped = device.trapped := by
  unfold itemCompletion
  split
  · rfl
  · rename_i shared present
    exact deliver_trapped _ ((lists.collected shared (List.mem_of_getElem? present)).receive reads).2

/-- The loop of the delete gesture runs past the end of a copy that does not have the identifier. -/
theorem deleteRow_trapped_iff (whole : device.Whole) (running : device.trapped = false) {row : Nat}
    (inside : row < device.screen.allItems.length) :
    (device.deleteRow row).device.trapped = true ↔ Gesture.Stops device (.deleteRow row) := by
  rcases device.deleteRow_device row running with
    stopped | ⟨item, itemId, basket, name, itemIds, present, hasId, hasBasket, _, hasItems, member, same⟩
  · refine ⟨fun _ => ?_, fun _ => stopped⟩
    have present := List.getElem?_eq_getElem inside
    obtain ⟨itemId, hasId⟩ :=
      Option.isSome_iff_exists.mp (whole.lists.rows _ (List.mem_of_getElem? present)).id
    refine ⟨_, itemId, present, hasId, fun member => ?_⟩
    cases hasBasket : device.screen.basket with
    | none =>
        rw [hasBasket] at member
        cases member
    | some basket =>
        obtain ⟨name, hasName⟩ := Option.isSome_iff_exists.mp (whole.copy basket hasBasket).id
        obtain ⟨itemIds, hasItems⟩ := Option.isSome_iff_exists.mp (whole.copy basket hasBasket).itemIds
        have contained : itemId ∈ itemIds := by simpa [Basket.ids, hasBasket, hasItems] using member
        rw [deleteRow_eq running present hasId hasBasket hasItems hasName contained] at stopped
        dsimp only at stopped
        rw [getBasketItems_trapped, running] at stopped
        · cases stopped
        · rintro _ ⟨⟩
          exact ⟨hasName ▸ rfl, rfl⟩
  · have kept := whole.copy basket hasBasket
    have alive : (device.deleteRow row).device.trapped = false := by
      rw [same, getBasketItems_trapped]
      · exact running
      · rintro _ ⟨⟩
        exact ⟨kept.id, rfl⟩
    rw [alive]
    refine ⟨fun stopped => (by cases stopped), ?_⟩
    rintro ⟨other, otherId, shown, named, missing⟩
    obtain rfl := Option.some.inj (present.symm.trans shown)
    obtain rfl := Option.some.inj (hasId.symm.trans named)
    exact absurd (by simpa [Basket.ids, hasBasket, hasItems] using member) missing

theorem payButtonPressed_trapped (lists : device.Lists Item.Whole) (processable : Bool) :
    (device.payButtonPressed processable).device.trapped = device.trapped := by
  have unwrapped {Property : Type} (property : Item → Option Property)
      (has : ∀ item ∈ device.screen.allItems, (property item).isSome) :
      ∃ properties, device.screen.allItems.mapM property = some properties := by
    generalize device.screen.allItems = items at has
    induction items with
    | nil => exact ⟨[], rfl⟩
    | cons item rest ih =>
        obtain ⟨first, found⟩ := Option.isSome_iff_exists.mp (has item List.mem_cons_self)
        obtain ⟨others, later⟩ := ih fun item member => has item (List.mem_cons_of_mem _ member)
        exact ⟨first :: others, by simp [found, later]⟩
  obtain ⟨names, hasNames⟩ := unwrapped (fun item => item.name) fun item member => (lists.rows item member).name
  obtain ⟨prices, hasPrices⟩ := unwrapped (fun item => item.price) fun item member => (lists.rows item member).price
  obtain ⟨itemIds, hasIds⟩ := unwrapped (fun item => item.id) fun item member => (lists.rows item member).id
  simp only [payButtonPressed, hasNames, hasPrices, hasIds]
  rfl

end Device

/-- A gesture stops the application of whole data exactly in the listed cases. -/
theorem Gesture.handle_trapped_iff {device : Device} {made : Gesture} (whole : device.Whole)
    (allowed : made.allowed device = true) (account : made.savesProfile = true → device.auth ≠ none) :
    (made.handle device).device.trapped = true ↔ made.Stops device := by
  have running := World.running_of_allowed allowed
  have runs {outcome : Outcome} (same : outcome.device.trapped = device.trapped) :
      outcome.device.trapped = true ↔ False := by rw [same, running]; simp
  have update (values : Dictionary) (signedIn : device.auth ≠ none) :
      (device.updateCurrentUserInFirestore values).device.trapped = device.trapped := by
    unfold Device.updateCurrentUserInFirestore
    split
    · rfl
    · obtain ⟨uid, signedIn⟩ := Option.ne_none_iff_exists'.mp signedIn
      rw [Device.withCurrentId_of_some signedIn]
      rfl
  cases made with
  | deleteRow row =>
      simp only [Gesture.allowed, Bool.and_eq_true, decide_eq_true_eq] at allowed
      exact Device.deleteRow_trapped_iff whole running allowed.2
  | checkOut processable =>
      rcases whole.user_cases with nobody | ⟨user, uid, current, _⟩
      · simp [handle, Device.checkOutButtonWasTapped, Device.withCurrentUser, nobody, Device.trap, Gesture.Stops]
      · simp only [handle, Device.checkOutButtonWasTapped, Device.withCurrentUser, current, Gesture.Stops]
        have paid := Device.payButtonPressed_trapped whole.lists processable
        split <;> simp_all [Device.done]
  | completePayment =>
      rcases device.payPalPaymentDidComplete_device running with
        ⟨stopped, undecoded | unnamed⟩ | ⟨_, basket, name, hasBasket, _, same⟩
      · exact absurd undecoded whole.user
      · refine ⟨fun _ => ?_, fun _ => stopped⟩
        rw [Gesture.Stops, Option.eq_none_iff_forall_ne_some]
        intro basket hasBasket
        have named := (whole.copy basket hasBasket).id
        rw [unnamed basket hasBasket] at named
        cases named
      · simp [handle, same, running, Gesture.Stops, hasBasket]
  | viewDidAppear =>
      refine runs ?_
      rcases whole.user_cases with nobody | ⟨user, uid, current, signedIn⟩
      · simp only [handle, Device.viewDidAppear, Device.withCurrentUser, nobody]
        exact device.updateTotalLabels_trapped whole.lists.rows true
      · simp only [handle, Device.viewDidAppear, Device.withCurrentUser, current, Device.loadBasketFromFirestore,
          Device.withCurrentId_of_some signedIn]
        rfl
  | addToBasket item =>
      refine runs ?_
      rcases whole.user_cases with nobody | ⟨user, uid, current, signedIn⟩
      · simp only [handle, Device.addToBasketTapped, Device.withCurrentUser, nobody]
        rfl
      · simp only [handle, Device.addToBasketTapped, Device.withCurrentUser, current,
          Device.withCurrentId_of_some signedIn]
        rfl
  | saveProfile name surname address =>
      refine runs ?_
      simp only [handle, Device.saveBarButtonPressed]
      split
      · exact update _ (account rfl)
      · rfl
  | finishOnboarding name surname address => exact runs (update _ (account rfl))
  | updateUser withValues => exact runs (update _ (account rfl))
  | logOut signedOut => cases signedOut <;> exact runs rfl
  | cancelPayment => exact runs rfl
  | login email => exact runs rfl
  | register email => exact runs rfl

/-- A completion stops the application of whole data exactly in the listed case. -/
theorem Request.complete_trapped_iff {device : Device} {number : Nat} {request : Request} {reply : Reply}
    (whole : device.Whole) (running : device.trapped = false)
    (lists : Flight.Lists Item.Whole ⟨number, request, some reply⟩)
    (baskets : ∀ uid completion, request = .getBaskets uid completion → ∀ basket, reply.basket = some basket →
      basket.Whole) (uuid : String) :
    (request.complete uuid reply device).device.trapped = true ↔ request.Stops reply device := by
  have runs {outcome : Outcome} (same : outcome.device.trapped = device.trapped)
      (other : ∀ uid item, request ≠ .getBaskets uid (.addToBasket item)) :
      outcome.device.trapped = true ↔ request.Stops reply device := by
    rw [same, running]
    refine ⟨fun impossible => (by cases impossible), ?_⟩
    rintro ⟨uid, item, found, _⟩
    exact absurd found (other uid item)
  cases request with
  | getBaskets uid completion =>
      cases completion with
      | addToBasket item =>
          obtain ⟨itemId, hasId⟩ := Option.isSome_iff_exists.mp (Item.Whole.id lists)
          cases found : reply.basket with
          | none =>
              cases signedIn : device.auth with
              | none =>
                  refine ⟨fun _ => ⟨uid, item, rfl, found, signedIn⟩, fun _ => ?_⟩
                  simp only [complete, Device.addToBasketCompletion, found, Device.createNewBasket,
                    Device.withCurrentId, signedIn]
                  rfl
              | some owner =>
                  have alive :
                      ((Request.getBaskets uid (.addToBasket item)).complete uuid reply device).device.trapped =
                        false := by
                    simp only [complete, Device.addToBasketCompletion, found, Device.createNewBasket,
                      Device.withCurrentId, signedIn, hasId]
                    exact running
                  rw [alive]
                  refine ⟨fun impossible => (by cases impossible), ?_⟩
                  rintro ⟨_, _, _, _, nobody⟩
                  rw [signedIn] at nobody
                  cases nobody
          | some basket =>
              obtain ⟨name, hasName⟩ := Option.isSome_iff_exists.mp (baskets uid _ rfl basket found).id
              obtain ⟨itemIds, hasItems⟩ := Option.isSome_iff_exists.mp (baskets uid _ rfl basket found).itemIds
              have alive : ((Request.getBaskets uid (.addToBasket item)).complete uuid reply device).device.trapped =
                  false := by
                simp only [complete, Device.addToBasketCompletion, found, hasItems, hasId,
                  Device.updateBasketInFirestore, hasName]
                exact running
              rw [alive]
              refine ⟨fun impossible => (by cases impossible), ?_⟩
              rintro ⟨_, _, _, absent, _⟩
              rw [found] at absent
              cases absent
      | loadBasket =>
          refine runs ?_ (by simp)
          have loaded : ∀ basket, reply.basket = some basket → basket.Whole := baskets uid _ rfl
          exact Device.getBasketItems_trapped
            { device with screen := { device.screen with basket := reply.basket } } loaded
  | updateBasket name values completion =>
      refine runs ?_ (by simp)
      cases completion with
      | emptyTheBasket => exact device.getBasketItems_trapped whole.copy
      | addToBasket itemId => rfl
      | deleteRow itemId => rfl
  | getItem name download => exact runs (Device.itemCompletion_trapped whole.lists (lists reply rfl) download) (by simp)
  | getUser userId email =>
      obtain ⟨_, same⟩ := complete_user uuid reply device (.inl ⟨userId, email, rfl⟩)
      exact runs (same ▸ rfl) (by simp)
  | updateUser name values userObject =>
      obtain ⟨_, same⟩ := complete_user uuid reply device (.inr ⟨name, values, userObject, rfl⟩)
      exact runs (same ▸ rfl) (by simp)
  | signIn email =>
      refine runs ?_ (by simp)
      cases reply with
      | account uid isEmailVerified => cases isEmailVerified <;> rfl
      | _ => rfl
  | setBasket name data => exact runs rfl (by simp)
  | setUser name data => exact runs rfl (by simp)
  | createUser email => exact runs rfl (by simp)

end ShoppingApp
