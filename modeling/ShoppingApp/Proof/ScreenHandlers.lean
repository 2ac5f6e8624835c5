import ShoppingApp.Proof.Effects

namespace ShoppingApp

/-- A tap on the enabled button finds a user, a basket, and a row. -/
def Device.Offers (device : Device) : Prop :=
  device.trapped = false → device.screen.checkOutButton = true →
    device.currentUser ≠ some none ∧ device.screen.basket ≠ none ∧ device.screen.allItems ≠ []

/-- A presented payment lists a row, and its completion finds a basket to clear. -/
def Device.Backs (device : Device) : Prop :=
  device.trapped = false → ∀ payment ∈ device.screen.payment, payment.items ≠ [] ∧ device.screen.basket ≠ none

/-- The checkout of the screen is meaningful, from the button to the completed payment. -/
def Device.Meaningful (device : Device) : Prop := device.Offers ∧ device.Backs

/-- The labels of a running application have added up the prices of the rows. -/
def Device.RowsPriced (device : Device) : Prop :=
  device.trapped = false → ∀ item ∈ device.screen.allItems, item.price.isSome

/-- The handler keeps what the button stands for. -/
structure Device.KeepsOffer (before after : Device) : Prop where
  running : after.trapped = false → before.trapped = false
  button : after.screen.checkOutButton = before.screen.checkOutButton
  rows : after.screen.allItems = before.screen.allItems
  basket : after.screen.basket = before.screen.basket
  user : before.currentUser ≠ some none → after.currentUser ≠ some none

namespace Device

variable {device before after : Device}

/-- There is a current user exactly when somebody is signed in with a cached record. -/
theorem currentUser_ne_iff : device.currentUser ≠ some none ↔ device.auth ≠ none ∧ device.defaults ≠ none := by
  unfold currentUser
  cases device.auth <;> cases device.defaults <;> simp

theorem KeepsOffer.refl (device : Device) : device.KeepsOffer device := ⟨id, rfl, rfl, rfl, id⟩

theorem KeepsOffer.offers (keeps : before.KeepsOffer after) (offers : before.Offers) : after.Offers := by
  intro running enabled
  obtain ⟨user, basket, rows⟩ := offers (keeps.running running) (keeps.button ▸ enabled)
  exact ⟨keeps.user user, keeps.basket ▸ basket, keeps.rows ▸ rows⟩

theorem KeepsOffer.rowsPriced (keeps : before.KeepsOffer after) (priced : before.RowsPriced) : after.RowsPriced := by
  intro running
  rw [keeps.rows]
  exact priced (keeps.running running)

/-- The handler keeps the screen but for the accumulator and the payment, and it can stop the application. -/
theorem KeepsOffer.of_stays {outcome : Outcome} (stays : Outcome.Stays device outcome) :
    device.KeepsOffer outcome.device := by
  rcases stays with same | same <;> rw [same]
  · exact .refl device
  · exact ⟨nofun, rfl, rfl, rfl, id⟩

/-- The tap writes nothing but the accumulator and the payment. -/
theorem checkOutButtonWasTapped_keepsOffer (device : Device) (processable : Bool) :
    device.KeepsOffer (device.checkOutButtonWasTapped processable).device := by
  have stopped : device.KeepsOffer device.trap.device :=
    ⟨nofun, rfl, rfl, rfl, id⟩
  unfold checkOutButtonWasTapped withCurrentUser
  split
  · exact stopped
  · exact stopped
  · dsimp only
    split
    · unfold payButtonPressed
      split
      · exact ⟨id, rfl, rfl, rfl, id⟩
      · exact stopped
    · exact .refl device

theorem updateTotalLabels_rows (device : Device) (isEmpty : Bool) :
    (device.updateTotalLabels isEmpty).device.screen.allItems = device.screen.allItems := by
  unfold updateTotalLabels
  dsimp only
  split <;> rfl

/-- The rows, the label, and the button change together, and a row without a price stops the application. -/
theorem showItems_device (device : Device) (items : List Item) :
    (device.showItems items).device =
      { device with
        trapped := if items.all fun item => item.price.isSome then device.trapped else true
        screen :=
          { device.screen with
            allItems := items
            totalItemLabel := if decide (items.length = 0) then "0" else toString items.length
            checkOutButton :=
              if items.all fun item => item.price.isSome then decide (0 < items.length)
              else device.screen.checkOutButton } } := by
  unfold showItems updateTotalLabels
  dsimp only
  split <;> rfl

/-- Shown items offer a checkout when there is a user and a basket for them. -/
theorem showItems_offers {items : List Item} :
    (device.showItems items).device.Offers ↔
      (device.trapped = false → items ≠ [] → (∀ item ∈ items, item.price.isSome) →
        device.currentUser ≠ some none ∧ device.screen.basket ≠ none) := by
  rw [showItems_device]
  by_cases priced : (items.all fun item => item.price.isSome) = true
  · have all : ∀ item ∈ items, item.price.isSome := List.all_eq_true.mp priced
    have user : ∀ changed : Device, changed.auth = device.auth → changed.defaults = device.defaults →
        changed.currentUser = device.currentUser := by
      intro changed auth defaults
      rw [currentUser, auth, defaults, currentUser]
    unfold Offers
    simp only [priced, if_true, decide_eq_true_eq]
    constructor
    · intro offers running some _
      obtain ⟨current, basket, _⟩ := offers running (List.length_pos_iff.mpr some)
      exact ⟨user _ rfl rfl ▸ current, basket⟩
    · intro condition running some
      have rows := List.length_pos_iff.mp some
      obtain ⟨current, basket⟩ := condition running rows all
      exact ⟨(user _ rfl rfl).symm ▸ current, basket, rows⟩
  · refine iff_of_true ?_ ?_
    · intro running
      simp [priced] at running
    · intro _ _ all
      exact absurd (List.all_eq_true.mpr all) priced

theorem showItems_rowsPriced (device : Device) (items : List Item) : (device.showItems items).device.RowsPriced := by
  intro running
  rw [showItems_device] at running ⊢
  by_cases priced : (items.all fun item => item.price.isSome) = true
  · exact List.all_eq_true.mp priced
  · simp [priced] at running

/-- The same items are shown once. -/
theorem showItems_twice (device : Device) (items : List Item) :
    ((device.showItems items).device.showItems items).device = (device.showItems items).device := by
  simp only [showItems_device]
  by_cases priced : (items.all fun item => item.price.isSome) = true <;> simp [priced]

/-- One callback delivers one array, and it can deliver it twice. -/
theorem deliver_same {delivered : List (List Item)} {items : List Item} (some : items ∈ delivered)
    (same : ∀ other ∈ delivered, other = items) :
    (device.deliver delivered).device = (device.showItems items).device := by
  induction delivered generalizing device with
  | nil => cases some
  | cons first rest ih =>
      obtain rfl := same first List.mem_cons_self
      have later := fun other member => same other (List.mem_cons_of_mem _ member)
      rw [deliver]
      cases stopped : (device.showItems first).device.trapped with
      | true => rw [Outcome.andThen_of_stopped stopped]
      | false =>
          rw [Outcome.andThen_of_running stopped]
          dsimp only
          cases rest with
          | nil => rfl
          | cons second others =>
              have again : first ∈ second :: others := by
                rw [← later second List.mem_cons_self]
                exact List.mem_cons_self
              rw [ih again later, showItems_twice]

/-- The reload of the copy keeps the rows until its items arrive, or it shows an empty copy at once. -/
theorem getBasketItems_offers (offers : device.Offers) : device.getBasketItems.device.Offers := by
  unfold getBasketItems
  split
  · exact offers
  · split
    · exact (KeepsOffer.of_stays (.inr rfl)).offers offers
    · unfold downloadItemsFromFirebase
      split
      · exact offers
      · exact showItems_offers.mpr fun _ empty => absurd rfl empty

theorem getBasketItems_rowsPriced (priced : device.RowsPriced) : device.getBasketItems.device.RowsPriced := by
  unfold getBasketItems
  split
  · exact priced
  · split
    · exact (KeepsOffer.of_stays (.inr rfl)).rowsPriced priced
    · unfold downloadItemsFromFirebase
      split
      · exact priced
      · exact showItems_rowsPriced device []

/-- The reload shows an empty copy, and it starts a download for another one. -/
theorem getBasketItems_device {basket : Basket} {itemIds : List String} (copy : device.screen.basket = some basket)
    (hasItems : basket.itemIds = some itemIds) :
    device.getBasketItems.device =
      if itemIds = [] then (device.showItems []).device
      else { device with downloads := device.downloads ++ [{ withIds := itemIds }] } := by
  simp only [getBasketItems, copy, hasItems, downloadItemsFromFirebase]
  by_cases empty : itemIds = []
  · rw [if_pos empty, if_neg (by simp [empty])]
  · rw [if_neg empty, if_pos (List.length_pos_iff.mpr empty)]

/-- The delete gesture stops the application, or it shortens the rows and the copy and reloads the copy. -/
theorem deleteRow_device (device : Device) (row : Nat) (running : device.trapped = false) :
    (device.deleteRow row).device.trapped = true ∨
      ∃ item itemId basket name itemIds, device.screen.allItems[row]? = some item ∧ item.id = some itemId ∧
        device.screen.basket = some basket ∧ basket.id = some name ∧ basket.itemIds = some itemIds ∧
        itemId ∈ itemIds ∧
        (device.deleteRow row).device =
          Outcome.device (getBasketItems { device with screen :=
            { device.screen with
              allItems := device.screen.allItems.eraseIdx row
              basket := some { basket with itemIds := some (itemIds.erase itemId) } } }) := by
  cases present : device.screen.allItems[row]? with
  | none => exact .inl (by simp [deleteRow, present, trap])
  | some item =>
      cases hasId : item.id with
      | none => exact .inl (by simp [deleteRow, present, hasId, trap])
      | some itemId =>
          cases hasBasket : device.screen.basket with
          | none => exact .inl (by simp [deleteRow, present, hasId, hasBasket, trap])
          | some basket =>
              cases hasItems : basket.itemIds with
              | none => exact .inl (by simp [deleteRow, present, hasId, hasBasket, hasItems, trap])
              | some itemIds =>
                  by_cases member : itemId ∈ itemIds
                  · cases hasName : basket.id with
                    | none =>
                        left
                        simp [deleteRow, present, hasId, hasBasket, hasItems, removeItemFromBasket_eq, member,
                          updateBasketInFirestore, hasName, trap, Outcome.andThen]
                    | some name =>
                        right
                        refine ⟨item, itemId, basket, name, itemIds, rfl, hasId, rfl, hasName, hasItems, member, ?_⟩
                        rw [deleteRow_eq running present hasId hasBasket hasItems hasName member]
                  · left
                    simp [deleteRow, present, hasId, hasBasket, hasItems, removeItemFromBasket_eq, member, trap]

/-- The history is written for the current user, and only a record that does not decode stops the application. -/
theorem addItemsToPurchaseHistory_device (device : Device) (itemIds : List String) :
    (device.addItemsToPurchaseHistory itemIds).device =
      { device with trapped := if device.currentUser = none then true else device.trapped } := by
  unfold addItemsToPurchaseHistory withCurrentUser
  cases current : device.currentUser with
  | none => rfl
  | some user =>
      cases user with
      | none => rfl
      | some user =>
          obtain ⟨uid, record, signedIn, cached, _⟩ := currentUser_eq_some current
          rw [if_neg (Option.some_ne_none _)]
          have kept (values : Dictionary) : (device.updateCurrentUserInFirestore values).device = device := by
            simp only [updateCurrentUserInFirestore, cached, withCurrentId_of_some signedIn]
            rfl
          exact kept _

/-- The completion of a payment stops the application, or it leaves no rows under the button. -/
theorem payPalPaymentDidComplete_device (device : Device) (running : device.trapped = false) :
    (device.payPalPaymentDidComplete.device.trapped = true ∧
        (device.currentUser = none ∨ ∀ basket, device.screen.basket = some basket → basket.id = none)) ∨
      (device.currentUser ≠ none ∧ ∃ basket name, device.screen.basket = some basket ∧ basket.id = some name ∧
        device.payPalPaymentDidComplete.device =
          { device with screen :=
            { device.screen with
              basket := some { basket with itemIds := some [] }
              purchasedItemIds := []
              allItems := []
              payment := none } }) := by
  let dismissed : Device := { device with screen := { device.screen with payment := none } }
  have recorded := dismissed.addItemsToPurchaseHistory_device device.screen.purchasedItemIds
  by_cases current : device.currentUser = none
  · rw [if_pos (show dismissed.currentUser = none from current)] at recorded
    have stopped : (dismissed.addItemsToPurchaseHistory device.screen.purchasedItemIds).device.trapped = true := by
      rw [recorded]
    refine .inl ⟨?_, .inl current⟩
    rw [payPalPaymentDidComplete, Outcome.andThen_of_stopped stopped]
    exact stopped
  · rw [if_neg (show ¬ dismissed.currentUser = none from current)] at recorded
    have alive : (dismissed.addItemsToPurchaseHistory device.screen.purchasedItemIds).device.trapped = false := by
      rw [recorded]
      exact running
    rw [payPalPaymentDidComplete, Outcome.andThen_of_running alive, recorded]
    cases hasBasket : device.screen.basket with
    | none =>
        refine .inl ⟨by simp [emptyTheBasket, dismissed, hasBasket, trap], .inr fun copy impossible => ?_⟩
        cases impossible
    | some basket =>
        cases hasName : basket.id with
        | none =>
            refine .inl ⟨?_, .inr fun copy same => Option.some.inj same ▸ hasName⟩
            simp [emptyTheBasket, dismissed, hasBasket, updateBasketInFirestore, hasName, trap]
        | some name =>
            refine .inr ⟨current, basket, name, rfl, hasName, ?_⟩
            simp [emptyTheBasket, dismissed, hasBasket, updateBasketInFirestore, hasName, issue]

end Device

/-- These gestures write nothing that the button depends on. -/
def Gesture.leavesOffer : Gesture → Bool
  | .viewDidAppear | .deleteRow _ | .completePayment | .logOut _ => false
  | _ => true

theorem Gesture.handle_keepsOffer {gesture : Gesture} (device : Device) (leaves : gesture.leavesOffer = true) :
    device.KeepsOffer (gesture.handle device).device := by
  cases gesture with
  | addToBasket item => exact .of_stays (device.addToBasketTapped_stays item)
  | checkOut processable => exact device.checkOutButtonWasTapped_keepsOffer processable
  | cancelPayment => exact ⟨id, rfl, rfl, rfl, id⟩
  | login email => exact .refl device
  | register email => exact .refl device
  | saveProfile name surname address =>
      simp only [handle, Device.saveBarButtonPressed]
      split
      · exact .of_stays (device.updateCurrentUserInFirestore_stays _)
      · exact .refl device
  | finishOnboarding name surname address => exact .of_stays (device.updateCurrentUserInFirestore_stays _)
  | updateUser withValues => exact .of_stays (device.updateCurrentUserInFirestore_stays withValues)
  | viewDidAppear => cases leaves
  | deleteRow row => cases leaves
  | completePayment => cases leaves
  | logOut signedOut => cases leaves

/-- The completions of these requests can change the rows or the copy of the basket. -/
def Request.fillsScreen : Request → Bool
  | .getBaskets _ .loadBasket | .getItem _ _ | .updateBasket _ _ .emptyTheBasket => true
  | _ => false

theorem Request.complete_keepsOffer (uuid : String) {request : Request} (reply : Reply) (device : Device)
    (other : request.fillsScreen = false) : device.KeepsOffer (request.complete uuid reply device).device := by
  have saves (defaults : Option Dictionary) (kept : device.defaults ≠ none → defaults ≠ none) :
      device.KeepsOffer { device with defaults := defaults } := by
    refine ⟨id, rfl, rfl, rfl, ?_⟩
    rw [Device.currentUser_ne_iff, Device.currentUser_ne_iff]
    exact fun user => ⟨user.1, kept user.2⟩
  cases request with
  | getBaskets owner completion =>
      cases completion with
      | addToBasket item => exact .of_stays (device.addToBasketCompletion_stays item uuid _)
      | loadBasket => cases other
  | updateBasket name values completion =>
      cases completion with
      | emptyTheBasket => cases other
      | _ => exact .refl device
  | getItem name download => cases other
  | getUser userId email =>
      cases reply with
      | document data => cases data <;> exact saves _ fun _ => Option.some_ne_none _
      | _ => exact .refl device
  | updateUser name values userObject =>
      cases reply with
      | done => exact saves _ fun _ => Option.some_ne_none _
      | _ => exact .refl device
  | signIn email =>
      cases reply with
      | account uid isEmailVerified => cases isEmailVerified <;> exact .refl device
      | _ => exact .refl device
  | _ => exact .refl device

namespace Device

/-- The screen first appears without a user, it appears without a user only without rows, a logout and a
completed payment find the button disabled, and the last row is deleted with the last item of the copy. -/
def MayMake (appeared : Prop) (device : Device) : Gesture → Prop
  | .viewDidAppear => (device.currentUser.join.isSome = true → appeared) ∧
      (device.currentUser = some none → device.screen.allItems = [])
  | .logOut signedOut => signedOut = true → appeared → device.screen.checkOutButton = false
  | .deleteRow row => device.screen.checkOutButton = true → device.screen.allItems.length = 1 →
      ∀ item ∈ device.screen.allItems[row]?, ∀ itemId ∈ item.id, ∀ basket ∈ device.screen.basket,
        ∀ _name ∈ basket.id, ∀ itemIds ∈ basket.itemIds, itemId ∈ itemIds → itemIds.length = 1
  | .completePayment => device.currentUser ≠ none → ∀ basket ∈ device.screen.basket, ∀ _name ∈ basket.id,
      device.screen.checkOutButton = false
  | _ => True

/-- A load that finds no basket finds the button disabled and no payment presented, and items are shown for a
user with a basket. -/
def MayRun (device : Device) : Request → Reply → Prop
  | .getBaskets _ .loadBasket, reply => reply.basket = none →
      device.screen.checkOutButton = false ∧ device.screen.payment = none
  | .getItem _ download, reply => ∀ shared ∈ device.downloads[download]?,
      ∀ items ∈ (shared.receive reply.read).2, items ≠ [] → (∀ item ∈ items, item.price.isSome) →
        device.currentUser ≠ some none ∧ device.screen.basket ≠ none
  | _, _ => True

variable {device : Device} {appeared : Prop}

theorem viewDidAppear_offers (running : device.trapped = false) (priced : device.RowsPriced)
    (held : appeared → device.Offers)
    (unopened : ¬ appeared → device.screen.checkOutButton = true ∧ device.screen.allItems = []) :
    device.viewDidAppear.device.Offers ↔ device.MayMake appeared .viewDidAppear := by
  unfold viewDidAppear withCurrentUser MayMake
  cases current : device.currentUser with
  | none =>
      refine iff_of_true (fun running => ?_) ⟨fun present => ?_, fun absent => ?_⟩
      · cases running
      · cases present
      · cases absent
  | some user =>
      cases user with
      | none =>
          have all : (device.screen.allItems.all fun item => item.price.isSome) = true :=
            List.all_eq_true.mpr (priced running)
          simp only [updateTotalLabels, all, if_true]
          constructor
          · intro offers
            refine ⟨Bool.false_ne_true.elim, fun _ => ?_⟩
            by_contra some
            have user := (offers running (decide_eq_true (List.length_pos_iff.mpr some))).1
            exact user current
          · rintro ⟨_, rows⟩ _ enabled
            have empty := rows trivial
            have positive := of_decide_eq_true enabled
            simp only [empty] at positive
            cases positive
      | some user =>
          have keeps : device.KeepsOffer device.loadBasketFromFirestore.device :=
            .of_stays device.loadBasketFromFirestore_stays
          have same : device.loadBasketFromFirestore.device = device := by
            obtain ⟨uid, _, signedIn, _, _⟩ := currentUser_eq_some current
            rw [loadBasketFromFirestore, withCurrentId_of_some signedIn]
            rfl
          constructor
          · intro offers
            refine ⟨fun _ => ?_, fun absent => ?_⟩
            swap
            · cases absent
            by_contra closed
            obtain ⟨enabled, rows⟩ := unopened closed
            rw [same] at offers
            exact (offers running enabled).2.2 rows
          · rintro ⟨opened, _⟩
            exact keeps.offers (held (opened rfl))

theorem logOut_offers (signedOut : Bool) (running : device.trapped = false) (offers : device.Offers) :
    (device.logOutCurrentUser signedOut).device.Offers ↔
      (signedOut = true → device.screen.checkOutButton = false) := by
  cases signedOut with
  | false => exact iff_of_true offers nofun
  | true =>
      constructor
      · intro after _
        by_contra enabled
        exact (after running (eq_true_of_ne_false enabled)).1 rfl
      · intro disabled _ enabled
        rw [show device.screen.checkOutButton = true from enabled] at disabled
        cases disabled rfl

theorem deleteRow_offers {row : Nat} (running : device.trapped = false) (offers : device.Offers)
    (inside : row < device.screen.allItems.length) :
    (device.deleteRow row).device.Offers ↔ device.MayMake appeared (.deleteRow row) := by
  rcases device.deleteRow_device row running with
    stopped | ⟨item, itemId, basket, name, itemIds, present, hasId, hasBasket, hasName, hasItems, member, same⟩
  · refine iff_of_true (fun alive => absurd alive (by simp [stopped])) ?_
    intro _ _ item present itemId hasId basket hasBasket name hasName itemIds hasItems member
    have shortened := deleteRow_eq running present hasId hasBasket hasItems hasName member
    have alive : (device.deleteRow row).device.trapped = false := by
      rw [shortened, getBasketItems_device rfl rfl]
      split
      · rw [showItems_device]
        exact running
      · exact running
    rw [stopped] at alive
    cases alive
  · rw [same, getBasketItems_device rfl rfl]
    have shorter : (itemIds.erase itemId).length = itemIds.length - 1 := List.length_erase_of_mem member
    have positive : 0 < itemIds.length := List.length_pos_of_mem member
    by_cases last : itemIds.erase itemId = []
    · rw [if_pos last]
      refine iff_of_true (showItems_offers.mpr fun _ empty => absurd rfl empty) ?_
      intro _ _ other isOther otherId isId copy isCopy _ _ ids isIds _
      obtain rfl := Option.some.inj (hasBasket.symm.trans isCopy)
      obtain rfl := Option.some.inj (hasItems.symm.trans isIds)
      rw [last] at shorter
      simp only [List.length_nil] at shorter
      omega
    · rw [if_neg last]
      have rows : (device.screen.allItems.eraseIdx row).length = device.screen.allItems.length - 1 :=
        List.length_eraseIdx_of_lt inside
      have more : itemIds.length ≠ 1 := by
        intro single
        exact last (List.eq_nil_of_length_eq_zero (by omega))
      constructor
      · intro after enabled single
        exfalso
        have some := (after running enabled).2.2
        exact some (List.eq_nil_of_length_eq_zero (rows.trans (by omega)))
      · intro may _ enabled
        refine ⟨(offers running enabled).1, Option.some_ne_none _, fun empty => ?_⟩
        have gone : (device.screen.allItems.eraseIdx row).length = 0 := by
          rw [show device.screen.allItems.eraseIdx row = [] from empty, List.length_nil]
        have single : device.screen.allItems.length = 1 := by omega
        exact more (may enabled single item present itemId hasId basket hasBasket name hasName itemIds hasItems member)

theorem completePayment_offers (running : device.trapped = false) :
    device.payPalPaymentDidComplete.device.Offers ↔ device.MayMake appeared .completePayment := by
  rcases device.payPalPaymentDidComplete_device running with
    ⟨stopped, cause⟩ | ⟨current, basket, name, hasBasket, hasName, same⟩
  · refine iff_of_true (fun alive => absurd alive (by simp [stopped])) ?_
    intro current basket hasBasket name hasName
    have unnamed := cause.resolve_left current basket hasBasket
    rw [hasName] at unnamed
    cases unnamed
  · rw [same]
    constructor
    · intro after _ _ _ _ _
      by_contra enabled
      exact (after running (eq_true_of_ne_false enabled)).2.2 rfl
    · intro may _ enabled
      have disabled := may current basket hasBasket name hasName
      rw [show device.screen.checkOutButton = true from enabled] at disabled
      cases disabled

/-- A payment for at least one row lists at least one row. -/
theorem payButtonPressed_backs (processable : Bool) (rows : device.screen.allItems ≠ [])
    (basket : device.screen.basket ≠ none) : (device.payButtonPressed processable).device.Backs := by
  have mapped {Value : Type} {field : Item → Option Value} {values : List Value}
      (all : device.screen.allItems.mapM field = some values) : values ≠ [] := by
    obtain ⟨item, rest, shown⟩ := List.exists_cons_of_ne_nil rows
    rw [shown, List.mapM_cons] at all
    simp only [Option.bind_eq_bind, Option.bind_eq_some_iff, Option.pure_def, Option.some.injEq] at all
    obtain ⟨value, _, others, _, rfl⟩ := all
    exact List.cons_ne_nil value others
  unfold payButtonPressed
  split
  · rename_i names prices itemIds hasNames hasPrices hasIds
    intro _ payment present
    refine ⟨?_, basket⟩
    cases processable with
    | false => cases present
    | true =>
        obtain rfl := Option.some.inj present
        simp [mapped hasNames, mapped hasPrices]
  · exact nofun

theorem checkOutButtonWasTapped_backs (processable : Bool) (rows : device.screen.allItems ≠ [])
    (basket : device.screen.basket ≠ none) (idle : device.screen.payment = none) :
    (device.checkOutButtonWasTapped processable).device.Backs := by
  have waiting : device.Backs := by
    intro _ payment present
    rw [idle] at present
    cases present
  unfold checkOutButtonWasTapped withCurrentUser
  split
  · exact nofun
  · exact nofun
  · dsimp only
    split
    · exact payButtonPressed_backs processable rows basket
    · exact waiting

/-- All arrays that one callback delivers are the same. -/
theorem receive_same {download : ItemDownload} {read : DocumentRead} {first second : List Item}
    (left : first ∈ (download.receive read).2) (right : second ∈ (download.receive read).2) : first = second :=
  (ItemDownload.receive_delivers left).trans (ItemDownload.receive_delivers right).symm

theorem loadBasketCompletion_offers {basket : Option Basket} (running : device.trapped = false)
    (offers : device.Offers) :
    (device.loadBasketCompletion basket).device.Offers ↔
      (basket = none → device.screen.checkOutButton = false) := by
  unfold loadBasketCompletion
  cases basket with
  | none =>
      constructor
      · intro after _
        by_contra enabled
        exact (after running (eq_true_of_ne_false enabled)).2.1 rfl
      · intro disabled _ enabled
        rw [show device.screen.checkOutButton = true from enabled] at disabled
        cases disabled rfl
  | some basket =>
      refine iff_of_true (getBasketItems_offers ?_) nofun
      intro alive enabled
      obtain ⟨user, _, rows⟩ := offers alive enabled
      exact ⟨user, Option.some_ne_none _, rows⟩

/-- A load that finds no basket takes the basket away from a presented payment. -/
theorem loadBasketCompletion_backs {basket : Option Basket} (running : device.trapped = false)
    (backs : device.Backs) :
    (device.loadBasketCompletion basket).device.Backs ↔ (basket = none → device.screen.payment = none) := by
  let loaded : Device := { device with screen := { device.screen with basket := basket } }
  have keeps : loaded.Keeps (device.loadBasketCompletion basket).device := (getBasketItems_reads loaded).keeps
  cases basket with
  | none =>
      constructor
      · intro after _
        by_contra presented
        obtain ⟨payment, present⟩ := Option.ne_none_iff_exists'.mp presented
        exact (after running payment present).2 rfl
      · intro idle _ payment present
        rw [show device.screen.payment = some payment from present] at idle
        cases idle rfl
  | some basket =>
      refine iff_of_true (fun _ payment present => ?_) nofun
      rw [keeps.payment] at present
      rw [keeps.basket]
      exact ⟨(backs running payment present).1, Option.some_ne_none basket⟩

theorem itemCompletion_offers {download : Nat} {read : DocumentRead} (running : device.trapped = false)
    (offers : device.Offers) :
    (device.itemCompletion download read).device.Offers ↔
      ∀ shared ∈ device.downloads[download]?, ∀ items ∈ (shared.receive read).2, items ≠ [] →
        (∀ item ∈ items, item.price.isSome) → device.currentUser ≠ some none ∧ device.screen.basket ≠ none := by
  unfold itemCompletion
  cases present : device.downloads[download]? with
  | none => exact iff_of_true offers nofun
  | some shared =>
      dsimp only
      let updated : Device := { device with downloads := device.downloads.set download (shared.receive read).1 }
      by_cases silent : (shared.receive read).2 = []
      · rw [silent, deliver]
        refine iff_of_true offers ?_
        intro other same items member
        obtain rfl := Option.some.inj same
        rw [silent] at member
        cases member
      · obtain ⟨items, member⟩ := List.exists_mem_of_ne_nil _ silent
        have shown : (updated.deliver (shared.receive read).2).device = (updated.showItems items).device :=
          deliver_same member fun other inside => receive_same inside member
        rw [shown, showItems_offers]
        constructor
        · intro condition other same others isOther
          obtain rfl := Option.some.inj same
          obtain rfl := receive_same isOther member
          exact condition running
        · exact fun condition _ => condition shared rfl items member

theorem itemCompletion_rowsPriced {download : Nat} {read : DocumentRead} (priced : device.RowsPriced) :
    (device.itemCompletion download read).device.RowsPriced := by
  unfold itemCompletion
  cases present : device.downloads[download]? with
  | none => exact priced
  | some shared =>
      dsimp only
      let updated : Device := { device with downloads := device.downloads.set download (shared.receive read).1 }
      by_cases silent : (shared.receive read).2 = []
      · rw [silent, deliver]
        exact priced
      · obtain ⟨items, member⟩ := List.exists_mem_of_ne_nil _ silent
        have shown : (updated.deliver (shared.receive read).2).device = (updated.showItems items).device :=
          deliver_same member fun other inside => receive_same inside member
        rw [shown]
        exact showItems_rowsPriced updated items

end Device

/-- Only the load of the basket takes a basket away. -/
theorem Request.complete_basket_ne_none (uuid : String) {request : Request} (reply : Reply) {device : Device}
    (other : ∀ owner, request ≠ .getBaskets owner .loadBasket) (basket : device.screen.basket ≠ none) :
    (request.complete uuid reply device).device.screen.basket ≠ none := by
  by_cases session : (∃ userId email, request = .getUser userId email) ∨
      ∃ name values userObject, request = .updateUser name values userObject
  · obtain ⟨defaults, same⟩ := complete_user uuid reply device session
    rw [same]
    exact basket
  · have keeps := complete_keeps uuid reply device other
      (fun userId email same => session (.inl ⟨userId, email, same⟩))
      (fun name values userObject same => session (.inr ⟨name, values, userObject, same⟩))
    exact keeps.basket ▸ basket

/-- The other completions keep the basket of a presented payment. -/
theorem Request.complete_backs (uuid : String) {request : Request} (reply : Reply) {device : Device}
    (other : ∀ owner, request ≠ .getBaskets owner .loadBasket) (running : device.trapped = false)
    (backs : device.Backs) : (request.complete uuid reply device).device.Backs := by
  intro _ payment present
  rw [(request.complete_checkout uuid reply device).2.2] at present
  obtain ⟨items, basket⟩ := backs running payment present
  exact ⟨items, complete_basket_ne_none uuid reply other basket⟩

/-- A completion keeps the checkout meaningful exactly when it may run. -/
theorem Request.complete_meaningful (uuid : String) {request : Request} {reply : Reply} {device : Device}
    (running : device.trapped = false) (meaningful : device.Meaningful) :
    (request.complete uuid reply device).device.Meaningful ↔ device.MayRun request reply := by
  obtain ⟨offers, backs⟩ := meaningful
  by_cases load : ∃ owner, request = .getBaskets owner .loadBasket
  · obtain ⟨owner, rfl⟩ := load
    exact (and_congr (Device.loadBasketCompletion_offers running offers)
      (Device.loadBasketCompletion_backs running backs)).trans forall_and.symm
  · have other : ∀ owner, request ≠ .getBaskets owner .loadBasket := fun owner same => load ⟨owner, same⟩
    refine (and_iff_left (complete_backs uuid reply other running backs)).trans ?_
    by_cases fills : request.fillsScreen = true
    · cases request with
      | getBaskets owner completion =>
          cases completion with
          | addToBasket item => cases fills
          | loadBasket => exact absurd rfl (other owner)
      | updateBasket name values completion =>
          cases completion with
          | emptyTheBasket => exact iff_of_true (Device.getBasketItems_offers offers) trivial
          | _ => cases fills
      | getItem name download => exact Device.itemCompletion_offers running offers
      | _ => cases fills
    · have keeps := request.complete_keepsOffer uuid reply device (Bool.eq_false_iff.mpr fills)
      refine iff_of_true (keeps.offers offers) ?_
      cases request with
      | getBaskets owner completion =>
          cases completion with
          | addToBasket item => trivial
          | loadBasket => exact absurd rfl fills
      | getItem name download => exact absurd rfl fills
      | _ => trivial

theorem Request.complete_rowsPriced (uuid : String) {request : Request} {reply : Reply} {device : Device}
    (priced : device.RowsPriced) : (request.complete uuid reply device).device.RowsPriced := by
  by_cases fills : request.fillsScreen = true
  · cases request with
    | getBaskets owner completion =>
        cases completion with
        | addToBasket item => cases fills
        | loadBasket => exact Device.getBasketItems_rowsPriced priced
    | updateBasket name values completion =>
        cases completion with
        | emptyTheBasket => exact Device.getBasketItems_rowsPriced priced
        | _ => cases fills
    | getItem name download => exact Device.itemCompletion_rowsPriced priced
    | _ => cases fills
  · exact (request.complete_keepsOffer uuid reply device (Bool.eq_false_iff.mpr fills)).rowsPriced priced

end ShoppingApp
