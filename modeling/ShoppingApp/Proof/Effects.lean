import ShoppingApp.Proof.Inversion

namespace ShoppingApp

/-- A copy comes from an older copy of the same document, with some of its identifiers removed. -/
structure Basket.Shrinks (before after : Basket) : Prop where
  id : after.id = before.id
  ownerId : after.ownerId = before.ownerId
  itemIds : ∀ itemIds, after.itemIds = some itemIds →
    ∀ itemId ∈ itemIds, ∃ earlier, before.itemIds = some earlier ∧ itemId ∈ earlier

namespace Basket.Shrinks

theorem refl (basket : Basket) : basket.Shrinks basket :=
  ⟨rfl, rfl, fun itemIds has _ member => ⟨itemIds, has, member⟩⟩

theorem trans {first second third : Basket} (left : first.Shrinks second)
    (right : second.Shrinks third) : first.Shrinks third := by
  refine ⟨right.id.trans left.id, right.ownerId.trans left.ownerId, fun itemIds has itemId member => ?_⟩
  obtain ⟨middle, hasMiddle, member⟩ := right.itemIds itemIds has itemId member
  exact left.itemIds middle hasMiddle itemId member

end Basket.Shrinks

/-- The handler keeps the session, and it can shrink the basket copy. -/
structure Device.Narrows (before after : Device) : Prop where
  auth : after.auth = before.auth
  defaults : after.defaults = before.defaults
  basket : ∀ copy, after.screen.basket = some copy →
    ∃ earlier, before.screen.basket = some earlier ∧ earlier.Shrinks copy

/-- The handler also keeps the accumulator and the payment. -/
structure Device.Trims (before after : Device) : Prop extends before.Narrows after where
  purchasedItemIds : after.screen.purchasedItemIds = before.screen.purchasedItemIds
  payment : after.screen.payment = before.screen.payment

namespace Device

theorem Narrows.of_basket {before after : Device} (auth : after.auth = before.auth)
    (defaults : after.defaults = before.defaults)
    (basket : after.screen.basket = before.screen.basket) : before.Narrows after :=
  ⟨auth, defaults, fun copy has => ⟨copy, basket ▸ has, .refl copy⟩⟩

theorem Narrows.trans {first second third : Device} (left : first.Narrows second)
    (right : second.Narrows third) : first.Narrows third := by
  refine ⟨right.auth.trans left.auth, right.defaults.trans left.defaults, fun copy has => ?_⟩
  obtain ⟨middle, hasMiddle, later⟩ := right.basket copy has
  obtain ⟨earlier, hasEarlier, sooner⟩ := left.basket middle hasMiddle
  exact ⟨earlier, hasEarlier, sooner.trans later⟩

theorem Trims.trans {first second third : Device} (left : first.Trims second)
    (right : second.Trims third) : first.Trims third :=
  ⟨left.toNarrows.trans right.toNarrows, right.purchasedItemIds.trans left.purchasedItemIds,
    right.payment.trans left.payment⟩

theorem Keeps.trims {before after : Device} (keeps : before.Keeps after) : before.Trims after :=
  ⟨.of_basket keeps.auth keeps.defaults keeps.basket, keeps.purchasedItemIds, keeps.payment⟩

end Device

theorem Outcome.Stays.trims {before : Device} {outcome : Outcome} (stays : Stays before outcome) :
    before.Trims outcome.device := by
  rcases stays with same | same <;> rw [same] <;> exact ⟨.of_basket rfl rfl rfl, rfl, rfl⟩

theorem Outcome.andThen_trims {before : Device} {outcome : Outcome} {next : Device → Outcome}
    (first : before.Trims outcome.device) (second : outcome.device.Trims (next outcome.device).device) :
    before.Trims (outcome.andThen next).device := by
  cases running : outcome.device.trapped with
  | true => rwa [andThen_of_stopped running]
  | false =>
      rw [andThen_of_running running]
      exact first.trans second

namespace Device

theorem deleteRow_trims (device : Device) (row : Nat) : device.Trims (device.deleteRow row).device := by
  have trapped : device.Trims device.trap.device := Outcome.Stays.trims (.inr rfl)
  have rows : device.Trims { device with screen :=
      { device.screen with allItems := device.screen.allItems.eraseIdx row } } :=
    ⟨.of_basket rfl rfl rfl, rfl, rfl⟩
  unfold deleteRow
  split
  · exact trapped
  · rename_i item present
    dsimp only
    split
    · rename_i itemId basket hasId hasBasket
      split
      · exact rows.trans (Outcome.Stays.trims (.inr rfl))
      · rename_i remaining removed
        obtain ⟨itemIds, hasItems, scanned⟩ := Option.bind_eq_some_iff.mp removed
        rw [removeItemFromBasket_eq] at scanned
        split at scanned
        · obtain rfl := Option.some.inj scanned
          refine Outcome.andThen_trims (.trans ?_ (updateBasketInFirestore_stays _ _ _ _).trims)
            (getBasketItems_reads _).keeps.trims
          refine ⟨⟨rfl, rfl, fun copy has => ?_⟩, rfl, rfl⟩
          obtain rfl := Option.some.inj has
          refine ⟨basket, hasBasket, rfl, rfl, fun shorter has itemId member => ?_⟩
          obtain rfl := Option.some.inj has
          exact ⟨itemIds, hasItems, List.mem_of_mem_erase member⟩
        · cases scanned
    · exact rows.trans (Outcome.Stays.trims (.inr rfl))

theorem viewDidAppear_trims (device : Device) : device.Trims device.viewDidAppear.device := by
  unfold viewDidAppear withCurrentUser
  split
  · exact Outcome.Stays.trims (.inr rfl)
  · exact (device.updateTotalLabels_reads true).keeps.trims
  · exact device.loadBasketFromFirestore_stays.trims

/-- The tap keeps everything but the accumulator and the payment, and it adds the ids of the rows. -/
theorem payButtonPressed_eq {device : Device} {processable : Bool}
    (running : (device.payButtonPressed processable).device.trapped = false) :
    ∃ itemIds payment, device.screen.allItems.mapM (fun item => item.id) = some itemIds ∧
      device.payButtonPressed processable =
        { device with screen :=
          { device.screen with
            purchasedItemIds := device.screen.purchasedItemIds ++ itemIds
            payment := if processable then some payment else none } }.done := by
  unfold payButtonPressed at running ⊢
  split at running
  · rename_i names prices itemIds hasNames hasPrices hasIds
    exact ⟨itemIds, _, hasIds, rfl⟩
  · cases running

/-- The tap that leads to a payment adds the ids of the rows to the accumulator and presents the payment. -/
theorem checkOutButtonWasTapped_eq {device : Device} (idle : device.screen.payment = none)
    (pays : Gesture.completePayment.allowed (device.checkOutButtonWasTapped true).device = true) :
    ∃ itemIds payment, device.screen.allItems.mapM (fun item => item.id) = some itemIds ∧
      device.checkOutButtonWasTapped true =
        { device with screen :=
          { device.screen with
            purchasedItemIds := device.screen.purchasedItemIds ++ itemIds
            payment := some payment } }.done := by
  simp only [Gesture.allowed, Bool.and_eq_true, Bool.not_eq_true'] at pays
  unfold checkOutButtonWasTapped withCurrentUser at pays ⊢
  split at pays
  · cases pays.1
  · cases pays.1
  · dsimp only at pays ⊢
    split at pays
    · rename_i onBoard
      rw [if_pos onBoard]
      exact payButtonPressed_eq pays.1
    · rw [done, idle] at pays
      cases pays.2

end Device

/-- The clear shrinks the basket copy to nothing. -/
theorem Device.emptyTheBasket_narrows (device : Device) :
    device.Narrows device.emptyTheBasket.device := by
  unfold emptyTheBasket
  dsimp only
  split
  · exact .of_basket rfl rfl rfl
  · rename_i basket hasBasket
    refine .trans ?_ (updateBasketInFirestore_stays _ _ _ _).trims.toNarrows
    refine ⟨rfl, rfl, fun copy has => ?_⟩
    obtain rfl := Option.some.inj has
    refine ⟨basket, hasBasket, rfl, rfl, fun shorter has itemId member => ?_⟩
    obtain rfl := Option.some.inj has
    cases member

theorem Device.payPalPaymentDidComplete_narrows (device : Device) :
    device.Narrows device.payPalPaymentDidComplete.device := by
  have dismissed : device.Narrows { device with screen := { device.screen with payment := none } } :=
    .of_basket rfl rfl rfl
  have recorded := dismissed.trans
    (addItemsToPurchaseHistory_stays _ device.screen.purchasedItemIds).trims.toNarrows
  unfold payPalPaymentDidComplete
  dsimp only
  cases running : (addItemsToPurchaseHistory device.screen.purchasedItemIds
      { device with screen := { device.screen with payment := none } }).device.trapped with
  | true => rwa [Outcome.andThen_of_stopped running]
  | false =>
      rw [Outcome.andThen_of_running running]
      exact recorded.trans (emptyTheBasket_narrows _)

theorem Device.checkOutButtonWasTapped_narrows (device : Device) (processable : Bool) :
    device.Narrows (device.checkOutButtonWasTapped processable).device := by
  unfold checkOutButtonWasTapped withCurrentUser
  split
  · exact .of_basket rfl rfl rfl
  · exact .of_basket rfl rfl rfl
  · dsimp only
    split
    · unfold payButtonPressed
      split <;> exact .of_basket rfl rfl rfl
    · exact .of_basket rfl rfl rfl

/-- The gestures outside checkout keep the accumulator and the payment. -/
theorem Gesture.handle_trims {gesture : Gesture} (device : Device)
    (outside : ∀ flag, gesture ≠ .checkOut flag ∧ gesture ≠ .logOut flag)
    (unpaid : gesture ≠ .cancelPayment ∧ gesture ≠ .completePayment) :
    device.Trims (gesture.handle device).device := by
  cases gesture with
  | addToBasket item => exact (device.addToBasketTapped_stays item).trims
  | viewDidAppear => exact device.viewDidAppear_trims
  | deleteRow row => exact device.deleteRow_trims row
  | checkOut processable => exact absurd rfl (outside processable).1
  | cancelPayment => exact absurd rfl unpaid.1
  | completePayment => exact absurd rfl unpaid.2
  | login email => exact ⟨.of_basket rfl rfl rfl, rfl, rfl⟩
  | register email => exact ⟨.of_basket rfl rfl rfl, rfl, rfl⟩
  | logOut signedOut => exact absurd rfl (outside signedOut).2
  | saveProfile name surname address =>
      simp only [handle, Device.saveBarButtonPressed]
      split
      · exact (device.updateCurrentUserInFirestore_stays _).trims
      · exact ⟨.of_basket rfl rfl rfl, rfl, rfl⟩
  | finishOnboarding name surname address =>
      exact (device.updateCurrentUserInFirestore_stays _).trims
  | updateUser withValues => exact (device.updateCurrentUserInFirestore_stays withValues).trims

/-- Every gesture but a logout keeps the session. -/
theorem Gesture.handle_narrows {gesture : Gesture} (device : Device)
    (stays : ∀ signedOut, gesture ≠ .logOut signedOut) :
    device.Narrows (gesture.handle device).device := by
  cases gesture with
  | checkOut processable => exact device.checkOutButtonWasTapped_narrows processable
  | cancelPayment => exact .of_basket rfl rfl rfl
  | completePayment => exact device.payPalPaymentDidComplete_narrows
  | logOut signedOut => exact absurd rfl (stays signedOut)
  | addToBasket item => exact (handle_trims device (by simp) (by simp)).toNarrows
  | viewDidAppear => exact (handle_trims device (by simp) (by simp)).toNarrows
  | deleteRow row => exact (handle_trims device (by simp) (by simp)).toNarrows
  | login email => exact (handle_trims device (by simp) (by simp)).toNarrows
  | register email => exact (handle_trims device (by simp) (by simp)).toNarrows
  | saveProfile name surname address => exact (handle_trims device (by simp) (by simp)).toNarrows
  | finishOnboarding name surname address => exact (handle_trims device (by simp) (by simp)).toNarrows
  | updateUser withValues => exact (handle_trims device (by simp) (by simp)).toNarrows

/-- A gesture keeps the account and the cached record, or it removes both. -/
theorem Gesture.handle_session (gesture : Gesture) (device : Device) :
    ((gesture.handle device).device.auth = device.auth ∧
        (gesture.handle device).device.defaults = device.defaults) ∨
      ((gesture.handle device).device.auth = none ∧ (gesture.handle device).device.defaults = none) := by
  by_cases leaves : ∃ signedOut, gesture = .logOut signedOut
  · obtain ⟨signedOut, rfl⟩ := leaves
    cases signedOut with
    | false => exact .inl ⟨rfl, rfl⟩
    | true => exact .inr ⟨rfl, rfl⟩
  · have narrows := gesture.handle_narrows device fun signedOut same => leaves ⟨signedOut, same⟩
    exact .inl ⟨narrows.auth, narrows.defaults⟩

/-- A gesture keeps the copy of the basket or shrinks it. -/
theorem Gesture.handle_copy (gesture : Gesture) {device : Device} {copy : Basket}
    (has : (gesture.handle device).device.screen.basket = some copy) :
    ∃ earlier, device.screen.basket = some earlier ∧ earlier.Shrinks copy := by
  by_cases leaves : ∃ signedOut, gesture = .logOut signedOut
  · obtain ⟨signedOut, rfl⟩ := leaves
    refine ⟨copy, ?_, .refl copy⟩
    cases signedOut <;> exact has
  · exact (gesture.handle_narrows device fun signedOut same => leaves ⟨signedOut, same⟩).basket copy has

/-- A gesture keeps the cached record or removes it. -/
theorem Gesture.handle_defaults (gesture : Gesture) {device : Device} {record : Dictionary}
    (cached : (gesture.handle device).device.defaults = some record) : device.defaults = some record := by
  by_cases leaves : ∃ signedOut, gesture = .logOut signedOut
  · obtain ⟨signedOut, rfl⟩ := leaves
    cases signedOut with
    | false => exact cached
    | true => cases cached
  · have narrows := gesture.handle_narrows device fun signedOut same => leaves ⟨signedOut, same⟩
    exact narrows.defaults ▸ cached

/-- The completions outside the session and the basket load only touch the rows. -/
theorem Request.complete_keeps (uuid : String) {request : Request} (reply : Reply) (device : Device)
    (load : ∀ owner, request ≠ .getBaskets owner .loadBasket)
    (download : ∀ userId email, request ≠ .getUser userId email)
    (update : ∀ name values userObject, request ≠ .updateUser name values userObject) :
    device.Keeps (request.complete uuid reply device).device := by
  have stays {outcome : Outcome} (stays : Outcome.Stays device outcome) :
      device.Keeps outcome.device := by
    rcases stays with same | same <;> rw [same] <;> exact ⟨rfl, rfl, rfl, rfl, rfl⟩
  cases request with
  | getBaskets owner completion =>
      cases completion with
      | addToBasket item => exact stays (device.addToBasketCompletion_stays item uuid _)
      | loadBasket => exact absurd rfl (load owner)
  | setBasket name data => exact .refl device
  | updateBasket name values completion =>
      cases completion with
      | addToBasket itemId => exact .refl device
      | deleteRow itemId => exact .refl device
      | emptyTheBasket => exact device.getBasketItems_reads.keeps
  | getItem name number => exact (device.itemCompletion_reads number _).keeps
  | getUser userId email => exact absurd rfl (download userId email)
  | setUser name data => exact .refl device
  | updateUser name values userObject => exact absurd rfl (update name values userObject)
  | signIn email =>
      cases reply with
      | account uid isEmailVerified =>
          cases isEmailVerified <;> exact .refl device
      | error => exact .refl device
      | done => exact .refl device
      | documents documents => exact .refl device
      | document data => exact .refl device
  | createUser email => exact .refl device

/-- The completion of the basket load replaces the basket copy. -/
theorem Request.complete_load (uuid owner : String) (reply : Reply) (device : Device) :
    Device.Keeps { device with screen := { device.screen with basket := reply.basket } }
      ((Request.getBaskets owner .loadBasket).complete uuid reply device).device :=
  (Device.getBasketItems_reads _).keeps

/-- The callbacks of the session write nothing but the cached record. -/
theorem Request.complete_user (uuid : String) {request : Request} (reply : Reply) (device : Device)
    (session : (∃ userId email, request = .getUser userId email) ∨
      ∃ name values userObject, request = .updateUser name values userObject) :
    ∃ defaults, (request.complete uuid reply device).device = { device with defaults := defaults } := by
  rcases session with ⟨userId, email, rfl⟩ | ⟨name, values, userObject, rfl⟩
  · simp only [complete, Device.downloadUserCompletion]
    split
    · exact ⟨device.defaults, rfl⟩
    · exact ⟨_, rfl⟩
    · exact ⟨_, rfl⟩
  · cases reply with
    | done => exact ⟨some userObject, rfl⟩
    | error => exact ⟨device.defaults, rfl⟩
    | account uid isEmailVerified => exact ⟨device.defaults, rfl⟩
    | documents documents => exact ⟨device.defaults, rfl⟩
    | document data => exact ⟨device.defaults, rfl⟩

/-- The completions of the session save this record. -/
def Request.saved : Request → Reply → Option Dictionary
  | .getUser _ _, .document (some data) => some data
  | .getUser userId email, .document none => some (userDictionaryFrom (MUser.new userId email "" ""))
  | .updateUser _ _ userObject, .done => some userObject
  | _, _ => none

/-- A completion saves its record or keeps the cached one. -/
theorem Request.complete_defaults (uuid : String) (request : Request) (reply : Reply) (device : Device) :
    (request.complete uuid reply device).device.defaults = (request.saved reply).or device.defaults := by
  cases request with
  | getUser userId email =>
      cases reply with
      | document data => cases data <;> rfl
      | _ => rfl
  | updateUser name values userObject => cases reply <;> rfl
  | getBaskets owner completion =>
      cases completion with
      | addToBasket item => exact (complete_keeps uuid reply device (by simp) (by simp) (by simp)).defaults
      | loadBasket => exact (complete_load uuid owner reply device).defaults
  | _ => exact (complete_keeps uuid reply device (by simp) (by simp) (by simp)).defaults

/-- No completion changes the accumulator, the payment, or the Auth account. -/
theorem Request.complete_checkout (uuid : String) (request : Request) (reply : Reply)
    (device : Device) :
    (request.complete uuid reply device).device.auth = device.auth ∧
      (request.complete uuid reply device).device.screen.purchasedItemIds =
        device.screen.purchasedItemIds ∧
      (request.complete uuid reply device).device.screen.payment = device.screen.payment := by
  by_cases load : ∃ owner, request = .getBaskets owner .loadBasket
  · obtain ⟨owner, rfl⟩ := load
    have keeps := complete_load uuid owner reply device
    exact ⟨keeps.auth, keeps.purchasedItemIds, keeps.payment⟩
  · by_cases session : (∃ userId email, request = .getUser userId email) ∨
        ∃ name values userObject, request = .updateUser name values userObject
    · obtain ⟨defaults, same⟩ := complete_user uuid reply device session
      rw [same]
      exact ⟨rfl, rfl, rfl⟩
    · have keeps := complete_keeps uuid reply device (fun owner same => load ⟨owner, same⟩)
        (fun userId email same => session (.inl ⟨userId, email, same⟩))
        (fun name values userObject same => session (.inr ⟨name, values, userObject, same⟩))
      exact ⟨keeps.auth, keeps.purchasedItemIds, keeps.payment⟩

/-- Only the completion of a load brings a new basket copy to the screen. -/
theorem Request.complete_basket {uuid : String} {request : Request} {reply : Reply} {device : Device}
    {copy : Basket} (has : (request.complete uuid reply device).device.screen.basket = some copy) :
    device.screen.basket = some copy ∨
      ∃ owner, request = .getBaskets owner .loadBasket ∧ reply.basket = some copy := by
  by_cases load : ∃ owner, request = .getBaskets owner .loadBasket
  · obtain ⟨owner, rfl⟩ := load
    rw [(complete_load uuid owner reply device).basket] at has
    exact .inr ⟨owner, rfl, has⟩
  · by_cases session : (∃ userId email, request = .getUser userId email) ∨
        ∃ name values userObject, request = .updateUser name values userObject
    · obtain ⟨defaults, same⟩ := complete_user uuid reply device session
      rw [same] at has
      exact .inl has
    · have keeps := complete_keeps uuid reply device (fun owner same => load ⟨owner, same⟩)
        (fun userId email same => session (.inl ⟨userId, email, same⟩))
        (fun name values userObject same => session (.inr ⟨name, values, userObject, same⟩))
      exact .inl (keeps.basket ▸ has)

end ShoppingApp
