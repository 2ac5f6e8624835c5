import ShoppingApp.Library.Pool
import ShoppingApp.Proof.PurchaseHistory
import ShoppingApp.Proof.ScreenHandlers

namespace ShoppingApp

namespace World

/-- The basket screen of this device appears. -/
def appearance (_world : World) : Event → List Nat
  | .gesture device .viewDidAppear => [device]
  | _ => []

/-- A gesture or a callback on the device may happen after these appearances. -/
def KeepsOffer (number : Nat) (world : World) (past : List Nat) : Event → Prop
  | .gesture device made => device = number → (world.devices number).MayMake (number ∈ past) made
  | .callback index _ => number ∈ past → ∀ flight ∈ world.flights[index]?, flight.device = number →
      (world.devices number).trapped = false → ∀ reply ∈ flight.reply,
        (world.devices number).MayRun flight.request reply
  | .serve _ _ => True

/-- The screen has priced rows, and before its first appearance it is empty and nothing fills it. -/
structure Screened (number : Nat) (past : List Nat) (world : World) : Prop where
  priced : (world.devices number).RowsPriced
  unopened : number ∉ past → (world.devices number).trapped = false →
    (world.devices number).screen.checkOutButton = true ∧
      (world.devices number).screen.allItems = [] ∧ (world.devices number).screen.basket = none ∧
      ∀ flight ∈ world.flights, flight.device = number → flight.request.fillsScreen = false

end World

/-- Only an appearance, a delete gesture with rows, and a payment with a basket issue requests that fill the screen. -/
theorem Gesture.fillsScreen_of_mem {gesture : Gesture} {device : Device} {request : Request}
    (other : gesture ≠ .viewDidAppear) (rows : ∀ row, gesture ≠ .deleteRow row)
    (basket : device.screen.basket = none) (member : request ∈ (gesture.handle device).issued) :
    request.fillsScreen = false := by
  cases issues_of_mem member with
  | loadBasket signedIn => exact absurd rfl other
  | readItem => exact absurd rfl (rows _)
  | deleteRow present hasId hasBasket hasItems hasName inside => rfl
  | emptyTheBasket hasBasket hasName =>
      rw [basket] at hasBasket
      cases hasBasket
  | _ => rfl

/-- A completion that does not fill the screen issues no request that fills it. -/
theorem Request.fillsScreen_of_follows {uuid : String} {device : Device} {request issued : Request} {reply : Reply}
    (other : request.fillsScreen = false) (follows : Follows uuid device request reply issued) :
    issued.fillsScreen = false := by
  cases follows with
  | readLoaded => cases other
  | readEmptied => cases other
  | _ => rfl

/-- A gesture keeps the rows priced. -/
theorem Gesture.handle_rowsPriced {gesture : Gesture} {device : Device} (running : device.trapped = false)
    (priced : device.RowsPriced) : (gesture.handle device).device.RowsPriced := by
  by_cases leaves : gesture.leavesOffer = true
  · exact (handle_keepsOffer device leaves).rowsPriced priced
  · cases gesture with
    | viewDidAppear =>
        simp only [handle, Device.viewDidAppear, Device.withCurrentUser]
        split
        · intro running
          cases running
        · intro _
          rw [Device.updateTotalLabels_rows]
          exact priced running
        · exact (Device.KeepsOffer.of_stays device.loadBasketFromFirestore_stays).rowsPriced priced
    | logOut signedOut => cases signedOut <;> exact priced
    | deleteRow row =>
        rcases device.deleteRow_device row running with stopped | ⟨_, _, _, _, _, _, _, _, _, _, _, same⟩
        · exact fun alive => absurd alive (by simp [handle, stopped])
        · simp only [handle, same]
          refine Device.getBasketItems_rowsPriced fun _ item member => ?_
          exact priced running item (List.mem_of_mem_eraseIdx member)
    | completePayment =>
        rcases device.payPalPaymentDidComplete_device running with ⟨stopped, _⟩ | ⟨_, _, _, _, _, same⟩
        · exact fun alive => absurd alive (by simp [handle, stopped])
        · simp only [handle, same]
          intro _ item member
          cases member
    | _ => exact absurd rfl leaves

/-- A payment is presented by a tap on the enabled button alone. -/
theorem Gesture.handle_backs {gesture : Gesture} {device : Device} (allowed : gesture.allowed device = true)
    (offers : ∀ processable, gesture = .checkOut processable → device.Offers) :
    (gesture.handle device).device.Backs := by
  have running := World.running_of_allowed allowed
  have idle (before : device.screen.payment = none)
      (outside : ∀ flag, gesture ≠ .checkOut flag ∧ gesture ≠ .logOut flag)
      (unpaid : gesture ≠ .cancelPayment ∧ gesture ≠ .completePayment) : (gesture.handle device).device.Backs := by
    intro _ payment present
    rw [(handle_trims device outside unpaid).payment, before] at present
    cases present
  cases gesture with
  | checkOut processable =>
      simp only [Gesture.allowed, running, Bool.not_false, Bool.true_and, Bool.and_eq_true, Option.isNone_iff_eq_none]
        at allowed
      obtain ⟨_, basket, rows⟩ := offers processable rfl running allowed.2
      exact device.checkOutButtonWasTapped_backs processable rows basket allowed.1
  | cancelPayment =>
      intro _ payment present
      cases present
  | completePayment =>
      rcases device.payPalPaymentDidComplete_device running with ⟨stopped, _⟩ | ⟨_, _, _, _, _, same⟩
      · exact fun alive => absurd alive (by simp [handle, stopped])
      · rw [handle, same]
        intro _ payment present
        cases present
  | logOut signedOut =>
      have before : device.screen.payment = none := by simpa [Gesture.allowed, running] using allowed
      intro _ payment present
      cases signedOut <;>
      · rw [show device.screen.payment = some payment from present] at before
        cases before
  | deleteRow row =>
      have before : device.screen.payment = none := by
        simp only [Gesture.allowed, Bool.and_eq_true, Option.isNone_iff_eq_none] at allowed
        exact allowed.1.2
      exact idle before (by simp) (by simp)
  | _ =>
      have before : device.screen.payment = none := by simpa [Gesture.allowed, running] using allowed
      exact idle before (by simp) (by simp)

namespace World

variable {world next : World} {number : Nat} {past : List Nat}

/-- A gesture on the device keeps the offer exactly when it may be made. -/
theorem Screened.offers (screened : Screened number past world) (held : number ∈ past → (world.devices number).Offers)
    {made : Gesture} (allowed : made.allowed (world.devices number) = true) :
    (number ∈ past ++ world.appearance (.gesture number made) →
        (made.handle (world.devices number)).device.Offers) ↔
      (world.devices number).MayMake (number ∈ past) made := by
  have running := running_of_allowed allowed
  have closed := fun never => screened.unopened never running
  by_cases leaves : made.leavesOffer = true
  · have keeps := Gesture.handle_keepsOffer (world.devices number) leaves
    have nothing : world.appearance (.gesture number made) = [] := by cases made <;> first | rfl | cases leaves
    rw [nothing, List.append_nil]
    refine iff_of_true (fun appeared => keeps.offers (held appeared)) ?_
    cases made <;> trivial
  · cases made with
    | viewDidAppear =>
        have appears : number ∈ past ++ world.appearance (.gesture number .viewDidAppear) := by simp [appearance]
        have decided := Device.viewDidAppear_offers running screened.priced held fun never =>
          ⟨(closed never).1, (closed never).2.1⟩
        exact ⟨fun offers => decided.mp (offers appears), fun may _ => decided.mpr may⟩
    | logOut signedOut =>
        simp only [appearance, List.append_nil, Gesture.handle, Device.MayMake]
        constructor
        · exact fun offers left appeared =>
            (Device.logOut_offers signedOut running (held appeared)).mp (offers appeared) left
        · exact fun may appeared =>
            (Device.logOut_offers signedOut running (held appeared)).mpr fun left => may left appeared
    | deleteRow row =>
        have inside : row < (world.devices number).screen.allItems.length := by
          simp only [Gesture.allowed, Bool.and_eq_true, decide_eq_true_eq] at allowed
          exact allowed.2
        have appeared : number ∈ past := by
          by_contra never
          rw [(closed never).2.1] at inside
          cases inside
        have decided : ((world.devices number).deleteRow row).device.Offers ↔
            (world.devices number).MayMake (number ∈ past) (.deleteRow row) :=
          Device.deleteRow_offers running (held appeared) inside
        simp only [appearance, List.append_nil]
        exact ⟨fun offers => decided.mp (offers appeared), fun may _ => decided.mpr may⟩
    | completePayment =>
        have decided : (world.devices number).payPalPaymentDidComplete.device.Offers ↔
            (world.devices number).MayMake (number ∈ past) .completePayment :=
          Device.completePayment_offers running
        simp only [appearance, List.append_nil]
        refine ⟨fun offers => ?_, fun may _ => decided.mpr may⟩
        by_cases appeared : number ∈ past
        · exact decided.mp (offers appeared)
        · intro _ basket hasBasket
          rw [(closed appeared).2.2.1] at hasBasket
          cases hasBasket
    | _ => exact absurd rfl leaves

/-- A gesture on the device keeps the checkout meaningful exactly when it may be made. -/
theorem Screened.gesture (screened : Screened number past world)
    (held : number ∈ past → (world.devices number).Meaningful) {made : Gesture}
    (allowed : made.allowed (world.devices number) = true) :
    (number ∈ past ++ world.appearance (.gesture number made) →
        (made.handle (world.devices number)).device.Meaningful) ↔
      (world.devices number).MayMake (number ∈ past) made := by
  rw [← screened.offers (fun appeared => (held appeared).1) allowed]
  refine ⟨fun kept appeared => (kept appeared).1, fun kept appeared => ⟨kept appeared, ?_⟩⟩
  refine Gesture.handle_backs allowed ?_
  rintro processable rfl
  simp only [appearance, List.append_nil] at appeared
  exact (held appeared).1

/-- A callback on the device keeps the checkout meaningful exactly when it may run. -/
theorem callback_meaningful (held : number ∈ past → (world.devices number).Meaningful) {index : Nat}
    {request : Request} {reply : Reply} (uuid : String)
    (found : world.flights[index]? = some ⟨number, request, some reply⟩) :
    (number ∈ past → ((world.callback index number request reply uuid).devices number).Meaningful) ↔
      KeepsOffer number world past (.callback index uuid) := by
  have named : KeepsOffer number world past (.callback index uuid) ↔
      (number ∈ past → (world.devices number).trapped = false → (world.devices number).MayRun request reply) := by
    simp [KeepsOffer, found]
  rw [named]
  refine forall_congr' fun appeared => ?_
  cases stopped : (world.devices number).trapped with
  | true =>
      rw [callback_of_stopped stopped]
      exact iff_of_true (held appeared) nofun
  | false =>
      rw [callback_of_running stopped, perform_devices, request.complete_meaningful uuid stopped (held appeared)]
      exact ⟨fun may _ => may, fun may => may rfl⟩

/-- A handler on another device leaves the screen. -/
theorem Screened.elsewhere (screened : Screened number past world) {device : Nat} (outcome : Outcome)
    (other : number ≠ device) : Screened number past (world.perform device outcome) := by
  have same := world.perform_other outcome other
  refine ⟨same ▸ screened.priced, fun never => ?_⟩
  rw [same]
  intro running
  obtain ⟨button, rows, basket, flights⟩ := screened.unopened never running
  refine ⟨button, rows, basket, forall_perform flights fun request _ owned => ?_⟩
  exact absurd owned.symm other

/-- Before the first appearance nothing fills the screen. -/
theorem Screened.perform (screened : Screened number past world) {outcome : Outcome}
    (running : (world.devices number).trapped = false) (priced : outcome.device.RowsPriced)
    (keeps : number ∉ past → outcome.device.trapped = false →
      outcome.device.screen.checkOutButton = (world.devices number).screen.checkOutButton ∧
        outcome.device.screen.allItems = (world.devices number).screen.allItems ∧
        outcome.device.screen.basket = (world.devices number).screen.basket)
    (silent : number ∉ past → ∀ request ∈ outcome.issued, request.fillsScreen = false) :
    Screened number past (world.perform number outcome) := by
  refine ⟨?_, fun never => ?_⟩
  · rw [perform_devices]
    exact priced
  · rw [perform_devices]
    intro alive
    obtain ⟨button, rows, basket, flights⟩ := screened.unopened never running
    obtain ⟨sameButton, sameRows, sameBasket⟩ := keeps never alive
    refine ⟨sameButton.trans button, sameRows.trans rows, sameBasket.trans basket, ?_⟩
    exact forall_perform flights fun request issued _ => silent never request issued

theorem Screened.mono (screened : Screened number past world) {later : List Nat} (grows : past ⊆ later) :
    Screened number later world :=
  ⟨screened.priced, fun never => screened.unopened fun earlier => never (grows earlier)⟩

/-- A gesture keeps the screen priced, and before the first appearance it keeps the screen empty. -/
theorem Screened.made (screened : Screened number past world) {made : Gesture}
    (allowed : made.allowed (world.devices number) = true) :
    Screened number (past ++ world.appearance (.gesture number made))
      (world.perform number (made.handle (world.devices number))) := by
  have running := running_of_allowed allowed
  have wider := screened.mono (List.subset_append_left past (world.appearance (.gesture number made)))
  have unopened := fun never => wider.unopened never running
  have closed (never : number ∉ past ++ world.appearance (.gesture number made)) : made ≠ .viewDidAppear := by
    rintro rfl
    simp [appearance] at never
  have rowless (never : number ∉ past ++ world.appearance (.gesture number made)) (row : Nat) :
      made ≠ .deleteRow row := by
    rintro rfl
    simp only [Gesture.allowed, Bool.and_eq_true, decide_eq_true_eq] at allowed
    have inside := allowed.2
    rw [(unopened never).2.1] at inside
    cases inside
  refine wider.perform running (Gesture.handle_rowsPriced running screened.priced) ?_ ?_
  · intro never alive
    by_cases leaves : made.leavesOffer = true
    · have keeps := Gesture.handle_keepsOffer (world.devices number) leaves
      exact ⟨keeps.button, keeps.rows, keeps.basket⟩
    · cases made with
      | viewDidAppear => exact absurd rfl (closed never)
      | deleteRow row => exact absurd rfl (rowless never row)
      | logOut signedOut => cases signedOut <;> exact ⟨rfl, rfl, rfl⟩
      | completePayment =>
          rcases (world.devices number).payPalPaymentDidComplete_device running with
            ⟨stopped, _⟩ | ⟨_, basket, _, hasBasket, _, _⟩
          · rw [Gesture.handle, stopped] at alive
            cases alive
          · rw [(unopened never).2.2.1] at hasBasket
            cases hasBasket
      | _ => exact absurd rfl leaves
  · intro never request issued
    exact Gesture.fillsScreen_of_mem (closed never) (rowless never) (unopened never).2.2.1 issued

/-- An answer of the server leaves the screen. -/
theorem Screened.serve (screened : Screened number past world)
    (held : number ∈ past → (world.devices number).Meaningful)
    {index device : Nat} {request : Request} {answer : Answer}
    (found : world.flights[index]? = some ⟨device, request, none⟩)
    (served : world.serve index device request answer = some next) :
    Screened number past next ∧ (number ∈ past → (next.devices number).Meaningful) := by
  have flights (reply : Reply) (silent : ∀ flight ∈ world.flights, flight.device = number →
      flight.request.fillsScreen = false) :
      ∀ flight ∈ world.flights.set index ⟨device, request, some reply⟩, flight.device = number →
        flight.request.fillsScreen = false :=
    Pool.forall_set silent fun owned => silent ⟨device, request, none⟩ (List.mem_of_getElem? found) owned
  have recorded (store : Store) (reply : Reply) :
      Screened number past (record { world with store := store } index device request reply) := by
    refine ⟨screened.priced, fun never running => ?_⟩
    obtain ⟨button, rows, basket, silent⟩ := screened.unopened never running
    exact ⟨button, rows, basket, flights reply silent⟩
  rcases serve_cases served with ⟨_, rfl⟩ | ⟨_, _, rfl⟩ | ⟨uid, isEmailVerified, _, _, rfl⟩
  · exact ⟨recorded world.store _, held⟩
  · exact ⟨recorded _ _, held⟩
  · obtain ⟨auth, changed, signedIn⟩ := world.signIn_device device number uid
    refine ⟨⟨?_, fun never => ?_⟩, fun appeared => ?_⟩
    · simp only [World.record, signedIn]
      exact screened.priced
    · simp only [World.record, signedIn]
      intro running
      obtain ⟨button, rows, basket, silent⟩ := screened.unopened never running
      exact ⟨button, rows, basket, flights _ silent⟩
    · simp only [World.record, signedIn]
      refine ⟨fun running enabled => ?_, (held appeared).2⟩
      obtain ⟨user, basket, rows⟩ := (held appeared).1 running enabled
      refine ⟨?_, basket, rows⟩
      rw [Device.currentUser_ne_iff] at user ⊢
      refine ⟨?_, user.2⟩
      rcases changed with rfl | rfl
      · exact Option.some_ne_none uid
      · exact user.1

/-- A callback keeps the screen priced, and before the first appearance it keeps the screen empty. -/
theorem Screened.returned (screened : Screened number past world) {index device : Nat} {request : Request}
    {reply : Reply} (uuid : String) (found : world.flights[index]? = some ⟨device, request, some reply⟩) :
    Screened number past (world.callback index device request reply uuid) := by
  have erased : Screened number past { world with flights := world.flights.eraseIdx index } := by
    refine ⟨screened.priced, fun never running => ?_⟩
    obtain ⟨button, rows, basket, silent⟩ := screened.unopened never running
    exact ⟨button, rows, basket, Pool.forall_eraseIdx silent⟩
  cases stopped : (world.devices device).trapped with
  | true => rwa [callback_of_stopped stopped]
  | false =>
      rw [callback_of_running stopped]
      by_cases same : number = device
      · subst same
        have silent (never : number ∉ past) : request.fillsScreen = false :=
          (screened.unopened never stopped).2.2.2 _ (List.mem_of_getElem? found) rfl
        refine erased.perform stopped (request.complete_rowsPriced uuid screened.priced) ?_ ?_
        · intro never _
          have keeps := request.complete_keepsOffer uuid reply (world.devices number) (silent never)
          exact ⟨keeps.button, keeps.rows, keeps.basket⟩
        · intro never issued follows
          exact Request.fillsScreen_of_follows (silent never) (Request.follows_of_mem follows)
      · exact erased.elsewhere _ same

/-- A step keeps the offer exactly when it meets the condition. -/
theorem Screened.step (screened : Screened number past world) (held : number ∈ past → (world.devices number).Meaningful)
    {event : Event} (taken : world.step event = some next) :
    Screened number (past ++ world.appearance event) next ∧
      ((number ∈ past ++ world.appearance event → (next.devices number).Meaningful) ↔
        KeepsOffer number world past event) := by
  cases event with
  | gesture device made =>
      obtain ⟨allowed, rfl⟩ := step_gesture.mp taken
      by_cases same : number = device
      · subst same
        refine ⟨screened.made allowed, ?_⟩
        rw [perform_devices]
        exact (screened.gesture held allowed).trans (by simp [KeepsOffer])
      · have unseen : number ∈ past ++ world.appearance (.gesture device made) ↔ number ∈ past := by
          cases made <;> simp [appearance, same]
        have wider := screened.mono (List.subset_append_left past (world.appearance (.gesture device made)))
        refine ⟨wider.elsewhere _ same, ?_⟩
        rw [unseen, World.perform_other _ _ same]
        exact iff_of_true held fun impossible => absurd impossible.symm same
  | serve index answer =>
      obtain ⟨device, request, found, served⟩ := step_serve.mp taken
      obtain ⟨kept, offers⟩ := screened.serve held found served
      simp only [appearance, List.append_nil]
      exact ⟨kept, iff_of_true offers trivial⟩
  | callback index uuid =>
      obtain ⟨device, request, reply, found, _, rfl⟩ := step_callback.mp taken
      simp only [appearance, List.append_nil]
      refine ⟨screened.returned uuid found, ?_⟩
      by_cases same : number = device
      · subst same
        exact callback_meaningful held uuid found
      · have kept : (world.callback index device request reply uuid).devices number = world.devices number :=
          World.perform_other _ _ same
        rw [kept]
        refine iff_of_true held ?_
        intro _ flight isFlight owned
        obtain rfl := Option.some.inj (found.symm.trans isFlight)
        exact absurd owned.symm same

end World

/-- From the launch of the application, the checkout of an opened basket screen is meaningful in every state of a
run exactly when the run never leaves the button enabled without a user, a basket, or a row. -/
theorem checkout_meaningful_iff {number : Nat} {world final : World} {events : List Event}
    (launched : (world.devices number).screen = {}) (idle : ∀ flight ∈ world.flights, flight.device ≠ number)
    (ran : world.run events = some final) :
    (∀ before after reached, events = before ++ after → world.run before = some reached →
        number ∈ Transition.log World.step World.appearance world before →
          (reached.devices number).Meaningful) ↔
      Transition.Along (Transition.recording World.step World.appearance)
        (fun recorded event => World.KeepsOffer number recorded.1 recorded.2 event) (world, []) events := by
  have screened : World.Screened number [] world := by
    refine ⟨?_, fun _ _ => ?_⟩
    · intro _ item member
      rw [launched] at member
      cases member
    · rw [launched]
      exact ⟨rfl, rfl, rfl, fun flight member owned => absurd owned (idle flight member)⟩
  have kept (state : World) (past : List Nat) (event : Event) (next : World) (screened : state.Screened number past)
      (held : number ∈ past → (state.devices number).Meaningful) (_ : True) (taken : state.step event = some next) :
      next.Screened number (past ++ state.appearance event) ∧
        ((number ∈ past ++ state.appearance event → (next.devices number).Meaningful) ↔
          World.KeepsOffer number state past event) := screened.step held taken
  exact Transition.reached_log_iff_along (fun state past => state.Screened number past) kept screened
    (fun opened => nomatch opened) (Transition.Along.of_all (fun _ _ => trivial) world events) ran

namespace Device

instance (appeared : Prop) [Decidable appeared] (device : Device) :
    ∀ made, Decidable (device.MayMake appeared made)
  | .viewDidAppear => inferInstanceAs (Decidable (_ ∧ _))
  | .logOut _ | .deleteRow _ | .completePayment => inferInstanceAs (Decidable (_ → _))
  | .addToBasket _ | .checkOut _ | .cancelPayment | .login _ | .register _ | .saveProfile _ _ _
  | .finishOnboarding _ _ _ | .updateUser _ => inferInstanceAs (Decidable True)

instance (device : Device) : ∀ request reply, Decidable (device.MayRun request reply)
  | .getBaskets _ .loadBasket, _ => inferInstanceAs (Decidable (_ → _))
  | .getItem _ download, reply => inferInstanceAs (Decidable (∀ shared ∈ device.downloads[download]?,
      ∀ items ∈ (shared.receive reply.read).2, _ → _ → _))
  | .getBaskets _ (.addToBasket _), _ | .setBasket _ _, _ | .updateBasket _ _ _, _ | .signIn _, _
  | .createUser _, _ | .getUser _ _, _ | .setUser _ _, _ | .updateUser _ _ _, _ => inferInstanceAs (Decidable True)

instance (device : Device) : Decidable device.Meaningful :=
  inferInstanceAs (Decidable ((_ → _ → _ ∧ _ ∧ _) ∧ (_ → ∀ payment ∈ device.screen.payment, _)))

end Device

instance (number : Nat) (world : World) (past : List Nat) :
    ∀ event, Decidable (World.KeepsOffer number world past event)
  | .gesture _ _ => inferInstanceAs (Decidable (_ → _))
  | .callback index _ => inferInstanceAs (Decidable (_ → ∀ flight ∈ world.flights[index]?, _ → _ →
      ∀ reply ∈ flight.reply, _))
  | .serve _ _ => inferInstanceAs (Decidable True)

/-- The shop has a basket for the account, and nobody is signed in. -/
def closedShop : World := { openShop ["a"] with devices := fun _ => {} }

/-- The basket screen appears before the login and again after it. -/
def appearTwice : List Event :=
  [.gesture 0 .viewDidAppear, .gesture 0 (.login "u@mail"), .serve 0 (.account "u" true), .callback 0 "n",
    .serve 0 .success, .callback 0 "n"] ++ loadOneItem ++ [.gesture 0 (.checkOut true)]

/-- The first appearance disables the button until the rows arrive, and the tap presents a payment. -/
theorem checkout_meaningful_after_login :
    ∃ final, closedShop.run appearTwice = some final ∧ (final.devices 0).screen.payment ≠ none ∧
      ∀ before after reached, appearTwice = before ++ after → closedShop.run before = some reached →
        0 ∈ Transition.log World.step World.appearance closedShop before → (reached.devices 0).Meaningful := by
  have met : Transition.Along (Transition.recording World.step World.appearance)
      (fun recorded event => World.KeepsOffer 0 recorded.1 recorded.2 event) (closedShop, []) appearTwice := by
    decide
  have idle : ∀ flight ∈ closedShop.flights, flight.device ≠ 0 := fun _ member => absurd member List.not_mem_nil
  exact ⟨_, rfl, nofun, (checkout_meaningful_iff rfl idle rfl).mpr met⟩

/-- The first appearance with a user leaves the button enabled while the load is pending, and the payment of its tap
lists nothing and stops the application when it completes. -/
theorem first_appearance_offers_nothing :
    ((openShop ["a"]).devices 0).screen = {} ∧ (openShop ["a"]).Quiet ∧
      ∃ appeared tapped completed, (openShop ["a"]).run [.gesture 0 .viewDidAppear] = some appeared ∧
        0 ∈ Transition.log World.step World.appearance (openShop ["a"]) [.gesture 0 .viewDidAppear] ∧
        ¬ (appeared.devices 0).Meaningful ∧
        appeared.run [.gesture 0 (.checkOut true)] = some tapped ∧
        (tapped.devices 0).screen.payment = some ⟨[]⟩ ∧
        tapped.run [.gesture 0 .completePayment] = some completed ∧ (completed.devices 0).trapped = true := by
  refine ⟨rfl, rfl, _, _, _, rfl, List.mem_cons_self, ?_, rfl, rfl, rfl, rfl⟩
  intro meaningful
  exact (meaningful.1 rfl rfl).2.1 rfl

end ShoppingApp
