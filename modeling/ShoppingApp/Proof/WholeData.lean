import ShoppingApp.Proof.Stops
import ShoppingApp.Proof.StoredCategories
import ShoppingApp.Proof.StoredImages

namespace ShoppingApp

/-- An answer to a basket query shows a whole basket. -/
def Flight.Copied (flight : Flight) : Prop :=
  match flight.request with
  | .getBaskets _ _ => ∀ reply, flight.reply = some reply → ∀ basket, reply.basket = some basket → basket.Whole
  | _ => True

/-- The copies on the screens of running applications and in the answers are whole. -/
structure World.Copied (world : World) : Prop where
  copies : ∀ number, (world.devices number).trapped = false → ∀ basket,
    (world.devices number).screen.basket = some basket → basket.Whole
  flights : ∀ flight ∈ world.flights, flight.Copied

/-- The running applications and the requests in flight have whole data. -/
structure World.Whole (world : World) : Prop where
  devices : ∀ number, (world.devices number).trapped = false → (world.devices number).Whole
  flights : ∀ flight ∈ world.flights, flight.Lists Item.Whole ∧ flight.Copied

/-- A gesture leaves a whole copy whole. -/
theorem Gesture.handle_copied {device : Device} (made : Gesture) (running : device.trapped = false)
    (copied : ∀ basket, device.screen.basket = some basket → basket.Whole)
    (alive : (made.handle device).device.trapped = false) :
    ∀ basket, (made.handle device).device.screen.basket = some basket → basket.Whole := by
  have kept (same : (made.handle device).device.screen.basket = device.screen.basket) :
      ∀ basket, (made.handle device).device.screen.basket = some basket → basket.Whole :=
    fun basket has => copied basket (same.symm.trans has)
  by_cases leaves : made.leavesOffer = true
  · exact kept (made.handle_keepsOffer device leaves).basket
  · cases made with
    | viewDidAppear => exact kept device.viewDidAppear_screen.2.copy
    | logOut signedOut => cases signedOut <;> exact kept rfl
    | deleteRow row =>
        rcases device.deleteRow_device row running with
          stopped | ⟨item, itemId, basket, name, itemIds, _, _, hasBasket, _, _, _, same⟩
        · rw [handle, stopped] at alive
          cases alive
        · intro copy has
          rw [handle, same, (Device.getBasketItems_reads _).keeps.basket] at has
          obtain rfl := Option.some.inj has
          exact ⟨(copied basket hasBasket).id, rfl⟩
    | completePayment =>
        rcases device.payPalPaymentDidComplete_device running with
          ⟨stopped, _⟩ | ⟨_, basket, name, hasBasket, _, same⟩
        · rw [handle, stopped] at alive
          cases alive
        · intro copy has
          rw [handle, same] at has
          obtain rfl := Option.some.inj has
          exact ⟨(copied basket hasBasket).id, rfl⟩
    | _ => exact absurd rfl leaves

namespace World.Copied

variable {world next : World} {number index : Nat} {request : Request}

theorem perform (copied : world.Copied) {outcome : Outcome}
    (device : outcome.device.trapped = false → ∀ basket, outcome.device.screen.basket = some basket → basket.Whole) :
    (world.perform number outcome).Copied := by
  refine ⟨fun other => ?_, forall_perform copied.flights fun issued _ => ?_⟩
  · by_cases same : other = number
    · subst same
      rwa [perform_devices]
    · rw [perform_other _ _ same]
      exact copied.copies other
  · cases issued with
    | getBaskets uid completion => exact fun reply replied => by cases replied
    | _ => trivial

/-- A reply without documents shows no basket. -/
theorem replied (reply : Reply) (shows : ∀ uid completion basket, request = .getBaskets uid completion →
    reply.basket = some basket → basket.Whole) : Flight.Copied ⟨number, request, some reply⟩ := by
  cases request with
  | getBaskets uid completion =>
      intro given same basket shown
      obtain rfl := Option.some.inj same
      exact shows uid completion basket rfl shown
  | _ => trivial

/-- The copies stay whole while the basket documents are whole. -/
theorem step (copied : world.Copied)
    (stored : ∀ name data, world.store.data .basket name = some data → (Basket.ofDictionary data).Whole)
    {event : Event} (taken : world.step event = some next) : next.Copied := by
  have unseen {reply : Reply} (hidden : reply.basket = none) (request : Request) (number : Nat) :
      Flight.Copied ⟨number, request, some reply⟩ := by
    refine replied reply fun uid completion basket _ shown => ?_
    rw [hidden] at shown
    cases shown
  cases event with
  | gesture number made =>
      obtain ⟨allowed, rfl⟩ := step_gesture.mp taken
      have running := running_of_allowed allowed
      exact copied.perform fun alive => made.handle_copied running (copied.copies number running) alive
  | serve index answer =>
      obtain ⟨number, request, found, served⟩ := step_serve.mp taken
      rcases serve_cases served with ⟨_, rfl⟩ | ⟨_, _, rfl⟩ | ⟨uid, isEmailVerified, _, _, rfl⟩
      · exact ⟨copied.copies, Pool.forall_set copied.flights (unseen rfl request number)⟩
      · refine ⟨copied.copies, Pool.forall_set copied.flights (replied _ fun owner completion basket same shown => ?_)⟩
        subst same
        rw [Store.basket_of_answer] at shown
        obtain ⟨entry, first, rfl⟩ := Option.map_eq_some_iff.mp shown
        exact stored entry.1 entry.2 (Store.mem_basketsOf.mp (List.mem_of_head? first)).1
      · refine ⟨fun other running basket has => ?_, Pool.forall_set copied.flights (unseen rfl request number)⟩
        obtain ⟨auth, _, same⟩ := world.signIn_device number other uid
        simp only [record, same] at running has
        exact copied.copies other running basket has
  | callback index uuid =>
      obtain ⟨number, request, reply, found, _, rfl⟩ := step_callback.mp taken
      have erased : Copied { world with flights := world.flights.eraseIdx index } :=
        ⟨copied.copies, Pool.forall_eraseIdx copied.flights⟩
      cases stopped : (world.devices number).trapped with
      | true => rwa [callback_of_stopped stopped]
      | false =>
          rw [callback_of_running stopped]
          refine erased.perform fun _ basket has => ?_
          rcases Request.complete_basket has with old | ⟨owner, rfl, shown⟩
          · exact copied.copies number stopped basket old
          · exact copied.flights _ (List.mem_of_getElem? found) reply rfl basket shown

end World.Copied

/-- Beside the shop the copies stay, and no application starts again. -/
theorem World.Aside.copied {world next : World} (aside : world.Aside next) (copied : world.Copied)
    (stays : ∀ number, (next.devices number).trapped = false → (world.devices number).trapped = false) :
    next.Copied := by
  refine ⟨fun number running basket has => ?_, aside.flights ▸ copied.flights⟩
  obtain ⟨trapped, same⟩ := aside.devices number
  rw [same] at has
  exact copied.copies number (stays number running) basket has

end ShoppingApp
