import ShoppingApp.Proof.HistoryScreen

namespace ShoppingApp

/-- The accumulator of a device grows only when an onboarded user checks the rows out. -/
theorem World.paid_of_step {world next : World} {event : Event} (taken : world.step event = some next) {number : Nat}
    {itemId : String} (member : itemId ∈ (next.devices number).screen.purchasedItemIds) :
    itemId ∈ (world.devices number).screen.purchasedItemIds ∨ ∃ processable user,
      event = .gesture number (.checkOut processable) ∧
      (world.devices number).currentUser = some (some user) ∧ user.onBoard = true ∧
      ∃ item ∈ (world.devices number).screen.allItems, item.id = some itemId := by
  cases event with
  | gesture device made =>
      obtain ⟨_, rfl⟩ := step_gesture.mp taken
      by_cases same : number = device
      · subst same
        rw [perform_devices] at member
        refine (Device.paid_of_gesture member).imp id ?_
        rintro ⟨processable, user, rfl, checked⟩
        exact ⟨processable, user, rfl, checked⟩
      · rw [perform_other _ _ same] at member
        exact .inl member
  | serve index answer =>
      obtain ⟨device, request, _, served⟩ := step_serve.mp taken
      rcases serve_cases served with ⟨_, rfl⟩ | ⟨_, _, rfl⟩ | ⟨uid, isEmailVerified, _, _, rfl⟩
      · exact .inl member
      · exact .inl member
      · obtain ⟨auth, _, signedIn⟩ := world.signIn_device device number uid
        simp only [record, signedIn] at member
        exact .inl member
  | callback index uuid =>
      obtain ⟨device, request, reply, _, _, rfl⟩ := step_callback.mp taken
      left
      cases stopped : (world.devices device).trapped with
      | true => rwa [callback_of_stopped stopped] at member
      | false =>
          rw [callback_of_running stopped] at member
          by_cases same : number = device
          · subst same
            rw [perform_devices, (request.complete_checkout uuid reply _).2.1] at member
            exact member
          · rwa [perform_other _ _ same] at member

namespace App

variable {double : String → Option Double} {link : StoragePath → String} {events : List AppEvent} {itemId : String}

/-- A signed-in device has tapped the basket button on the screen of this item at a moment of the run. -/
def Added (double : String → Option Double) (link : StoragePath → String) (events : List AppEvent) (itemId : String) :
    Prop :=
  ∃ before own after reached view, events = before ++ .addToBasketTapped own :: after ∧
    App.start.run double link before = some reached ∧ reached.views[own]? = some view ∧
    (reached.device view.device).auth ≠ none ∧ view.item.id = some itemId

/-- The identifiers of the item were added. -/
def AddedItem (double : String → Option Double) (link : StoragePath → String) (events : List AppEvent) (item : Item) :
    Prop :=
  ∀ itemId ∈ item.id, Added double link events itemId

/-- An onboarded user has checked out a row of this item, which was added before that. -/
def CheckedOut (double : String → Option Double) (link : StoragePath → String) (events : List AppEvent)
    (itemId : String) : Prop :=
  ∃ before number processable after reached user,
    events = before ++ .market (.shop (.gesture number (.checkOut processable))) :: after ∧
    App.start.run double link before = some reached ∧ (reached.device number).currentUser = some (some user) ∧
    user.onBoard = true ∧ (∃ item ∈ (reached.device number).screen.allItems, item.id = some itemId) ∧
    Added double link before itemId

/-- A signed-in device has completed a payment after a checkout of this item. -/
def Paid (double : String → Option Double) (link : StoragePath → String) (events : List AppEvent) (itemId : String) :
    Prop :=
  ∃ before number after reached, events = before ++ .market (.shop (.gesture number .completePayment)) :: after ∧
    App.start.run double link before = some reached ∧ (reached.device number).auth ≠ none ∧
    CheckedOut double link before itemId

/-- The baskets and the basket screens hold what was added, the accumulators what was checked out, and the records what
was paid. -/
structure Supplied (double : String → Option Double) (link : StoragePath → String) (events : List AppEvent)
    (app : App) : Prop where
  carries : app.market.shop.Carries (AddedItem double link events)
  refers : app.Refers (Added double link events)
  charged : ∀ number, ∀ itemId ∈ (app.device number).screen.purchasedItemIds, CheckedOut double link events itemId
  records : app.market.shop.Ruled (historyRule (Paid double link events))

theorem Added.append (added : Added double link events itemId) (later : List AppEvent) :
    Added double link (events ++ later) itemId := by
  obtain ⟨before, own, after, reached, view, rfl, tapped⟩ := added
  exact ⟨before, own, after ++ later, reached, view, List.append_assoc .., tapped⟩

theorem AddedItem.append {item : Item} (added : AddedItem double link events item) (later : List AppEvent) :
    AddedItem double link (events ++ later) item := fun itemId named => (added itemId named).append later

theorem CheckedOut.append (checked : CheckedOut double link events itemId) (later : List AppEvent) :
    CheckedOut double link (events ++ later) itemId := by
  obtain ⟨before, number, processable, after, reached, user, rfl, tapped⟩ := checked
  exact ⟨before, number, processable, after ++ later, reached, user, List.append_assoc .., tapped⟩

theorem Paid.append (paid : Paid double link events itemId) (later : List AppEvent) :
    Paid double link (events ++ later) itemId := by
  obtain ⟨before, number, after, reached, rfl, completed⟩ := paid
  exact ⟨before, number, after ++ later, reached, List.append_assoc .., completed⟩

variable {app next : App} {event : AppEvent}

/-- The tap of a signed-in device adds the item of its screen. -/
theorem Hands.added {made : Event} (hands : app.Hands event (.shop made))
    (ran : App.start.run double link events = some app) :
    app.market.shop.Adds (AddedItem double link (events ++ [event])) made := by
  rintro number item rfl signedIn itemId named
  cases hands with
  | market direct => cases direct
  | @addToBasket own view opened => exact ⟨events, own, [], app, view, rfl, ran, opened, signedIn, named⟩

/-- The documents that the shop reads were added. -/
theorem Refers.reads_added (refers : app.Refers (Added double link events)) (saves : app.market.Saves)
    {flight : Flight} (member : flight ∈ app.market.shop.flights) {name : String} {download : Nat}
    (asks : flight.request = .getItem name download) {data : Dictionary}
    (stored : app.market.shop.store.data .items name = some data) :
    AddedItem double link events (Item.ofDictionary data) := by
  intro itemId named
  obtain rfl := Option.some.inj ((saves.items name data stored).1.symm.trans named)
  have known := refers.shop.flights flight member
  rw [Flight.Refers, asks] at known
  exact known

namespace Supplied

/-- A step charges a device with the rows that it checks out. -/
theorem charges (supplied : app.Supplied double link events) (ran : App.start.run double link events = some app)
    (steps : app.Steps double link event next) (number : Nat) :
    ∀ itemId ∈ (next.device number).screen.purchasedItemIds, CheckedOut double link (events ++ [event]) itemId := by
  have kept : ∀ number, ∀ itemId ∈ (app.device number).screen.purchasedItemIds,
      CheckedOut double link (events ++ [event]) itemId :=
    fun number itemId member => (supplied.charged number itemId member).append [event]
  refine steps.shop_of (fun shop => ∀ number, ∀ itemId ∈ (shop.devices number).screen.purchasedItemIds,
    CheckedOut double link (events ++ [event]) itemId) ?_ kept ?_ number
  · intro world after aside before number itemId member
    obtain ⟨trapped, same⟩ := aside.devices number
    rw [same] at member
    exact before number itemId member
  · intro made shop hands stepped number itemId member
    rcases World.paid_of_step stepped member with old | ⟨processable, user, rfl, current, onboarded, item, row, named⟩
    · exact kept number itemId old
    · cases hands with
      | market direct =>
          exact ⟨events, number, processable, [], app, user, rfl, ran, current, onboarded, ⟨item, row, named⟩,
            (supplied.carries.devices number).rows item row itemId named⟩

/-- A completed payment records what was checked out. -/
theorem recorded (supplied : app.Supplied double link events) (ran : App.start.run double link events = some app)
    (steps : app.Steps double link event next) :
    next.market.shop.Ruled (historyRule (Paid double link (events ++ [event]))) := by
  have kept : app.market.shop.Ruled (historyRule (Paid double link (events ++ [event]))) :=
    supplied.records.mono (fun record holds itemId member => (holds itemId member).append [event])
      fun values fits itemId member => (fits itemId member).append [event]
  refine steps.shop_of (World.Ruled (historyRule (Paid double link (events ++ [event]))))
    (fun _ _ aside before => aside.ruled before) kept ?_
  intro made shop hands stepped
  have offered := hands.offered
  refine kept.step ?_ stepped
  rintro number gesture rfl
  refine Gesture.fits_historyRule (fun completes signedIn itemId member => ?_) (kept.cached number) offered
  subst completes
  cases hands with
  | market direct => exact ⟨events, number, [], app, rfl, ran, signedIn, supplied.charged number itemId member⟩

/-- A step supplies the screens with items that were added. -/
theorem step (supplied : app.Supplied double link events) (saves : app.market.Saves)
    (ran : App.start.run double link events = some app) (steps : app.Steps double link event next) :
    next.Supplied double link (events ++ [event]) := by
  have carries := supplied.carries.mono fun item added => AddedItem.append added [event]
  have refers := supplied.refers.mono fun itemId added => Added.append added [event]
  refine ⟨?_, refers.step carries (fun item added => added) steps, supplied.charges ran steps,
    supplied.recorded ran steps⟩
  refine steps.shop_of (World.Carries (AddedItem double link (events ++ [event])))
    (fun _ _ aside before => aside.carries before) carries ?_
  intro made shop hands stepped
  exact carries.step (hands.added ran)
    (fun flight member name download asks data stored => refers.reads_added saves member asks stored) stepped

theorem run (ran : App.start.run double link events = some app) : app.Supplied double link events := by
  refine Transition.run_prefix (Supplied double link) ⟨Lists.start.shop.toCarries, .start, ?_, ?_⟩ ?_ ran
  · exact fun number itemId nothing => absurd nothing List.not_mem_nil
  · exact World.Ruled.initial (fun _ => rfl) (fun _ => rfl) rfl
  · intro events app event next ranBefore supplied taken
    exact supplied.step (Sound.start.run ranBefore).saves ranBefore (steps_of_step taken)

end Supplied

end App

/-- In every run, a basket, a basket screen, and a request for one of them have items that a signed-in device has added
at an earlier moment. A purchase history, also a cached one or one in flight, has items that were added, then checked
out by an onboarded user, and then paid on a signed-in device. -/
theorem purchases_were_added_and_paid (double : String → Option Double) (link : StoragePath → String) {final : App}
    {events : List AppEvent} (ran : App.start.run double link events = some final) :
    final.market.shop.Refers (App.Added double link events) ∧
      final.market.shop.Carries (App.AddedItem double link events) ∧
      final.market.shop.Ruled (historyRule (App.Paid double link events)) := by
  have supplied := App.Supplied.run ran
  exact ⟨supplied.refers.shop, supplied.carries, supplied.records⟩

/-- The bought item was added and paid. -/
theorem purchases_were_added_and_paid_first :
    ∃ final, App.start.run sellerDouble sellerLink paidVisit = some final ∧
      final.market.shop.store.purchasedItemIds "a" = ["B"] ∧ App.Paid sellerDouble sellerLink paidVisit "B" := by
  obtain ⟨final, record, ran, stored, bought⟩ : ∃ final record,
      App.start.run sellerDouble sellerLink paidVisit = some final ∧
        final.market.shop.store.data .user "a" = some record ∧ record.purchasedItemIds = ["B"] := ⟨_, _, rfl, rfl, rfl⟩
  have ruled := (purchases_were_added_and_paid sellerDouble sellerLink ran).2.2
  refine ⟨final, ran, ?_, ruled.stored "a" record stored "B" (bought ▸ List.mem_singleton.mpr rfl)⟩
  rw [Store.purchasedItemIds, stored]
  exact bought

end ShoppingApp
