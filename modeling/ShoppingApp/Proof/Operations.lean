import ShoppingApp.Proof.Payment
import ShoppingApp.Proof.Settling
import ShoppingApp.Proof.SingleRequest

namespace ShoppingApp

/-- This is the plain multiset model of one account during and between the visits to the basket screen. -/
structure Ledger where
  visiting : Bool := false
  basket : Multiset String
  purchased : Multiset String

namespace Ledger

/-- An item screen ends the visit, and the basket gets one more item. -/
def add (itemId : String) (ledger : Ledger) : Ledger :=
  { ledger with visiting := false, basket := itemId ::ₘ ledger.basket }

/-- A visit begins. -/
def appear (ledger : Ledger) : Ledger := { ledger with visiting := true }

/-- The basket loses one occurrence of the item. -/
def delete (itemId : String) (ledger : Ledger) : Ledger :=
  { ledger with basket := ledger.basket.erase itemId }

/-- The whole basket is bought. -/
def pay (ledger : Ledger) : Ledger :=
  { ledger with basket := 0, purchased := ledger.purchased + ledger.basket }

end Ledger

/-- These are the operations of one account on its basket. -/
inductive Operation where
  | addToBasket (item : Item)
  | appear
  | deleteRow (row : Nat)
  | pay

/-- A payment takes the tap on the button and the completion in PayPal. -/
def Operation.gestures : Operation → List Gesture
  | .addToBasket item => [.addToBasket item]
  | .appear => [.viewDidAppear]
  | .deleteRow row => [.deleteRow row]
  | .pay => [.checkOut true, .completePayment]

/-- Rows are deleted and paid during a visit, and a payment needs a row. -/
def Operation.offered (device : Device) (ledger : Ledger) : Operation → Bool
  | .addToBasket _ | .appear => true
  | .deleteRow _ => ledger.visiting
  | .pay => ledger.visiting && !device.screen.allItems.isEmpty

/-- The multiset model takes the identifier of the item or of the row. -/
def Operation.post (device : Device) (ledger : Ledger) : Operation → Ledger
  | .addToBasket item => item.id.elim ledger fun itemId => ledger.add itemId
  | .appear => ledger.appear
  | .deleteRow row =>
      (device.screen.allItems[row]?.bind fun item => item.id).elim ledger fun itemId => ledger.delete itemId
  | .pay => ledger.pay

/-- An operation is performed with the answers and the callbacks of its requests. -/
structure Performance where
  operation : Operation
  replies : List Event

/-- The item of an add gesture is sold under its identifier. -/
def Performance.Sold (store : Store) (performance : Performance) : Prop :=
  ∀ item, performance.operation = .addToBasket item → ∃ itemId, item.id = some itemId ∧ store.Sells itemId

namespace World

/-- An operation runs beside the multiset model until all its requests are answered. -/
def operate (number : Nat) (state : World × Ledger) (performance : Performance) : Option (World × Ledger) :=
  if performance.operation.offered (state.1.devices number) state.2 then
    (state.1.run (performance.operation.gestures.map (.gesture number) ++ performance.replies)).bind fun next =>
      if next.flights.isEmpty then
        some (next, performance.operation.post (state.1.devices number) state.2)
      else none
  else none

/-- The server, the cached record, and the rows of a visit agree with the multiset model. -/
structure Matches (number : Nat) (uid : String) (world : World) (ledger : Ledger) : Prop where
  single : (world.store.basketsOf uid).length ≤ 1
  basket : ((world.store.basketsOf uid).flatMap fun entry => entry.2.itemIds : List String) = ledger.basket
  purchased : (world.store.purchasedItemIds uid : Multiset String) = ledger.purchased
  cached : (world.devices number).defaults = world.store.data .user uid
  rows : ledger.visiting = true →
    ((world.devices number).rowIds : Multiset (Option String)) = ledger.basket.map some

/-- The account has no basket yet, or its only basket document holds the basket of the ledger. -/
inductive Holds (number : Nat) (uid : String) (world : World) (ledger : Ledger) : Prop where
  | nothing (absent : world.store.basketsOf uid = []) (empty : ledger.basket = 0)
      (rows : (world.devices number).screen.allItems = [])
  | basket {name : String} {data : Dictionary} {itemIds : List String}
      (single : world.store.basketsOf uid = [(name, data)])
      (decoded : Basket.ofDictionary data = ⟨some name, some uid, some itemIds⟩)
      (contents : (itemIds : Multiset String) = ledger.basket)
      (shown : ledger.visiting = true →
        (world.devices number).screen.basket = some ⟨some name, some uid, some itemIds⟩ ∧
          (world.devices number).rowIds.Perm (itemIds.map some))

/-- Between two operations nothing is in flight, and the account has the contents of the ledger. -/
structure Rests (number : Nat) (uid : String) (initial : Store) (world : World) (ledger : Ledger) : Prop where
  quiet : world.Quiet
  goods : world.store.data .items = initial.data .items
  auth : (world.devices number).auth = some uid
  accumulator : (world.devices number).screen.purchasedItemIds = []
  user : ∃ record user, (world.devices number).defaults = some record ∧
    world.store.data .user uid = some record ∧ MUser.ofDictionary record = some user ∧
    (user.purchasedItemIds : Multiset String) = ledger.purchased
  sold : ∀ itemId ∈ ledger.basket, initial.Sells itemId
  holds : Holds number uid world ledger
  running : initial.Priced → (world.devices number).trapped = false

end World

theorem Store.sells_congr {first second : Store} (same : second.data .items = first.data .items)
    {itemId : String} : second.Sells itemId ↔ first.Sells itemId := by
  rw [Sells, Sells, same]

theorem Store.priced_congr {first second : Store} (same : second.data .items = first.data .items) :
    second.Priced ↔ first.Priced := by
  rw [Priced, Priced, same]

namespace World.Rests

variable {store initial : Store} {devices : Nat → Device} {number : Nat} {uid : String} {final world : World}
  {ledger : Ledger} {events : List Event}

/-- The invariant says what the multiset model says. -/
theorem matches_ledger (rests : Rests number uid initial world ledger) : Matches number uid world ledger := by
  obtain ⟨record, user, cached, stored, decoded, purchased⟩ := rests.user
  have history : (world.store.purchasedItemIds uid : Multiset String) = ledger.purchased := by
    rw [Store.purchasedItemIds, stored, Option.map_some, Option.getD_some,
      ← MUser.ofDictionary_purchasedItemIds decoded, purchased]
  have same : (world.devices number).defaults = world.store.data .user uid := cached.trans stored.symm
  cases rests.holds with
  | nothing absent empty rows =>
      refine ⟨?_, ?_, history, same, fun _ => ?_⟩
      · rw [absent]
        exact Nat.zero_le 1
      · rw [absent, empty]
        rfl
      · rw [Device.rowIds, rows, empty]
        rfl
  | @basket name data itemIds single decoded contents shown =>
      have items : data.itemIds = itemIds := by
        have read := congrArg Basket.itemIds decoded
        exact congrArg (fun found => Option.getD found []) read
      refine ⟨?_, ?_, history, same, fun visiting => ?_⟩
      · rw [single]
        exact Nat.le_refl 1
      · rw [single, List.flatMap_singleton, items, contents]
      · rw [Multiset.coe_eq_coe.mpr (shown visiting).2, ← contents, Multiset.map_coe]

theorem currentUser (rests : Rests number uid initial world ledger) :
    ∃ user, (world.devices number).currentUser = some (some user) := by
  obtain ⟨record, user, cached, _, decoded, _⟩ := rests.user
  exact ⟨user, by simp [Device.currentUser, rests.auth, cached, decoded]⟩

/-- The write of an add gesture changes only the basket of the ledger. -/
theorem written (rests : Rests number uid initial ⟨store, devices, []⟩ ledger) {itemId : String}
    {request : Request} (sells : initial.Sells itemId) (kept : ∀ data, request.onUser uid data = data)
    (holds : Holds number uid ⟨(store.answer request).1, devices, []⟩ (ledger.add itemId)) :
    Rests number uid initial ⟨(store.answer request).1, devices, []⟩ (ledger.add itemId) where
  quiet := rfl
  goods := (funext (store.answer_items request)).trans rests.goods
  auth := rests.auth
  accumulator := rests.accumulator
  user := by
    obtain ⟨record, user, cached, stored, decoded, purchased⟩ := rests.user
    refine ⟨record, user, cached, ?_, decoded, purchased⟩
    exact (store.answer_user request uid).trans ((kept _).trans stored)
  sold := by
    intro other member
    rcases Multiset.mem_cons.mp member with rfl | member
    · exact sells
    · exact rests.sold other member
  holds := holds
  running := rests.running

/-- The first add gesture creates the basket. -/
theorem created (rests : Rests number uid initial ⟨store, devices, []⟩ ledger) {item : Item}
    {itemId uuid : String} (hasId : item.id = some itemId) (sells : initial.Sells itemId)
    (absent : store.basketsOf uid = []) (empty : ledger.basket = 0)
    (fresh : store.data .basket uuid = none) (running : (devices number).trapped = false)
    (replies : ∀ event ∈ events, event.isGesture = false ∧ event.Succeeds)
    (ran : World.run (World.perform ⟨store, devices, []⟩ number
      ((devices number).addToBasketCompletion item uuid none)) events = some final) (quiet : final.Quiet) :
    Rests number uid initial final (ledger.add itemId) := by
  have signedIn : (devices number).auth = some uid := rests.auth
  have creates : (devices number).addToBasketCompletion item uuid none =
      (devices number).issue
        (.setBasket uuid (basketDictionaryFrom ⟨some uuid, some uid, some [itemId]⟩)) := by
    simp [Device.addToBasketCompletion, Device.createNewBasket, Device.withCurrentId_of_some signedIn,
      hasId, Device.saveBasketToFirestore]
  rw [creates, perform_issue] at ran
  obtain rfl := run_last rfl running (fun _ _ _ => rfl) replies ran quiet
  have single := store.basketsOf_create uid itemId fresh
  rw [absent] at single
  apply rests.written sells (fun _ => rfl)
  refine .basket (List.perm_singleton.mp single) rfl ?_ fun visiting => by cases visiting
  rw [Ledger.add, empty]
  rfl

/-- A later add gesture writes the longer array. -/
theorem appended (rests : Rests number uid initial ⟨store, devices, []⟩ ledger) {item : Item}
    {itemId uuid name : String} {data : Dictionary} {itemIds : List String} (hasId : item.id = some itemId)
    (sells : initial.Sells itemId) (single : store.basketsOf uid = [(name, data)])
    (decoded : Basket.ofDictionary data = ⟨some name, some uid, some itemIds⟩)
    (contents : (itemIds : Multiset String) = ledger.basket) (running : (devices number).trapped = false)
    (replies : ∀ event ∈ events, event.isGesture = false ∧ event.Succeeds)
    (ran : World.run (World.perform ⟨store, devices, []⟩ number
      ((devices number).addToBasketCompletion item uuid (some (Basket.ofDictionary data)))) events =
        some final) (quiet : final.Quiet) :
    Rests number uid initial final (ledger.add itemId) := by
  have appends : (devices number).addToBasketCompletion item uuid (some (Basket.ofDictionary data)) =
      (devices number).issue
        (.updateBasket name (itemIdsValues (itemIds ++ [itemId])) (.addToBasket itemId)) := by
    simp [Device.addToBasketCompletion, decoded, hasId, Device.updateBasketInFirestore]
  rw [appends, perform_issue] at ran
  obtain rfl := run_last rfl running (fun _ _ _ => rfl) replies ran quiet
  have changed := store.basketsOf_updateBasket name uid (itemIds ++ [itemId]) (.addToBasket itemId)
  rw [single, List.map_singleton, if_pos rfl] at changed
  have longer : Basket.ofDictionary (data.patch (itemIdsValues (itemIds ++ [itemId]))) =
      ⟨some name, some uid, some (itemIds ++ [itemId])⟩ := by
    rw [Basket.ofDictionary_patch_itemIdsValues, decoded]
  apply rests.written sells (fun _ => rfl)
  refine .basket changed longer ?_ fun visiting => by cases visiting
  rw [Ledger.add, ← contents, ← Multiset.coe_add, add_comm]
  rfl

/-- An add gesture puts one occurrence of its item into the basket. -/
theorem add (rests : Rests number uid initial world ledger) {item : Item} {itemId : String}
    (hasId : item.id = some itemId) (sells : initial.Sells itemId)
    (replies : ∀ event ∈ events, event.isGesture = false ∧ event.Succeeds)
    (ran : world.run (.gesture number (.addToBasket item) :: events) = some final) (quiet : final.Quiet) :
    Rests number uid initial final (ledger.add itemId) := by
  obtain ⟨store, devices, flights⟩ := world
  obtain rfl : flights = [] := rests.quiet
  obtain ⟨user, current⟩ := rests.currentUser
  obtain ⟨next, taken, ran⟩ := Transition.run_cons.mp ran
  obtain ⟨allowed, rfl⟩ := step_gesture.mp taken
  have running : (devices number).trapped = false := running_of_allowed allowed
  have query : (devices number).addToBasketTapped item =
      (devices number).issue (.getBaskets uid (.addToBasket item)) := by
    rw [Device.addToBasketTapped, Device.withCurrentUser_of_some current,
      Device.withCurrentId_of_some rests.auth]
  rw [Gesture.handle, query, perform_issue] at ran
  obtain ⟨uuid, rest, fresh, replies, ran⟩ := run_single rfl running replies ran quiet
  have asked : (store.answer (.getBaskets uid (.addToBasket item))).1 = store := rfl
  rw [asked] at fresh ran
  rw [Request.complete, Store.basket_of_answer] at ran
  cases rests.holds with
  | nothing absent empty rows =>
      have absent : store.basketsOf uid = [] := absent
      rw [absent, List.head?_nil, Option.map_none] at ran
      exact rests.created hasId sells absent empty fresh running replies ran quiet
  | @basket name data itemIds single decoded contents shown =>
      have single : store.basketsOf uid = [(name, data)] := single
      rw [single, List.head?_cons, Option.map_some] at ran
      exact rests.appended hasId sells single decoded contents running replies ran quiet

/-- The operation ends when the requests of its gestures have led to their outlook. -/
theorem settle {outlook : Outlook} {user : MUser} (settling : Settling number outlook world)
    (replies : ∀ event ∈ events, event.isGesture = false ∧ event.Succeeds)
    (ran : world.run events = some final) (quiet : final.Quiet)
    (goods : world.store.data .items = initial.data .items)
    (decoded : MUser.ofDictionary outlook.record = some user)
    (purchased : (user.purchasedItemIds : Multiset String) = ledger.purchased)
    (contents : (outlook.itemIds : Multiset String) = ledger.basket)
    (sold : ∀ itemId ∈ ledger.basket, initial.Sells itemId) : Rests number outlook.uid initial final ledger := by
  have sameGoods : final.store.data .items = initial.data .items := by
    refine Transition.run_invariant (fun state : World => state.store.data .items = initial.data .items) ?_ goods
      (.of_forall replies) ran
    intro state event next same _ taken
    exact (step_items taken).trans same
  have last := settling.run replies ran
  obtain ⟨⟨data, single, holds⟩, stored, cached, rows⟩ := last.settled quiet
  exact {
    quiet := quiet
    goods := sameGoods
    auth := last.auth
    accumulator := last.accumulator
    user := ⟨outlook.record, user, cached, stored, decoded, purchased⟩
    sold := sold
    holds := .basket single holds contents fun _ => ⟨last.copy, rows⟩
    running := fun priced => last.running (.inl ((Store.priced_congr sameGoods).mpr priced)) }

/-- The load at the beginning of a visit shows the basket of the account. -/
theorem appear (rests : Rests number uid initial world ledger)
    (replies : ∀ event ∈ events, event.isGesture = false ∧ event.Succeeds)
    (ran : world.run (.gesture number .viewDidAppear :: events) = some final) (quiet : final.Quiet) :
    Rests number uid initial final ledger.appear := by
  obtain ⟨store, devices, flights⟩ := world
  obtain rfl : flights = [] := rests.quiet
  obtain ⟨record, user, cached, stored, decoded, purchased⟩ := rests.user
  obtain ⟨_, current⟩ := rests.currentUser
  have signedIn : (devices number).auth = some uid := rests.auth
  obtain ⟨next, taken, ran⟩ := Transition.run_cons.mp ran
  obtain ⟨allowed, rfl⟩ := step_gesture.mp taken
  have running : (devices number).trapped = false := running_of_allowed allowed
  have query : (devices number).viewDidAppear = (devices number).issue (.getBaskets uid .loadBasket) := by
    rw [Device.viewDidAppear, Device.withCurrentUser_of_some current, Device.loadBasketFromFirestore,
      Device.withCurrentId_of_some signedIn]
  rw [Gesture.handle, query, perform_issue] at ran
  obtain ⟨uuid, rest, _, replies, ran⟩ := run_single rfl running replies ran quiet
  have asked : (store.answer (.getBaskets uid .loadBasket)).1 = store := rfl
  rw [asked, Request.complete, Store.basket_of_answer] at ran
  have sold : ∀ itemId ∈ ledger.basket, store.Sells itemId :=
    fun itemId member => (Store.sells_congr rests.goods).mpr (rests.sold itemId member)
  cases rests.holds with
  | nothing absent empty rows =>
      have absent : store.basketsOf uid = [] := absent
      rw [absent, List.head?_nil, Option.map_none] at ran
      let bare : Device := { devices number with screen := { (devices number).screen with basket := none } }
      obtain rfl : final = ⟨store, Function.update devices number bare, []⟩ :=
        run_idle (fun event member => (replies event member).1) ran
      exact {
        quiet := rfl
        goods := rests.goods
        auth := by simpa using signedIn
        accumulator := by simpa using rests.accumulator
        user := ⟨record, user, by simpa using cached, stored, decoded, purchased⟩
        sold := rests.sold
        holds := .nothing absent empty (by simpa using rows)
        running := fun _ => by simpa using running }
  | @basket name data itemIds single holds contents shown =>
      have single : store.basketsOf uid = [(name, data)] := single
      rw [single, List.head?_cons, Option.map_some, holds] at ran
      let shown : Device := { devices number with screen :=
        { (devices number).screen with basket := some ⟨some name, some uid, some itemIds⟩ } }
      have settling := Settling.load number store devices shown [] signedIn rfl rests.accumulator cached running
        (fun itemId member => sold itemId (contents ▸ member)) stored single holds (fun _ member => by cases member)
        (.inl rfl)
      exact settle settling replies ran quiet rests.goods decoded purchased contents rests.sold

/-- A row shows an identifier of the basket. -/
theorem shown_row {device : Device} {itemIds : List String} {row : Nat} {item : Item}
    (rows : device.rowIds.Perm (itemIds.map some)) (present : device.screen.allItems[row]? = some item) :
    ∃ itemId ∈ itemIds, item.id = some itemId := by
  have member : item.id ∈ device.rowIds := List.mem_map_of_mem (List.mem_of_getElem? present)
  obtain ⟨itemId, inside, same⟩ := List.mem_map.mp (rows.mem_iff.mp member)
  exact ⟨itemId, inside, same.symm⟩

/-- The delete of a row takes one occurrence of its identifier out of the basket. -/
theorem delete (rests : Rests number uid initial world ledger) {row : Nat} (visiting : ledger.visiting = true)
    (replies : ∀ event ∈ events, event.isGesture = false ∧ event.Succeeds)
    (ran : world.run (.gesture number (.deleteRow row) :: events) = some final) (quiet : final.Quiet) :
    Rests number uid initial final ((Operation.deleteRow row).post (world.devices number) ledger) := by
  obtain ⟨store, devices, flights⟩ := world
  obtain rfl : flights = [] := rests.quiet
  obtain ⟨record, user, cached, stored, decoded, purchased⟩ := rests.user
  obtain ⟨next, taken, ran⟩ := Transition.run_cons.mp ran
  obtain ⟨allowed, rfl⟩ := step_gesture.mp taken
  have running : (devices number).trapped = false := running_of_allowed allowed
  simp only [Gesture.allowed, Bool.and_eq_true, decide_eq_true_eq] at allowed
  obtain ⟨item, present⟩ : ∃ item, (devices number).screen.allItems[row]? = some item :=
    ⟨_, List.getElem?_eq_getElem allowed.2⟩
  cases rests.holds with
  | nothing absent empty rows =>
      rw [rows] at present
      cases present
  | @basket name data itemIds single holds contents shown =>
      obtain ⟨copy, rows⟩ := shown visiting
      obtain ⟨itemId, member, hasId⟩ := shown_row rows present
      let shorter : Device := { devices number with screen :=
        { (devices number).screen with
          allItems := (devices number).screen.allItems.eraseIdx row
          basket := some ⟨some name, some uid, some (itemIds.erase itemId)⟩ } }
      have deleted := Device.deleteRow_eq running present hasId copy rfl rfl member
      rw [Gesture.handle, deleted] at ran
      have posted : (Operation.deleteRow row).post (devices number) ledger = ledger.delete itemId := by
        rw [Operation.post, present, Option.bind_some, hasId, Option.elim_some]
      rw [posted]
      have remaining : ((itemIds.erase itemId : List String) : Multiset String) = (ledger.delete itemId).basket := by
        rw [Ledger.delete, ← contents, Multiset.coe_erase]
      have sold : ∀ other ∈ (ledger.delete itemId).basket, initial.Sells other :=
        fun other member => rests.sold other (Multiset.mem_of_mem_erase member)
      have settling := Settling.load number store devices shorter
        [.updateBasket name (itemIdsValues (itemIds.erase itemId)) (.deleteRow itemId)] rests.auth rfl
        rests.accumulator cached running
        (fun other member => (Store.sells_congr rests.goods).mpr (sold other (remaining ▸ member))) stored single holds
        (fun request member => ⟨itemId, List.mem_singleton.mp member⟩) (.inr (List.cons_ne_nil _ _))
      exact settle settling replies ran quiet rests.goods decoded purchased remaining sold

/-- The identifiers of the rows are the ones that the rows show. -/
theorem paid_perm {device : Device} {itemIds paid : List String}
    (rows : device.rowIds.Perm (itemIds.map some))
    (mapped : device.screen.allItems.mapM (fun item => item.id) = some paid) : paid.Perm itemIds := by
  have whole := rows.filterMap id
  rw [Device.rowIds, List.filterMap_map, List.filterMap_map] at whole
  have left : device.screen.allItems.filterMap (id ∘ fun item => item.id) = paid := filterMap_of_mapM mapped
  have right : itemIds.filterMap (id ∘ some) = itemIds := List.filterMap_some
  rwa [left, right] at whole

/-- A payment moves the whole basket into the history. -/
theorem pay (rests : Rests number uid initial world ledger) (visiting : ledger.visiting = true)
    (someRow : (world.devices number).screen.allItems ≠ [])
    (replies : ∀ event ∈ events, event.isGesture = false ∧ event.Succeeds)
    (ran : world.run (.gesture number (.checkOut true) :: .gesture number .completePayment :: events) = some final)
    (quiet : final.Quiet) : Rests number uid initial final ledger.pay := by
  obtain ⟨store, devices, flights⟩ := world
  obtain rfl : flights = [] := rests.quiet
  obtain ⟨record, user, cached, stored, decoded, purchased⟩ := rests.user
  obtain ⟨tapped, tap, ran⟩ := Transition.run_cons.mp ran
  obtain ⟨paying, completes, ran⟩ := Transition.run_cons.mp ran
  obtain ⟨tapAllowed, rfl⟩ := step_gesture.mp tap
  obtain ⟨payAllowed, rfl⟩ := step_gesture.mp completes
  have running : (devices number).trapped = false := running_of_allowed tapAllowed
  have idle : (devices number).screen.payment = none := by
    simp only [Gesture.allowed, Bool.and_eq_true, Option.isNone_iff_eq_none] at tapAllowed
    exact tapAllowed.1.2
  simp only [Gesture.handle, World.perform, Function.update_self] at payAllowed
  obtain ⟨paid, payment, mapped, presents⟩ := Device.checkOutButtonWasTapped_eq idle payAllowed
  cases rests.holds with
  | nothing absent empty rows => exact absurd rows someRow
  | @basket name data itemIds single holds contents shown =>
      obtain ⟨copy, rows⟩ := shown visiting
      have accumulator : (devices number).screen.purchasedItemIds = [] := rests.accumulator
      let presenting : Device := { devices number with screen :=
        { (devices number).screen with
          purchasedItemIds := (devices number).screen.purchasedItemIds ++ paid
          payment := some payment } }
      have tappedTo : World.perform ⟨store, devices, []⟩ number
          (Gesture.handle (.checkOut true) (devices number)) =
          ⟨store, Function.update devices number presenting, []⟩ := by
        rw [Gesture.handle, presents]
        rfl
      rw [tappedTo] at ran
      have atScreen : Function.update devices number presenting number = presenting := Function.update_self ..
      have settling := Settling.pay number store (Function.update devices number presenting)
        (by rw [atScreen]; exact running) (by rw [atScreen]; exact rests.auth) (by rw [atScreen]; exact cached)
        (by rw [atScreen]; exact copy) stored decoded single holds
      have sameItems : (paid : Multiset String) = itemIds := Multiset.coe_eq_coe.mpr (paid_perm rows mapped)
      refine settle settling replies ran quiet rests.goods
        (MUser.ofDictionary_patch_purchasedValues _ decoded) ?_ rfl (fun _ member => by cases member)
      rw [atScreen]
      simp only [presenting, accumulator, List.nil_append]
      rw [← Multiset.coe_add, purchased, sameItems, contents, Ledger.pay]

/-- An operation that runs to its end takes the ledger with it. -/
theorem operate {next : World} {after : Ledger} {performance : Performance}
    (rests : Rests number uid initial world ledger)
    (replies : ∀ event ∈ performance.replies, event.isGesture = false ∧ event.Succeeds)
    (goods : performance.Sold initial)
    (taken : World.operate number (world, ledger) performance = some (next, after)) :
    Rests number uid initial next after := by
  simp only [World.operate, Option.ite_none_right_eq_some, Option.bind_eq_some_iff, Option.some.injEq,
    Prod.mk.injEq, List.isEmpty_iff] at taken
  obtain ⟨offered, _, ran, quiet, rfl, rfl⟩ := taken
  obtain ⟨operation, events⟩ := performance
  cases operation with
  | addToBasket item =>
      obtain ⟨itemId, hasId, sells⟩ := goods item rfl
      rw [Operation.post, hasId, Option.elim_some]
      exact rests.add hasId sells replies ran quiet
  | appear => exact rests.appear replies ran quiet
  | deleteRow row => exact rests.delete offered replies ran quiet
  | pay =>
      simp only [Operation.offered, Bool.and_eq_true, Bool.not_eq_true', List.isEmpty_eq_false_iff] at offered
      exact rests.pay offered.1 offered.2 replies ran quiet

end World.Rests

/-- Operations that run one after another, each until all its requests are answered, keep the basket, the
purchases, the cached record, and the rows in agreement with the plain multiset model. -/
theorem operations_refine {world final : World} {ledger : Ledger} {performances : List Performance} {number : Nat}
    {uid : String} {record : Dictionary} {user : MUser} {itemIds : List String} (quiet : world.Quiet)
    (signedIn : (world.devices number).auth = some uid) (cached : (world.devices number).defaults = some record)
    (stored : world.store.data .user uid = some record) (decoded : MUser.ofDictionary record = some user)
    (fresh : (world.devices number).screen = {}) (running : (world.devices number).trapped = false)
    (owned : (world.store.basketsOf uid = [] ∧ itemIds = []) ∨
      ∃ name data, world.store.basketsOf uid = [(name, data)] ∧
        Basket.ofDictionary data = ⟨some name, some uid, some itemIds⟩)
    (sold : ∀ itemId ∈ itemIds, world.store.Sells itemId)
    (goods : ∀ performance ∈ performances, performance.Sold world.store)
    (replies : ∀ performance ∈ performances, ∀ event ∈ performance.replies,
      event.isGesture = false ∧ event.Succeeds)
    (ran : Transition.run (World.operate number) (world, ⟨false, itemIds, user.purchasedItemIds⟩) performances =
      some (final, ledger)) :
    final.Matches number uid ledger ∧ (world.store.Priced → (final.devices number).trapped = false) := by
  have start : world.Rests number uid world.store ⟨false, itemIds, user.purchasedItemIds⟩ := by
    refine {
      quiet := quiet
      goods := rfl
      auth := signedIn
      accumulator := by rw [fresh]
      user := ⟨record, user, cached, stored, decoded, rfl⟩
      sold := sold
      holds := ?_
      running := fun _ => running }
    rcases owned with ⟨absent, rfl⟩ | ⟨name, data, single, holds⟩
    · exact .nothing absent rfl (by rw [fresh])
    · exact .basket single holds rfl fun visiting => by cases visiting
  have conditions : ∀ performance ∈ performances, performance.Sold world.store ∧
      ∀ event ∈ performance.replies, event.isGesture = false ∧ event.Succeeds :=
    fun performance member => ⟨goods performance member, replies performance member⟩
  have rests : final.Rests number uid world.store ledger := by
    refine Transition.run_invariant (fun state : World × Ledger => state.1.Rests number uid world.store state.2) ?_
      start (.of_forall conditions) ran
    intro state performance next rests ⟨sold, replies⟩ taken
    exact rests.operate replies sold taken
  exact ⟨rests.matches_ledger, rests.running⟩

/-- An add, a visit whose items arrive in the other order, a delete, and a payment run one after another. -/
def addVisitDeletePay : List Performance :=
  [⟨.addToBasket (soldItem "b"), [.serve 0 .success, .callback 0 "n", .serve 0 .success, .callback 0 "n"]⟩,
    ⟨.appear, [.serve 0 .success, .callback 0 "n", .serve 1 .success, .serve 0 .success, .callback 1 "n",
      .callback 0 "n"]⟩,
    ⟨.deleteRow 0, [.serve 0 .success, .serve 1 .success, .callback 1 "n", .callback 0 "n"]⟩,
    ⟨.pay, [.serve 0 .success, .serve 1 .success, .callback 1 "n", .callback 0 "n"]⟩]

/-- The remaining item is bought, and the basket is empty in the end. -/
theorem operations_refine_purchase :
    ∃ final, Transition.run (World.operate 0) (openShop ["a"], ⟨false, ["a"], onboardedUser.purchasedItemIds⟩)
        addVisitDeletePay = some (final, ⟨true, 0, {"a"}⟩) ∧
      final.Matches 0 "u" ⟨true, 0, {"a"}⟩ ∧ (final.devices 0).trapped = false := by
  have quiet : (openShop ["a"]).Quiet := rfl
  have sells : ∀ itemId ∈ ["a"], (openShop ["a"]).store.Sells itemId := by
    intro itemId member
    obtain rfl := List.mem_singleton.mp member
    exact ⟨_, rfl, rfl⟩
  have goods : ∀ performance ∈ addVisitDeletePay, performance.Sold (openShop ["a"]).store := by
    intro performance member item same
    simp only [addVisitDeletePay, List.mem_cons, List.not_mem_nil, or_false] at member
    rcases member with rfl | rfl | rfl | rfl
    · cases same
      exact ⟨"b", rfl, _, rfl, rfl⟩
    · cases same
    · cases same
    · cases same
  have replies : ∀ performance ∈ addVisitDeletePay, ∀ event ∈ performance.replies,
      event.isGesture = false ∧ event.Succeeds := by decide
  have priced : (openShop ["a"]).store.Priced := by
    apply Store.forall_data
    decide
  obtain ⟨final, ran⟩ : ∃ final, Transition.run (World.operate 0)
      (openShop ["a"], ⟨false, ["a"], onboardedUser.purchasedItemIds⟩) addVisitDeletePay =
        some (final, ⟨true, 0, {"a"}⟩) := ⟨_, rfl⟩
  have refined := operations_refine quiet rfl rfl rfl rfl rfl rfl (.inr ⟨"d", _, rfl, rfl⟩) sells goods replies ran
  exact ⟨final, ran, refined.1, refined.2 priced⟩

end ShoppingApp
