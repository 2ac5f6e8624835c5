import ShoppingApp.Library.Pool
import ShoppingApp.Proof.Effects
import ShoppingApp.Proof.ItemDownload

namespace ShoppingApp

/-- One operation of the basket screen leads to these contents of the basket and of the user record. -/
structure Outlook where
  uid : String
  name : String
  itemIds : List String
  values : Dictionary
  record : Dictionary
  download : Nat
  paying : Bool

/-- These are the requests of one operation of the basket screen. -/
inductive Flight.Settles (number : Nat) (outlook : Outlook) (store : Store) : Flight → Prop where
  | read {itemId : String} {data : Dictionary} {reply : Option Reply} (unpaid : outlook.paying = false)
      (stored : store.data .items itemId = some data)
      (named : data.read Value.asString .objectId = some itemId)
      (shown : ∀ replied, reply = some replied → replied = .document (some data)) :
      Settles number outlook store ⟨number, .getItem itemId outlook.download, reply⟩
  | write {itemId : String} {reply : Option Reply} (unpaid : outlook.paying = false) :
      Settles number outlook store
        ⟨number, .updateBasket outlook.name (itemIdsValues outlook.itemIds) (.deleteRow itemId), reply⟩
  | clear {reply : Option Reply} (paid : outlook.paying = true) (emptied : outlook.itemIds = []) :
      Settles number outlook store
        ⟨number, .updateBasket outlook.name (itemIdsValues outlook.itemIds) .emptyTheBasket, reply⟩
  | history {reply : Option Reply} (paid : outlook.paying = true)
      (shown : ∀ replied, reply = some replied → replied = .done) :
      Settles number outlook store ⟨number, .updateUser outlook.uid outlook.values outlook.record, reply⟩

/-- The flight reads this item. -/
def Flight.readName (flight : Flight) : Option String :=
  match flight.request with
  | .getItem itemId _ => some itemId
  | _ => none

/-- The write of the items still waits. -/
def Flight.WritesItems (flight : Flight) : Prop :=
  flight.reply = none ∧ ∃ name values completion, flight.request = .updateBasket name values completion

/-- The write of the user record still waits. -/
def Flight.WritesUser (flight : Flight) : Prop :=
  flight.reply = none ∧ ∃ name values userObject, flight.request = .updateUser name values userObject

/-- The callback that saves the user record still waits. -/
def Flight.SavesUser (flight : Flight) : Prop :=
  ∃ name values userObject, flight.request = .updateUser name values userObject

namespace World

def reads (world : World) : List String := world.flights.filterMap Flight.readName

/-- The server, the screen, and the cached record move to the contents of the outlook. -/
structure Settling (number : Nat) (outlook : Outlook) (world : World) : Prop where
  auth : (world.devices number).auth = some outlook.uid
  copy : (world.devices number).screen.basket =
    some ⟨some outlook.name, some outlook.uid, some outlook.itemIds⟩
  accumulator : (world.devices number).screen.purchasedItemIds = []
  flights : ∀ flight ∈ world.flights, flight.Settles number outlook world.store
  basket : ∃ data itemIds, world.store.basketsOf outlook.uid = [(outlook.name, data)] ∧
    Basket.ofDictionary data = ⟨some outlook.name, some outlook.uid, some itemIds⟩ ∧
    (itemIds = outlook.itemIds ∨ ∃ flight ∈ world.flights, flight.WritesItems)
  user : ∃ old, world.store.data .user outlook.uid = some old ∧ old.patch outlook.values = outlook.record ∧
    (old = outlook.record ∨ ∃ flight ∈ world.flights, flight.WritesUser)
  cached : (world.devices number).defaults = some outlook.record ∨ ∃ flight ∈ world.flights, flight.SavesUser
  rows : (world.devices number).Shows world.store outlook.itemIds world.reads outlook.download
  stopped : (world.devices number).trapped = true → world.reads = []
  running : world.store.Priced ∨ outlook.paying = true → (world.devices number).trapped = false

end World

variable {number : Nat} {outlook : Outlook}

/-- The answers to the requests keep what the other requests read. -/
theorem Flight.Settles.answer {store : Store} {flight : Flight} (settles : flight.Settles number outlook store)
    (request : Request) : flight.Settles number outlook (store.answer request).1 := by
  cases settles with
  | read unpaid stored named shown => exact .read unpaid ((store.answer_items request _).trans stored) named shown
  | write unpaid => exact .write unpaid
  | clear paid emptied => exact .clear paid emptied
  | history paid shown => exact .history paid shown

theorem Store.priced_answer {store : Store} {request : Request} (priced : (store.answer request).1.Priced) :
    store.Priced := by
  intro itemId data stored
  exact priced itemId data ((store.answer_items request itemId).trans stored)

theorem Device.Shows.answer {store : Store} {itemIds pending : List String} {download : Nat} {device : Device}
    (shows : device.Shows store itemIds pending download) (request : Request) :
    device.Shows (store.answer request).1 itemIds pending download := by
  refine ⟨shows.1, fun waiting => ?_⟩
  obtain ⟨shared, present, collects⟩ := shows.2 waiting
  exact ⟨shared, present, collects.answer request⟩

namespace World.Settling

variable {world next final : World} {index : Nat} {request : Request}

/-- The reload after a delete reads the items of the copy, whatever is written before it. -/
theorem reads_load (number : Nat) (store : Store) (devices : Nat → Device) {shown : Device}
    {written : List Request} {itemIds : List String} {download : Nat}
    (unread : ∀ request ∈ written, Flight.readName ⟨number, request, none⟩ = none)
    (issued : shown.getBasketItems.issued = itemIds.map fun itemId => .getItem itemId download) :
    reads (World.perform ⟨store, devices, []⟩ number
      ⟨shown.getBasketItems.device, written ++ shown.getBasketItems.issued⟩) = itemIds := by
  have silent : (written.map fun request => (⟨number, request, none⟩ : Flight)).filterMap Flight.readName =
      [] := by
    apply List.filterMap_eq_nil_iff.mpr
    intro flight member
    obtain ⟨request, present, rfl⟩ := List.mem_map.mp member
    exact unread request present
  rw [World.reads, World.perform, issued, List.nil_append, List.map_append, List.filterMap_append, silent,
    List.nil_append, List.map_map, List.filterMap_map]
  exact List.filterMap_some

/-- A reload of the copy, perhaps behind a write of the same items, leads to the items of the copy. -/
theorem load (number : Nat) (store : Store) (devices : Nat → Device) (shown : Device)
    (written : List Request) {uid name : String} {itemIds old : List String} {record data : Dictionary}
    (auth : shown.auth = some uid)
    (copy : shown.screen.basket = some ⟨some name, some uid, some itemIds⟩)
    (accumulator : shown.screen.purchasedItemIds = []) (cached : shown.defaults = some record)
    (running : shown.trapped = false) (sold : ∀ itemId ∈ itemIds, store.Sells itemId)
    (stored : store.data .user uid = some record) (single : store.basketsOf uid = [(name, data)])
    (decoded : Basket.ofDictionary data = ⟨some name, some uid, some old⟩)
    (writes : ∀ request ∈ written, ∃ itemId,
      request = .updateBasket name (itemIdsValues itemIds) (.deleteRow itemId))
    (pending : old = itemIds ∨ written ≠ []) :
    Settling number ⟨uid, name, itemIds, fun _ => none, record, shown.downloads.length, false⟩
      (World.perform ⟨store, devices, []⟩ number
        ⟨shown.getBasketItems.device, written ++ shown.getBasketItems.issued⟩) := by
  obtain ⟨issued, shows, trapped⟩ := shown.getBasketItems_shows store copy rfl
  have keeps := shown.getBasketItems_reads.keeps
  have runs : shown.getBasketItems.device.trapped = false := trapped.trans running
  have reads := reads_load number store devices (fun request present => by
    obtain ⟨itemId, rfl⟩ := writes request present
    rfl) issued
  refine {
    auth := by simpa using keeps.auth.trans auth
    copy := by simpa using keeps.basket.trans copy
    accumulator := by simpa using keeps.purchasedItemIds.trans accumulator
    flights := ?_
    basket := ⟨data, old, single, decoded, pending.imp_right fun waits => ?_⟩
    user := ⟨record, stored, rfl, .inl rfl⟩
    cached := .inl (by simpa using keeps.defaults.trans cached)
    rows := ?_
    stopped := by simp [runs]
    running := by simp [runs] }
  · apply forall_perform
    · simp
    · intro request present
      rcases List.mem_append.mp present with early | late
      · obtain ⟨itemId, rfl⟩ := writes request early
        exact .write rfl
      · rw [issued] at late
        obtain ⟨itemId, inside, rfl⟩ := List.mem_map.mp late
        obtain ⟨data, stored, named⟩ := sold itemId inside
        exact .read rfl stored named fun replied same => by cases same
  · obtain ⟨request, present⟩ := List.exists_mem_of_ne_nil written waits
    obtain ⟨itemId, rfl⟩ := writes request present
    exact ⟨_, mem_perform _ _ _ (List.mem_append_left _ present), rfl, _, _, _, rfl⟩
  · rw [reads, perform_devices]
    exact shows

/-- A completed payment leads to an empty basket and to the longer history. -/
theorem pay (number : Nat) (store : Store) (devices : Nat → Device) {uid name : String}
    {itemIds : List String} {record data : Dictionary} {user : MUser}
    (running : (devices number).trapped = false) (auth : (devices number).auth = some uid)
    (cached : (devices number).defaults = some record)
    (copy : (devices number).screen.basket = some ⟨some name, some uid, some itemIds⟩)
    (stored : store.data .user uid = some record) (userDecoded : MUser.ofDictionary record = some user)
    (single : store.basketsOf uid = [(name, data)])
    (decoded : Basket.ofDictionary data = ⟨some name, some uid, some itemIds⟩) :
    let values := purchasedValues (user.purchasedItemIds ++ (devices number).screen.purchasedItemIds)
    Settling number ⟨uid, name, [], values, record.patch values, 0, true⟩
      (World.perform ⟨store, devices, []⟩ number (devices number).payPalPaymentDidComplete) := by
  intro values
  rw [Device.payPalPaymentDidComplete_eq running auth cached userDecoded copy rfl]
  refine {
    auth := by simpa using auth
    copy := by simp
    accumulator := by simp
    flights := ?_
    basket := ⟨data, itemIds, single, decoded, .inr ?_⟩
    user := ⟨record, stored, rfl, .inr ?_⟩
    cached := .inr ?_
    rows := ⟨fun _ => ?_, fun waiting => absurd rfl waiting⟩
    stopped := fun _ => rfl
    running := by simpa using running }
  · apply forall_perform
    · simp
    · intro request present
      rcases List.mem_cons.mp present with rfl | present
      · exact .history rfl fun replied same => by cases same
      · obtain rfl := List.mem_singleton.mp present
        exact .clear rfl rfl
  · exact ⟨_, mem_perform _ _ _ (List.mem_cons_of_mem _ List.mem_cons_self), rfl, _, _, _, rfl⟩
  · exact ⟨_, mem_perform _ _ _ List.mem_cons_self, rfl, _, _, _, rfl⟩
  · exact ⟨_, mem_perform _ _ _ List.mem_cons_self, _, _, _, rfl⟩
  · simp [Device.rowIds]

/-- The answer to a request shows the stored item or the done write. -/
theorem answered (settling : Settling number outlook world)
    (found : world.flights[index]? = some ⟨number, request, none⟩) :
    Flight.Settles number outlook (world.store.answer request).1
      ⟨number, request, some (world.store.answer request).2⟩ := by
  obtain ⟨old, user, _⟩ := settling.user
  cases settling.flights _ (List.mem_of_getElem? found) with
  | read unpaid stored named shown =>
      refine .read unpaid ((world.store.answer_items _ _).trans stored) named fun replied same => ?_
      obtain rfl := Option.some.inj same
      exact congrArg Reply.document stored
  | write unpaid => exact .write unpaid
  | clear paid emptied => exact .clear paid emptied
  | history paid shown =>
      refine .history paid fun replied same => ?_
      obtain rfl := Option.some.inj same
      simp [Store.answer, Store.updateData, user]

/-- The write of the items brings the basket to the outlook. -/
theorem basket_answered (settling : Settling number outlook world)
    (found : world.flights[index]? = some ⟨number, request, none⟩) (reply : Reply) :
    ∃ data itemIds, (world.store.answer request).1.basketsOf outlook.uid = [(outlook.name, data)] ∧
      Basket.ofDictionary data = ⟨some outlook.name, some outlook.uid, some itemIds⟩ ∧
      (itemIds = outlook.itemIds ∨
        ∃ flight ∈ world.flights.set index ⟨number, request, some reply⟩, flight.WritesItems) := by
  obtain ⟨data, itemIds, baskets, decoded, written⟩ := settling.basket
  have writes (completion : BasketUpdate) :
      (world.store.answer (.updateBasket outlook.name (itemIdsValues outlook.itemIds) completion)).1.basketsOf
        outlook.uid = [(outlook.name, data.patch (itemIdsValues outlook.itemIds))] := by
    rw [Store.basketsOf_updateBasket, baskets, List.map_singleton, if_pos rfl]
  have longer : Basket.ofDictionary (data.patch (itemIdsValues outlook.itemIds)) =
      ⟨some outlook.name, some outlook.uid, some outlook.itemIds⟩ := by
    rw [Basket.ofDictionary_patch_itemIdsValues, decoded]
  cases settling.flights _ (List.mem_of_getElem? found) with
  | read unpaid stored named shown =>
      refine ⟨data, itemIds, baskets, decoded, written.imp_right (Pool.exists_set found ?_)⟩
      rintro ⟨_, name, values, completion, same⟩
      cases same
  | write unpaid => exact ⟨_, _, writes _, longer, .inl rfl⟩
  | clear paid emptied => exact ⟨_, _, writes _, longer, .inl rfl⟩
  | history paid shown =>
      refine ⟨data, itemIds, ?_, decoded, written.imp_right (Pool.exists_set found ?_)⟩
      · rw [Store.basketsOf_updateUser, baskets]
      · rintro ⟨_, name, values, completion, same⟩
        cases same

/-- The write of the history brings the user document to the outlook. -/
theorem user_answered (settling : Settling number outlook world)
    (found : world.flights[index]? = some ⟨number, request, none⟩) (reply : Reply) :
    ∃ old, (world.store.answer request).1.data .user outlook.uid = some old ∧
      old.patch outlook.values = outlook.record ∧
      (old = outlook.record ∨
        ∃ flight ∈ world.flights.set index ⟨number, request, some reply⟩, flight.WritesUser) := by
  obtain ⟨old, stored, patched, saved⟩ := settling.user
  have answered := world.store.answer_user request outlook.uid
  rw [stored] at answered
  have waits (other : ∀ name values userObject, request ≠ .updateUser name values userObject) :
      old = outlook.record ∨
        ∃ flight ∈ world.flights.set index ⟨number, request, some reply⟩, flight.WritesUser := by
    refine saved.imp_right (Pool.exists_set found ?_)
    rintro ⟨_, name, values, userObject, same⟩
    exact absurd same (other name values userObject)
  cases settling.flights _ (List.mem_of_getElem? found) with
  | read unpaid stored named shown => exact ⟨old, answered, patched, waits (by simp)⟩
  | write unpaid => exact ⟨old, answered, patched, waits (by simp)⟩
  | clear paid emptied => exact ⟨old, answered, patched, waits (by simp)⟩
  | history paid shown =>
      rw [Request.onUser, if_pos rfl, Option.map_some, patched] at answered
      refine ⟨outlook.record, answered, ?_, .inl rfl⟩
      rw [← patched, Record.patch_patch_self]

/-- The server answers a request with the contents of the outlook. -/
theorem serve (settling : Settling number outlook world)
    (found : world.flights[index]? = some ⟨number, request, none⟩) :
    Settling number outlook (record { world with store := (world.store.answer request).1 } index number
      request (world.store.answer request).2) := by
  have reads : reads (record { world with store := (world.store.answer request).1 } index number request
      (world.store.answer request).2) = world.reads := Pool.filterMap_set_same _ found rfl
  exact {
    auth := settling.auth
    copy := settling.copy
    accumulator := settling.accumulator
    flights := Pool.forall_set (fun flight member => (settling.flights flight member).answer request)
      (settling.answered found)
    basket := settling.basket_answered found _
    user := settling.user_answered found _
    cached := settling.cached.imp_right (Pool.exists_set found id)
    rows := by
      rw [reads]
      exact settling.rows.answer request
    stopped := fun stopped => reads.trans (settling.stopped stopped)
    running := fun reason => settling.running (reason.imp_left Store.priced_answer) }

/-- A callback without requests keeps the server and the other requests. -/
theorem returned (settling : Settling number outlook world) {reply : Reply} {outcome : Outcome}
    (found : world.flights[index]? = some ⟨number, request, some reply⟩)
    (silent : outcome.issued = []) (auth : outcome.device.auth = (world.devices number).auth)
    (copy : outcome.device.screen.basket = (world.devices number).screen.basket)
    (accumulator : outcome.device.screen.purchasedItemIds = (world.devices number).screen.purchasedItemIds)
    (cached : outcome.device.defaults = some outlook.record ∨
      ∃ flight ∈ world.flights.eraseIdx index, flight.SavesUser)
    (rows : outcome.device.Shows world.store outlook.itemIds
      ((world.flights.eraseIdx index).filterMap Flight.readName) outlook.download)
    (stopped : outcome.device.trapped = true → (world.flights.eraseIdx index).filterMap Flight.readName = [])
    (running : world.store.Priced ∨ outlook.paying = true → outcome.device.trapped = false) :
    Settling number outlook (World.perform { world with flights := world.flights.eraseIdx index } number outcome) := by
  obtain ⟨device, issued⟩ := outcome
  obtain rfl : issued = [] := silent
  obtain ⟨data, itemIds, baskets, decoded, written⟩ := settling.basket
  obtain ⟨old, stored, patched, saved⟩ := settling.user
  have waiting : ∀ {property : Flight → Prop}, (∀ flight, property flight → flight.reply = none) →
      (∃ flight ∈ world.flights, property flight) → ∃ flight ∈ world.flights.eraseIdx index, property flight := by
    intro property unanswered
    refine Pool.exists_eraseIdx found fun holds => ?_
    cases unanswered _ holds
  simp only [World.perform, List.map_nil, List.append_nil]
  refine {
    auth := by simpa using auth.trans settling.auth
    copy := by simpa using copy.trans settling.copy
    accumulator := by simpa using accumulator.trans settling.accumulator
    flights := Pool.forall_eraseIdx settling.flights
    basket := ⟨data, itemIds, baskets, decoded, written.imp_right (waiting fun _ holds => holds.1)⟩
    user := ⟨old, stored, patched, saved.imp_right (waiting fun _ holds => holds.1)⟩
    cached := by simpa using cached
    rows := by simpa [reads] using rows
    stopped := by simpa [reads] using stopped
    running := by simpa using running }

/-- The callback that saves the user record still waits when another one runs. -/
theorem cached_others (settling : Settling number outlook world) {reply : Reply}
    (found : world.flights[index]? = some ⟨number, request, some reply⟩)
    (other : ∀ name values userObject, request ≠ .updateUser name values userObject) :
    (world.devices number).defaults = some outlook.record ∨
      ∃ flight ∈ world.flights.eraseIdx index, flight.SavesUser := by
  refine settling.cached.imp_right (Pool.exists_eraseIdx found ?_)
  rintro ⟨name, values, userObject, same⟩
  exact other name values userObject same

/-- The callback of an item read collects the item. -/
theorem itemRead (settling : Settling number outlook world) {itemId : String} {data : Dictionary}
    (found : world.flights[index]? = some ⟨number, .getItem itemId outlook.download, some (.document (some data))⟩)
    (stored : world.store.data .items itemId = some data)
    (named : data.read Value.asString .objectId = some itemId) (unpaid : outlook.paying = false) :
    Settling number outlook (World.perform { world with flights := world.flights.eraseIdx index } number
      (if (world.devices number).trapped then (world.devices number).done
        else (world.devices number).itemCompletion outlook.download (.found data))) := by
  have pending := Pool.filterMap_perm Flight.readName found
  have running : (world.devices number).trapped = false := by
    cases stopped : (world.devices number).trapped with
    | false => rfl
    | true =>
        have empty : world.flights.filterMap Flight.readName = [] := settling.stopped stopped
        rw [empty] at pending
        cases pending.symm.eq_nil
  obtain ⟨shows, trapped⟩ := (settling.rows.perm pending).itemCompletion stored named
  have keeps := ((world.devices number).itemCompletion_reads outlook.download (.found data)).keeps
  rw [if_neg (by simp [running])]
  refine settling.returned found (Device.itemCompletion_issued _ _ _) keeps.auth keeps.basket
    keeps.purchasedItemIds ?_ shows ?_ ?_
  · rw [keeps.defaults]
    exact settling.cached_others found (by simp)
  · intro stopped
    by_contra more
    rw [trapped (.inr more), running] at stopped
    cases stopped
  · intro reason
    rcases reason with priced | paid
    · exact (trapped (.inl priced)).trans running
    · rw [unpaid] at paid
      cases paid

/-- A payment reads no items. -/
theorem reads_of_paying (settling : Settling number outlook world) (paid : outlook.paying = true) :
    world.reads = [] := by
  apply List.filterMap_eq_nil_iff.mpr
  intro flight member
  cases settling.flights flight member with
  | read unpaid stored named shown =>
      rw [unpaid] at paid
      cases paid
  | write unpaid => rfl
  | clear paid emptied => rfl
  | history paid shown => rfl

/-- A callback brings the screen and the cached record closer to the outlook. -/
theorem callback (settling : Settling number outlook world) {reply : Reply} (uuid : String)
    (found : world.flights[index]? = some ⟨number, request, some reply⟩) :
    Settling number outlook (world.callback index number request reply uuid) := by
  have settles := settling.flights _ (List.mem_of_getElem? found)
  have silent : (∀ itemId download, request ≠ .getItem itemId download) →
      (world.flights.eraseIdx index).filterMap Flight.readName = world.reads := by
    intro other
    refine Pool.filterMap_eraseIdx_silent Flight.readName found ?_
    unfold Flight.readName
    split
    · rename_i itemId download same
      exact absurd same (other itemId download)
    · rfl
  unfold World.callback
  cases settles with
  | read unpaid stored named shown =>
      obtain rfl := shown reply rfl
      exact settling.itemRead found stored named unpaid
  | write unpaid =>
      have idle : (if (world.devices number).trapped then (world.devices number).done
          else (world.devices number).done) = (world.devices number).done := ite_self _
      simp only [Request.complete, idle]
      refine settling.returned found rfl rfl rfl rfl (settling.cached_others found (by simp)) ?_ ?_ settling.running
      · rw [silent (by simp)]
        exact settling.rows
      · rw [silent (by simp)]
        exact settling.stopped
  | clear paid emptied =>
      have running := settling.running (.inr paid)
      obtain ⟨issued, shows, trapped⟩ := Device.getBasketItems_shows world.store settling.copy rfl
      have keeps := (world.devices number).getBasketItems_reads.keeps
      have unread : (world.flights.eraseIdx index).filterMap Flight.readName = [] :=
        (silent (by simp)).trans (settling.reads_of_paying paid)
      rw [if_neg (by simp [running])]
      refine settling.returned found ?_ keeps.auth keeps.basket keeps.purchasedItemIds ?_ ?_ (fun _ => unread)
        (fun _ => trapped.trans running)
      · rw [emptied] at issued
        exact issued
      · rw [Request.complete, keeps.defaults]
        exact settling.cached_others found (by simp)
      · rw [unread]
        exact ⟨fun _ => shows.1 emptied, fun impossible => absurd rfl impossible⟩
  | history paid shown =>
      obtain rfl := shown reply rfl
      rw [if_neg (by simp [settling.running (.inr paid)])]
      refine settling.returned found rfl rfl rfl rfl (.inl rfl) ?_ ?_ settling.running
      · rw [silent (by simp)]
        exact settling.rows
      · rw [silent (by simp)]
        exact settling.stopped

/-- The answers and the callbacks of an operation lead to the outlook in any order. -/
theorem step (settling : Settling number outlook world) {event : Event} (reply : event.isGesture = false)
    (succeeds : event.Succeeds) (taken : world.step event = some next) : Settling number outlook next := by
  cases event with
  | gesture device made => cases reply
  | serve index answer =>
      obtain ⟨device, request, found, served⟩ := step_serve.mp taken
      have settles := settling.flights _ (List.mem_of_getElem? found)
      obtain ⟨rfl, document⟩ : device = number ∧ request.isAuth = false := by
        cases settles <;> exact ⟨rfl, rfl⟩
      obtain rfl := serve_applies document succeeds served
      exact settling.serve found
  | callback index uuid =>
      obtain ⟨device, request, replied, found, _, rfl⟩ := step_callback.mp taken
      obtain rfl : device = number := by
        cases settling.flights _ (List.mem_of_getElem? found) <;> rfl
      exact settling.callback uuid found

theorem run (settling : Settling number outlook world) {events : List Event}
    (replies : ∀ event ∈ events, event.isGesture = false ∧ event.Succeeds)
    (ran : world.run events = some final) : Settling number outlook final := by
  refine Transition.run_invariant (Settling number outlook) ?_ settling (.of_forall replies) ran
  intro state event next settling ⟨reply, succeeds⟩ taken
  exact settling.step reply succeeds taken

/-- The server, the cached record, and the rows have the contents of the outlook in the end. -/
theorem settled (settling : Settling number outlook world) (quiet : world.Quiet) :
    (∃ data, world.store.basketsOf outlook.uid = [(outlook.name, data)] ∧
      Basket.ofDictionary data = ⟨some outlook.name, some outlook.uid, some outlook.itemIds⟩) ∧
    world.store.data .user outlook.uid = some outlook.record ∧
    (world.devices number).defaults = some outlook.record ∧
    (world.devices number).rowIds.Perm (outlook.itemIds.map some) := by
  have empty : world.flights = [] := quiet
  have nothing {property : Flight → Prop} : ¬ ∃ flight ∈ world.flights, property flight := by simp [empty]
  obtain ⟨data, itemIds, baskets, decoded, written⟩ := settling.basket
  obtain ⟨old, stored, _, saved⟩ := settling.user
  obtain rfl := written.resolve_right nothing
  obtain rfl := saved.resolve_right nothing
  refine ⟨⟨data, baskets, decoded⟩, stored, settling.cached.resolve_right nothing, settling.rows.1 ?_⟩
  simp [reads, empty]

end World.Settling

end ShoppingApp
