import ShoppingApp.Proof.BasketScreen
import ShoppingApp.Proof.ListedItems
import ShoppingApp.Proof.Payment
import ShoppingApp.Proof.RecordRules
import ShoppingApp.Proof.SessionIdentity

namespace ShoppingApp

/-- The purchase history of a record has known identifiers. -/
def historyRule (known : String → Prop) : RecordRule where
  holds record := ∀ itemId ∈ record.purchasedItemIds, known itemId
  fits values := ∀ itemId ∈ values.purchasedItemIds, known itemId
  created _ _ _ nothing := by cases nothing
  patch holds fits itemId member := by
    rw [Dictionary.purchasedItemIds_patch] at member
    split at member
    · exact holds itemId member
    · exact fits itemId member

/-- The identifiers in the copy of the basket and in the accumulator are known. -/
structure Device.Refers (known : String → Prop) (device : Device) : Prop where
  copy : ∀ itemId ∈ Basket.ids device.screen.basket, known itemId
  paid : ∀ itemId ∈ device.screen.purchasedItemIds, known itemId

/-- The identifiers that a flight reads, writes, or answers are known. -/
def Flight.Refers (known : String → Prop) (flight : Flight) : Prop :=
  match flight.request with
  | .getBaskets _ _ => ∀ reply, flight.reply = some reply → ∀ itemId ∈ Basket.ids reply.basket, known itemId
  | .setBasket _ data => ∀ itemId ∈ data.itemIds, known itemId
  | .updateBasket _ values _ => ∃ itemIds, values = itemIdsValues itemIds ∧ ∀ itemId ∈ itemIds, known itemId
  | .getItem name _ => known name
  | _ => True

/-- The identifiers in the baskets, on the screens, and in the requests in flight are known. -/
structure World.Refers (known : String → Prop) (world : World) : Prop where
  baskets : ∀ name data, world.store.data .basket name = some data → ∀ itemId ∈ data.itemIds, known itemId
  devices : ∀ number, (world.devices number).Refers known
  flights : ∀ flight ∈ world.flights, flight.Refers known

variable {known wider : String → Prop}

/-- A basket that shrinks has fewer identifiers. -/
theorem Basket.Shrinks.ids {earlier copy : Basket} (shrinks : earlier.Shrinks copy) :
    Basket.ids (some copy) ⊆ Basket.ids (some earlier) := by
  intro itemId member
  cases has : copy.itemIds with
  | none => simp [Basket.ids, has] at member
  | some itemIds =>
      have inside : itemId ∈ itemIds := by simpa [Basket.ids, has] using member
      obtain ⟨before, had, wasMember⟩ := shrinks.itemIds itemIds has itemId inside
      simpa [Basket.ids, had] using wasMember

theorem Flight.Refers.mono {flight : Flight} (refers : flight.Refers known)
    (grows : ∀ itemId, known itemId → wider itemId) :
    flight.Refers wider := by
  obtain ⟨number, request, reply⟩ := flight
  cases request with
  | getBaskets ownerId completion =>
      exact fun reply replied itemId member => grows itemId (refers reply replied itemId member)
  | setBasket name data => exact fun itemId member => grows itemId (refers itemId member)
  | updateBasket name values completion =>
      obtain ⟨itemIds, written, all⟩ := refers
      exact ⟨itemIds, written, fun itemId member => grows itemId (all itemId member)⟩
  | getItem name download => exact grows name refers
  | _ => trivial

namespace Device

/-- The reload reads items of the copy. -/
theorem getBasketItems_names {device : Device} {name : String} {download : Nat}
    (member : .getItem name download ∈ device.getBasketItems.issued) : name ∈ Basket.ids device.screen.basket := by
  unfold getBasketItems at member
  split at member
  · cases member
  · rename_i basket hasBasket
    split at member
    · cases member
    · rename_i itemIds hasItems
      unfold downloadItemsFromFirebase at member
      split at member
      · obtain ⟨itemId, inside, same⟩ := List.mem_map.mp member
        obtain ⟨rfl, _⟩ := Request.getItem.inj same
        simpa [Basket.ids, hasBasket, hasItems] using inside
      · rw [showItems_issued] at member
        cases member

/-- The delete gesture reads items of the copy. -/
theorem deleteRow_names {device : Device} {row download : Nat} {name : String}
    (member : .getItem name download ∈ (device.deleteRow row).issued) : name ∈ Basket.ids device.screen.basket := by
  unfold deleteRow at member
  split at member
  · cases member
  · dsimp only at member
    split at member
    · rename_i itemId basket _ hasBasket
      split at member
      · cases member
      · rename_i remaining removed
        obtain ⟨itemIds, hasItems, scanned⟩ := Option.bind_eq_some_iff.mp removed
        rw [removeItemFromBasket_eq] at scanned
        split at scanned
        · obtain rfl := Option.some.inj scanned
          rcases andThen_issued member with write | read
          · obtain ⟨_, _, impossible⟩ := updateBasketInFirestore_issued write
            cases impossible
          · have inside := getBasketItems_names read
            rw [(updateBasketInFirestore_stays _ _ _ _).screen] at inside
            have erased : name ∈ itemIds.erase itemId := inside
            simpa [Basket.ids, hasBasket, hasItems] using List.mem_of_mem_erase erased
        · cases scanned
    · cases member

/-- A completed payment empties the accumulator or stops before. -/
theorem payPalPaymentDidComplete_paid (device : Device) :
    device.payPalPaymentDidComplete.device.screen.purchasedItemIds = device.screen.purchasedItemIds ∨
      device.payPalPaymentDidComplete.device.screen.purchasedItemIds = [] := by
  have recorded := (addItemsToPurchaseHistory_stays
    { device with screen := { device.screen with payment := none } } device.screen.purchasedItemIds).screen
  unfold payPalPaymentDidComplete Outcome.andThen
  dsimp only
  split
  · rw [recorded]
    exact .inl rfl
  · right
    unfold emptyTheBasket
    dsimp only
    split
    · rfl
    · rw [(updateBasketInFirestore_stays _ _ _ _).screen]

/-- The checkout of an onboarded user adds the identifiers of the rows to the accumulator, and no other gesture adds
one. -/
theorem paid_of_gesture {device : Device} {made : Gesture} {itemId : String}
    (member : itemId ∈ (made.handle device).device.screen.purchasedItemIds) :
    itemId ∈ device.screen.purchasedItemIds ∨ ∃ processable user, made = .checkOut processable ∧
      device.currentUser = some (some user) ∧ user.onBoard = true ∧
      ∃ item ∈ device.screen.allItems, item.id = some itemId := by
  have trimmed (outside : ∀ flag, made ≠ .checkOut flag ∧ made ≠ .logOut flag)
      (unpaid : made ≠ .cancelPayment ∧ made ≠ .completePayment) : itemId ∈ device.screen.purchasedItemIds :=
    (made.handle_trims device outside unpaid).purchasedItemIds ▸ member
  cases made with
  | checkOut processable =>
      simp only [Gesture.handle, checkOutButtonWasTapped, withCurrentUser] at member
      split at member
      · exact .inl member
      · exact .inl member
      · rename_i user current
        split at member
        · rename_i onboarded
          unfold payButtonPressed at member
          split at member
          · rename_i names prices itemIds _ _ hasIds
            rcases List.mem_append.mp member with old | new
            · exact .inl old
            · rw [← filterMap_of_mapM hasIds] at new
              exact .inr ⟨processable, user, rfl, current, onboarded, List.mem_filterMap.mp new⟩
          · exact .inl member
        · exact .inl member
  | completePayment =>
      rcases device.payPalPaymentDidComplete_paid with same | empty
      · exact .inl (same ▸ member)
      · have impossible : itemId ∈ ([] : List String) := empty ▸ member
        cases impossible
  | cancelPayment => exact .inl member
  | logOut signedOut => cases signedOut <;> exact .inl member
  | _ => exact .inl (trimmed (by simp) (by simp))

namespace Refers

variable {device : Device}

theorem mono (refers : device.Refers known) (grows : ∀ itemId, known itemId → wider itemId) : device.Refers wider :=
  ⟨fun itemId member => grows itemId (refers.copy itemId member),
    fun itemId member => grows itemId (refers.paid itemId member)⟩

/-- A gesture brings no unknown identifier to the screen when the rows are known. -/
theorem gesture (refers : device.Refers known)
    (rows : ∀ item ∈ device.screen.allItems, ∀ itemId ∈ item.id, known itemId) (made : Gesture) :
    (made.handle device).device.Refers known := by
  refine ⟨fun itemId member => ?_, fun itemId member => ?_⟩
  · cases has : (made.handle device).device.screen.basket with
    | none =>
        rw [has] at member
        cases member
    | some copy =>
        rw [has] at member
        obtain ⟨earlier, had, shrinks⟩ := made.handle_copy has
        exact refers.copy itemId (had ▸ shrinks.ids member)
  · rcases paid_of_gesture member with old | ⟨_, _, _, _, _, item, row, hasId⟩
    · exact refers.paid itemId old
    · exact rows item row itemId hasId

theorem complete (refers : device.Refers known) {number : Nat} {request : Request} {reply : Reply}
    (carried : Flight.Refers known ⟨number, request, some reply⟩) (uuid : String) :
    (request.complete uuid reply device).device.Refers known := by
  refine ⟨fun itemId member => ?_, fun itemId member => ?_⟩
  · cases has : (request.complete uuid reply device).device.screen.basket with
    | none =>
        rw [has] at member
        cases member
    | some copy =>
        rw [has] at member
        rcases Request.complete_basket has with old | ⟨owner, rfl, shown⟩
        · exact refers.copy itemId (old ▸ member)
        · exact carried reply rfl itemId (shown ▸ member)
  · rw [(request.complete_checkout uuid reply device).2.1] at member
    exact refers.paid itemId member

end Refers

end Device

namespace World.Refers

variable {kind : Item → Prop} {world next : World} {number index : Nat} {request issued : Request}

theorem mono (refers : world.Refers known) (grows : ∀ itemId, known itemId → wider itemId) : world.Refers wider :=
  ⟨fun name data stored itemId member => grows itemId (refers.baskets name data stored itemId member),
    fun number => (refers.devices number).mono grows, fun flight member => (refers.flights flight member).mono grows⟩

theorem perform (refers : world.Refers known) {outcome : Outcome} (device : outcome.device.Refers known)
    (new : ∀ request ∈ outcome.issued, Flight.Refers known ⟨number, request, none⟩) :
    (world.perform number outcome).Refers known := by
  refine ⟨refers.baskets, fun other => ?_, forall_perform refers.flights new⟩
  by_cases same : other = number
  · subst same
    rwa [perform_devices]
  · rw [perform_other _ _ same]
    exact refers.devices other

/-- A gesture reads and writes identifiers of the copy. -/
theorem issued_gesture (refers : world.Refers known) {made : Gesture}
    (member : issued ∈ (made.handle (world.devices number)).issued) : Flight.Refers known ⟨number, issued, none⟩ := by
  have copy := (refers.devices number).copy
  cases Gesture.issues_of_mem member with
  | addToBasket signedIn => exact fun reply replied => by cases replied
  | loadBasket signedIn => exact fun reply replied => by cases replied
  | readItem => exact copy _ (Device.deleteRow_names member)
  | deleteRow present hasId hasBasket hasItems hasName inside =>
      refine ⟨_, rfl, fun itemId kept => copy itemId ?_⟩
      simpa [Basket.ids, hasBasket, hasItems] using List.mem_of_mem_erase kept
  | emptyTheBasket hasBasket hasName => exact ⟨[], rfl, fun itemId nothing => absurd nothing List.not_mem_nil⟩
  | _ => trivial

/-- A completion reads and writes identifiers of its answer and of the added item. -/
theorem issued_complete (refers : world.Refers known) {reply : Reply} {uuid : String}
    (carried : Flight.Refers known ⟨number, request, some reply⟩)
    (lists : Flight.Lists kind ⟨number, request, some reply⟩)
    (ids : ∀ item, kind item → ∀ itemId ∈ item.id, known itemId)
    (member : issued ∈ (request.complete uuid reply (world.devices number)).issued) :
    Flight.Refers known ⟨number, issued, none⟩ := by
  cases Request.follows_of_mem member with
  | createBasket absent signedIn hasId =>
      intro other inside
      exact List.mem_singleton.mp inside ▸ ids _ lists _ hasId
  | appendItem shown hasName hasItems hasId =>
      refine ⟨_, rfl, fun other inside => ?_⟩
      rcases List.mem_append.mp inside with old | new
      · exact carried reply rfl other (by simpa [Basket.ids, shown, hasItems] using old)
      · exact List.mem_singleton.mp new ▸ ids _ lists _ hasId
  | readLoaded => exact carried reply rfl _ (Device.getBasketItems_names member)
  | readEmptied => exact (refers.devices number).copy _ (Device.getBasketItems_names member)
  | saveUser missing => trivial
  | downloadUser => trivial

/-- The server writes and answers known identifiers. -/
theorem answer (refers : world.Refers known) (carried : Flight.Refers known ⟨number, request, none⟩) :
    (∀ name data, (world.store.answer request).1.data .basket name = some data →
        ∀ itemId ∈ data.itemIds, known itemId) ∧
      Flight.Refers known ⟨number, request, some (world.store.answer request).2⟩ := by
  refine ⟨fun name data stored => ?_, ?_⟩
  · rcases Store.answer_basket_cases stored with kept | rfl | ⟨values, completion, before, rfl, present, rfl⟩
    · exact refers.baskets name data kept
    · exact carried
    · obtain ⟨itemIds, rfl, all⟩ := carried
      exact all
  · cases request with
    | getBaskets ownerId completion =>
        intro reply replied
        obtain rfl := Option.some.inj replied
        rw [Store.basket_of_answer]
        cases first : (world.store.basketsOf ownerId).head? with
        | none => exact fun itemId nothing => by cases nothing
        | some entry =>
            exact refers.baskets entry.1 entry.2 (Store.mem_basketsOf.mp (List.mem_of_head? first)).1
    | setBasket name data => exact carried
    | updateBasket name values completion => exact carried
    | getItem name download => exact carried
    | _ => trivial

theorem replied {reply : Reply} (carried : Flight.Refers known ⟨number, request, none⟩) (hidden : reply.basket = none) :
    Flight.Refers known ⟨number, request, some reply⟩ := by
  cases request with
  | getBaskets ownerId completion =>
      intro given same itemId member
      obtain rfl := Option.some.inj same
      rw [hidden] at member
      cases member
  | setBasket name data => exact carried
  | updateBasket name values completion => exact carried
  | getItem name download => exact carried
  | _ => trivial

theorem serve (refers : world.Refers known) {answer : Answer}
    (found : world.flights[index]? = some ⟨number, request, none⟩)
    (served : world.serve index number request answer = some next) : next.Refers known := by
  have carried := refers.flights _ (List.mem_of_getElem? found)
  rcases serve_cases served with ⟨_, rfl⟩ | ⟨_, _, rfl⟩ | ⟨uid, isEmailVerified, _, _, rfl⟩
  · exact ⟨refers.baskets, refers.devices, Pool.forall_set refers.flights (replied carried rfl)⟩
  · obtain ⟨baskets, answered⟩ := refers.answer carried
    exact ⟨baskets, refers.devices, Pool.forall_set refers.flights answered⟩
  · refine ⟨refers.baskets, fun other => ?_, Pool.forall_set refers.flights (replied carried rfl)⟩
    obtain ⟨auth, _, signedIn⟩ := world.signIn_device number other uid
    simp only [World.record, signedIn]
    exact ⟨(refers.devices other).copy, (refers.devices other).paid⟩

theorem callback (refers : world.Refers known) (carries : world.Carries kind)
    (ids : ∀ item, kind item → ∀ itemId ∈ item.id, known itemId) {reply : Reply} {uuid : String}
    (found : world.flights[index]? = some ⟨number, request, some reply⟩) :
    (world.callback index number request reply uuid).Refers known := by
  have carried := refers.flights _ (List.mem_of_getElem? found)
  have erased : Refers known { world with flights := world.flights.eraseIdx index } :=
    ⟨refers.baskets, refers.devices, Pool.forall_eraseIdx refers.flights⟩
  cases stopped : (world.devices number).trapped with
  | true => rwa [callback_of_stopped stopped]
  | false =>
      rw [callback_of_running stopped]
      refine erased.perform ((refers.devices number).complete carried uuid) fun issued follows => ?_
      exact refers.issued_complete carried (carries.flights _ (List.mem_of_getElem? found)) ids follows

/-- A step keeps the identifiers known when the items are. -/
theorem step (refers : world.Refers known) (carries : world.Carries kind)
    (ids : ∀ item, kind item → ∀ itemId ∈ item.id, known itemId) {event : Event}
    (taken : world.step event = some next) : next.Refers known := by
  cases event with
  | gesture number made =>
      obtain ⟨_, rfl⟩ := step_gesture.mp taken
      have rows (item : Item) (row : item ∈ (world.devices number).screen.allItems) :
          ∀ itemId ∈ item.id, known itemId := ids item ((carries.devices number).rows item row)
      exact refers.perform ((refers.devices number).gesture rows made) fun request => refers.issued_gesture
  | serve index answer =>
      obtain ⟨number, request, found, served⟩ := step_serve.mp taken
      exact refers.serve found served
  | callback index uuid =>
      obtain ⟨number, request, reply, found, _, rfl⟩ := step_callback.mp taken
      exact refers.callback carries ids found

end World.Refers

/-- The updates of a gesture keep the history known when the accumulator of a completed payment is. -/
theorem Gesture.fits_historyRule {device : Device} {made : Gesture}
    (paid : made = .completePayment → device.auth ≠ none → ∀ itemId ∈ device.screen.purchasedItemIds, known itemId)
    (cached : ∀ record, device.defaults = some record → ∀ itemId ∈ record.purchasedItemIds, known itemId)
    (offered : made.offered = true) : made.Fits (historyRule known) device := by
  intro uid values userObject member
  cases Gesture.issues_of_mem member with
  | recordPurchase signedIn record decoded =>
      intro itemId inside
      rcases List.mem_append.mp inside with old | new
      · rw [MUser.ofDictionary_purchasedItemIds decoded] at old
        exact cached _ record itemId old
      · exact paid rfl (by rw [signedIn]; exact Option.some_ne_none _) itemId new
  | saveProfile signedIn record => exact fun itemId nothing => by cases nothing
  | finishOnboarding signedIn record => exact fun itemId nothing => by cases nothing
  | updateUser signedIn record => cases offered

end ShoppingApp
