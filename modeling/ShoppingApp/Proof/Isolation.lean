import ShoppingApp.Proof.OneBasket
import ShoppingApp.Proof.SessionIdentity

namespace ShoppingApp

/-- The account made an add gesture for each of these items. -/
def Owns (additions : List (String × String)) (uid : String) (itemIds : List String) : Prop :=
  ∀ itemId ∈ itemIds, (uid, itemId) ∈ additions

instance (additions : List (String × String)) (uid : String) (itemIds : List String) :
    Decidable (Owns additions uid itemIds) :=
  inferInstanceAs (Decidable (∀ _ ∈ _, _ ∈ _))

/-- A basket of this owner has this name. -/
def Store.HasBasket (store : Store) (ownerId name : String) : Prop :=
  ∃ data, store.data .basket name = some data ∧ Owned ownerId data

/-- The copy is one of a basket of the owner, and the owner added its items. -/
structure Basket.CopyOf (store : Store) (additions : List (String × String)) (ownerId : String)
    (copy : Basket) : Prop where
  stored : ∃ name, copy.id = some name ∧ store.HasBasket ownerId name
  owns : ∀ itemIds, copy.itemIds = some itemIds → Owns additions ownerId itemIds

/-- The document carries its name, and its owner added its items. -/
structure Dictionary.BasketOf (additions : List (String × String)) (name : String) (data : Dictionary) :
    Prop where
  objectId : data.read Value.asString .objectId = some name
  owns : ∀ ownerId, Owned ownerId data → Owns additions ownerId data.itemIds

/-- The account that the record names added the items of the history. -/
def Dictionary.OwnHistory (additions : List (String × String)) (record : Dictionary) : Prop :=
  ∀ uid, record.read Value.asString .objectId = some uid → Owns additions uid record.purchasedItemIds

/-- The account of a query made the gesture of the query. -/
def BasketQuery.MadeBy (additions : List (String × String)) (ownerId : String) : BasketQuery → Prop
  | .addToBasket item => ∀ itemId, item.id = some itemId → (ownerId, itemId) ∈ additions
  | .loadBasket => True

/-- The documents in flight hold items of the accounts that they belong to. -/
def Flight.Own (store : Store) (additions : List (String × String)) (flight : Flight) : Prop :=
  match flight.request with
  | .getBaskets ownerId completion => completion.MadeBy additions ownerId ∧
      ∀ reply copy, flight.reply = some reply → reply.basket = some copy → copy.CopyOf store additions ownerId
  | .setBasket name data => ∃ uid itemId,
      data = basketDictionaryFrom ⟨some name, some uid, some [itemId]⟩ ∧ (uid, itemId) ∈ additions
  | .updateBasket name values _ => ∃ ownerId itemIds,
      values = itemIdsValues itemIds ∧ store.HasBasket ownerId name ∧ Owns additions ownerId itemIds
  | .getUser userId _ => ∀ record, flight.reply = some (.document (some record)) →
      record.read Value.asString .objectId = some userId ∧ record.OwnHistory additions
  | .setUser name data => data.read Value.asString .objectId = some name ∧ data.OwnHistory additions
  | .updateUser name values userObject =>
      values .objectId = none ∧ Owns additions name values.purchasedItemIds ∧ userObject.OwnHistory additions
  | _ => True

/-- A completion creates a basket only for the account that asked for it. -/
def Flight.CreatesForAsker (device : Device) (flight : Flight) : Prop :=
  match flight.request with
  | .getBaskets ownerId _ =>
      ∀ reply ∈ flight.reply, ∀ uid ∈ flight.request.creator reply device, uid = ownerId
  | _ => True

instance (device : Device) : ∀ flight : Flight, Decidable (flight.CreatesForAsker device)
  | ⟨_, .getBaskets _ _, _⟩ => inferInstanceAs (Decidable (∀ _ ∈ _, ∀ _ ∈ _, _ = _))
  | ⟨_, .setBasket _ _, _⟩ | ⟨_, .updateBasket _ _ _, _⟩ | ⟨_, .getItem _ _, _⟩ | ⟨_, .getUser _ _, _⟩
  | ⟨_, .setUser _ _, _⟩ | ⟨_, .updateUser _ _ _, _⟩ | ⟨_, .signIn _, _⟩ | ⟨_, .createUser _, _⟩ =>
      inferInstanceAs (Decidable True)

/-- Every item of a basket or of a purchase history was added by its account. -/
def Store.Isolated (store : Store) (additions : List (String × String)) : Prop :=
  (∀ ownerId name data, store.data .basket name = some data → Owned ownerId data →
      Owns additions ownerId data.itemIds) ∧
    ∀ userId, Owns additions userId (store.purchasedItemIds userId)

namespace World

/-- The account that is signed in makes an add gesture. -/
def addition (world : World) : Event → List (String × String)
  | .gesture number (.addToBasket item) =>
      ((world.devices number).auth.bind fun uid => item.id.map fun itemId => (uid, itemId)).toList
  | _ => []

/-- A payment completes with the cached record and the items of the account that is signed in, and a basket
is created for the account that asked for it. -/
def WritesOwn (world : World) (additions : List (String × String)) : Event → Prop
  | .gesture number made => made.pays = true →
      ∀ uid ∈ (world.devices number).auth, ∀ user ∈ (world.devices number).currentUser.join,
        user.objectId = uid ∧ Owns additions uid (world.devices number).screen.purchasedItemIds
  | .callback index _ =>
      ∀ flight ∈ world.flights[index]?, flight.CreatesForAsker (world.devices flight.device)
  | .serve _ _ => True

instance (world : World) (additions : List (String × String)) :
    ∀ event, Decidable (world.WritesOwn additions event)
  | .gesture _ made => inferInstanceAs (Decidable (made.pays = true → ∀ _ ∈ _, ∀ _ ∈ _, _ ∧ _))
  | .callback _ _ => inferInstanceAs (Decidable (∀ _ ∈ _, Flight.CreatesForAsker _ _))
  | .serve _ _ => inferInstanceAs (Decidable True)

/-- The server, the device, and the requests in flight keep the items of the accounts apart. -/
structure Separate (number : Nat) (additions : List (String × String)) (world : World) : Prop where
  baskets : ∀ name data, world.store.data .basket name = some data → data.BasketOf additions name
  users : ∀ userId record, world.store.data .user userId = some record →
    record.read Value.asString .objectId = some userId ∧ record.OwnHistory additions
  cached : ∀ record, (world.devices number).defaults = some record → record.OwnHistory additions
  copy : ∀ copy, (world.devices number).screen.basket = some copy →
    ∃ ownerId, copy.CopyOf world.store additions ownerId
  flights : ∀ flight ∈ world.flights, flight.device = number ∧ flight.Own world.store additions
  names : world.NamesFree

end World

variable {store after : Store} {additions later : List (String × String)} {uid ownerId name : String}

/-- The server keeps every basket with its owner while new names are free and updates set the items. -/
theorem Store.HasBasket.answer {request : Request} (has : store.HasBasket ownerId name)
    (creates : ∀ created written, request = .setBasket created written → store.data .basket created = none)
    (updates : ∀ updated values completion, request = .updateBasket updated values completion →
      ∃ itemIds, values = itemIdsValues itemIds) : (store.answer request).1.HasBasket ownerId name := by
  obtain ⟨data, stored, owned⟩ := has
  unfold HasBasket
  rw [Store.answer_basket, stored]
  cases request with
  | setBasket created written =>
      by_cases same : created = name
      · have free := creates created written rfl
        rw [same, stored] at free
        cases free
      · exact ⟨data, if_neg same, owned⟩
  | updateBasket updated values completion =>
      obtain ⟨itemIds, rfl⟩ := updates updated values completion rfl
      by_cases same : updated = name
      · exact ⟨data.patch (itemIdsValues itemIds), if_pos same, owned⟩
      · exact ⟨data, if_neg same, owned⟩
  | _ => exact ⟨data, rfl, owned⟩

theorem Owns.mono {itemIds : List String} (owns : Owns additions uid itemIds)
    (grows : additions ⊆ later) : Owns later uid itemIds :=
  fun itemId member => grows (owns itemId member)

/-- The identifier names the account, and an update keeps its items. -/
theorem Dictionary.OwnHistory.patch {record values : Dictionary} (own : record.OwnHistory additions)
    (unnamed : values .objectId = none)
    (owns : ∀ uid, record.read Value.asString .objectId = some uid → Owns additions uid values.purchasedItemIds) :
    Dictionary.OwnHistory additions (record.patch values) := by
  intro uid named
  have same : record.read Value.asString .objectId = some uid := by
    unfold read Record.patch at named
    rw [unnamed] at named
    exact named
  rw [purchasedItemIds_patch]
  split
  · exact own uid same
  · exact owns uid same

theorem Dictionary.ownHistory_new (userId email : String) :
    Dictionary.OwnHistory additions (userDictionaryFrom (MUser.new userId email "" "")) :=
  fun uid _ itemId member => by cases member

theorem Dictionary.BasketOf.mono {data : Dictionary} (basket : data.BasketOf additions name)
    (grows : additions ⊆ later) : data.BasketOf later name :=
  ⟨basket.objectId, fun owner owned => (basket.owns owner owned).mono grows⟩

theorem Dictionary.OwnHistory.mono {record : Dictionary} (own : record.OwnHistory additions)
    (grows : additions ⊆ later) : record.OwnHistory later :=
  fun uid named => (own uid named).mono grows

theorem Basket.CopyOf.mono {copy : Basket} (copyOf : copy.CopyOf store additions ownerId)
    (grows : additions ⊆ later)
    (kept : ∀ name, store.HasBasket ownerId name → after.HasBasket ownerId name) :
    copy.CopyOf after later ownerId := by
  obtain ⟨name, hasName, stored⟩ := copyOf.stored
  exact ⟨⟨name, hasName, kept name stored⟩, fun itemIds has => (copyOf.owns itemIds has).mono grows⟩

theorem Basket.CopyOf.shrinks {earlier copy : Basket} (copyOf : earlier.CopyOf store additions ownerId)
    (shrinks : earlier.Shrinks copy) : copy.CopyOf store additions ownerId := by
  obtain ⟨name, hasName, stored⟩ := copyOf.stored
  refine ⟨⟨name, shrinks.id.trans hasName, stored⟩, fun itemIds has itemId member => ?_⟩
  obtain ⟨before, had, wasMember⟩ := shrinks.itemIds itemIds has itemId member
  exact copyOf.owns before had itemId wasMember

theorem BasketQuery.MadeBy.mono {completion : BasketQuery} (byOwner : completion.MadeBy additions ownerId)
    (grows : additions ⊆ later) : completion.MadeBy later ownerId := by
  cases completion with
  | addToBasket item => exact fun itemId hasId => grows (byOwner itemId hasId)
  | loadBasket => trivial

/-- Documents that hold items of their accounts are isolated. -/
theorem Store.isolated
    (baskets : ∀ name data, store.data .basket name = some data → data.BasketOf additions name)
    (users : ∀ userId record, store.data .user userId = some record →
      record.read Value.asString .objectId = some userId ∧ record.OwnHistory additions) :
    store.Isolated additions := by
  refine ⟨fun ownerId name data stored => (baskets name data stored).owns ownerId, fun userId => ?_⟩
  unfold Store.purchasedItemIds
  cases stored : store.data .user userId with
  | none => exact fun itemId impossible => by cases impossible
  | some record =>
      obtain ⟨named, own⟩ := users userId record stored
      exact own userId named

/-- A flight stays in order while the baskets stay with their owners and gestures are added. -/
theorem Flight.Own.mono {flight : Flight} (own : flight.Own store additions) (grows : additions ⊆ later)
    (kept : ∀ ownerId name, store.HasBasket ownerId name → after.HasBasket ownerId name) :
    flight.Own after later := by
  obtain ⟨number, request, reply⟩ := flight
  cases request with
  | getBaskets ownerId completion =>
      exact ⟨own.1.mono grows, fun replied copy same shown => (own.2 replied copy same shown).mono grows (kept ownerId)⟩
  | setBasket name data =>
      obtain ⟨uid, itemId, written, addedBy⟩ := own
      exact ⟨uid, itemId, written, grows addedBy⟩
  | updateBasket name values completion =>
      obtain ⟨ownerId, itemIds, written, stored, owns⟩ := own
      exact ⟨ownerId, itemIds, written, kept ownerId name stored, owns.mono grows⟩
  | getUser userId email => exact fun record replied => ⟨(own record replied).1, (own record replied).2.mono grows⟩
  | setUser name data => exact ⟨own.1, own.2.mono grows⟩
  | updateUser name values userObject => exact ⟨own.1, own.2.1.mono grows, own.2.2.mono grows⟩
  | getItem name download => trivial
  | signIn email => trivial
  | createUser email => trivial

/-- An update without a history keeps the items of the cached record. -/
theorem Flight.own_profile {number : Nat} {userId : String} {record values : Dictionary}
    (unnamed : values .objectId = none) (silent : values .purchasedItemIds = none)
    (own : record.OwnHistory additions) :
    Flight.Own store additions ⟨number, .updateUser userId values (record.patch values), none⟩ := by
  have nothing (uid : String) : Owns additions uid values.purchasedItemIds := by
    intro itemId member
    simp [Dictionary.purchasedItemIds, Dictionary.read, silent] at member
  exact ⟨unnamed, nothing userId, own.patch unnamed fun uid _ => nothing uid⟩

namespace World.Separate

variable {world next : World} {number : Nat}

/-- The requests of a gesture are in order when its payment is. -/
theorem issued (separate : Separate number additions world) {gesture : Gesture} {request : Request}
    (offered : gesture.offered = true) (own : world.WritesOwn additions (.gesture number gesture))
    (grows : additions ⊆ later) (recorded : world.addition (.gesture number gesture) ⊆ later)
    (member : request ∈ (gesture.handle (world.devices number)).issued) :
    Flight.Own world.store later ⟨number, request, none⟩ := by
  cases Gesture.issues_of_mem member with
  | addToBasket signedIn =>
      rename_i uid item
      refine ⟨fun itemId hasId => recorded ?_, fun reply copy impossible => by cases impossible⟩
      simp [addition, signedIn, hasId]
  | loadBasket signedIn => exact ⟨trivial, fun reply copy impossible => by cases impossible⟩
  | readItem => trivial
  | deleteRow present hasId hasBasket hasItems hasName inside =>
      obtain ⟨ownerId, copyOf⟩ := separate.copy _ hasBasket
      obtain ⟨name, sameName, stored⟩ := copyOf.stored
      obtain rfl := Option.some.inj (hasName.symm.trans sameName)
      refine ⟨ownerId, _, rfl, stored, fun itemId kept => grows ?_⟩
      exact copyOf.owns _ hasItems itemId (List.mem_of_mem_erase kept)
  | recordPurchase signedIn cached decoded =>
      rename_i uid record user
      have current : (world.devices number).currentUser = some (some user) := by
        simp [Device.currentUser, signedIn, cached, decoded]
      obtain ⟨sameId, owns⟩ := own rfl uid signedIn user (by rw [current]; rfl)
      have named : record.read Value.asString .objectId = some uid := sameId ▸ MUser.ofDictionary_objectId decoded
      have history : Owns additions uid (user.purchasedItemIds ++ (world.devices number).screen.purchasedItemIds) := by
        intro itemId member
        rcases List.mem_append.mp member with old | new
        · rw [MUser.ofDictionary_purchasedItemIds decoded] at old
          exact separate.cached record cached uid named itemId old
        · exact owns itemId new
      refine ⟨rfl, history.mono grows, ((separate.cached record cached).mono grows).patch rfl ?_⟩
      intro other otherNamed
      obtain rfl := Option.some.inj (named.symm.trans otherNamed)
      exact history.mono grows
  | emptyTheBasket hasBasket hasName =>
      obtain ⟨ownerId, copyOf⟩ := separate.copy _ hasBasket
      obtain ⟨name, sameName, stored⟩ := copyOf.stored
      obtain rfl := Option.some.inj (hasName.symm.trans sameName)
      exact ⟨ownerId, [], rfl, stored, fun itemId impossible => by cases impossible⟩
  | saveProfile signedIn cached => exact Flight.own_profile rfl rfl ((separate.cached _ cached).mono grows)
  | finishOnboarding signedIn cached => exact Flight.own_profile rfl rfl ((separate.cached _ cached).mono grows)
  | updateUser signedIn cached => cases offered
  | login => trivial
  | register => trivial

theorem gesture (separate : Separate number additions world) {gesture : Gesture}
    (offered : gesture.offered = true) (own : world.WritesOwn additions (.gesture number gesture))
    (taken : world.step (.gesture number gesture) = some next) :
    Separate number (additions ++ world.addition (.gesture number gesture)) next := by
  have names := separate.names.step taken
  obtain ⟨_, rfl⟩ := step_gesture.mp taken
  have grows : additions ⊆ additions ++ world.addition (.gesture number gesture) := List.subset_append_left _ _
  have device := world.perform_devices number (gesture.handle (world.devices number))
  refine ⟨fun name data stored => (separate.baskets name data stored).mono grows, ?_, ?_, ?_, ?_, names⟩
  · intro userId record stored
    obtain ⟨named, own⟩ := separate.users userId record stored
    exact ⟨named, own.mono grows⟩
  · intro record cached
    rw [device] at cached
    exact (separate.cached record (gesture.handle_defaults cached)).mono grows
  · intro copy has
    rw [device] at has
    obtain ⟨earlier, had, shrinks⟩ := gesture.handle_copy has
    obtain ⟨ownerId, copyOf⟩ := separate.copy earlier had
    exact ⟨ownerId, (copyOf.shrinks shrinks).mono grows fun _ stored => stored⟩
  · apply forall_perform
    · intro flight member
      obtain ⟨onDevice, own⟩ := separate.flights flight member
      exact ⟨onDevice, own.mono grows fun _ _ stored => stored⟩
    · intro request issued
      exact ⟨rfl, separate.issued offered own grows (List.subset_append_right _ _) issued⟩

/-- The server keeps every basket with its owner. -/
theorem answer_hasBasket (separate : Separate number additions world) {index device : Nat} {request : Request}
    (found : world.flights[index]? = some ⟨device, request, none⟩) {ownerId name : String}
    (has : world.store.HasBasket ownerId name) : (world.store.answer request).1.HasBasket ownerId name := by
  have own := (separate.flights _ (List.mem_of_getElem? found)).2
  refine has.answer ?_ ?_
  · rintro created written rfl
    exact separate.names.free found
  · rintro updated values completion rfl
    obtain ⟨_, itemIds, rfl, _, _⟩ := own
    exact ⟨itemIds, rfl⟩

/-- The server writes to a basket only items of its owner. -/
theorem answer_baskets (separate : Separate number additions world) {index device : Nat} {request : Request}
    (found : world.flights[index]? = some ⟨device, request, none⟩) {name : String} {data : Dictionary}
    (stored : (world.store.answer request).1.data .basket name = some data) : data.BasketOf additions name := by
  have own := (separate.flights _ (List.mem_of_getElem? found)).2
  rcases Store.answer_basket_cases stored with kept | rfl | ⟨values, completion, before, rfl, present, rfl⟩
  · exact separate.baskets name data kept
  · obtain ⟨uid, itemId, rfl, addedBy⟩ := own
    refine ⟨rfl, fun ownerId owned other member => ?_⟩
    obtain rfl := Value.string.inj (Option.some.inj owned)
    obtain rfl := List.mem_singleton.mp member
    exact addedBy
  · obtain ⟨ownerId, itemIds, rfl, ⟨old, isOld, ownedOld⟩, owns⟩ := own
    obtain rfl := Option.some.inj (present.symm.trans isOld)
    refine ⟨(separate.baskets name before isOld).objectId, fun other owned => ?_⟩
    obtain rfl := Value.string.inj (Option.some.inj (ownedOld.symm.trans owned))
    exact owns

/-- The server writes to a user document only items of its account. -/
theorem answer_users (separate : Separate number additions world) {index device : Nat} {request : Request}
    (found : world.flights[index]? = some ⟨device, request, none⟩) {userId : String} {record : Dictionary}
    (stored : (world.store.answer request).1.data .user userId = some record) :
    record.read Value.asString .objectId = some userId ∧ record.OwnHistory additions := by
  have own := (separate.flights _ (List.mem_of_getElem? found)).2
  rcases Store.answer_user_cases stored with kept | rfl | ⟨values, userObject, old, rfl, isOld, rfl⟩
  · exact separate.users userId record kept
  · exact own
  · obtain ⟨named, history⟩ := separate.users userId old isOld
    refine ⟨?_, history.patch own.1 fun uid other => ?_⟩
    · unfold Dictionary.read Record.patch
      rw [own.1]
      exact named
    · obtain rfl := Option.some.inj (named.symm.trans other)
      exact own.2.1

/-- The reply of the server shows documents of the account that asked. -/
theorem answer_own (separate : Separate number additions world) {index device : Nat} {request : Request}
    (found : world.flights[index]? = some ⟨device, request, none⟩) :
    Flight.Own (world.store.answer request).1 additions ⟨device, request, some (world.store.answer request).2⟩ := by
  have own := (separate.flights _ (List.mem_of_getElem? found)).2.mono (List.Subset.refl additions)
    fun ownerId name has => separate.answer_hasBasket found has
  cases request with
  | getBaskets ownerId completion =>
      refine ⟨own.1, fun reply copy same shown => ?_⟩
      obtain rfl := Option.some.inj same
      rw [Store.basket_of_answer] at shown
      obtain ⟨⟨name, data⟩, first, rfl⟩ := Option.map_eq_some_iff.mp shown
      obtain ⟨stored, owned⟩ := Store.mem_basketsOf.mp (List.mem_of_head? first)
      have basket := separate.baskets name data stored
      refine ⟨⟨name, basket.objectId, data, stored, owned⟩, fun itemIds has => ?_⟩
      have listed : data.itemIds = itemIds := by
        unfold Dictionary.itemIds
        rw [show data.read Value.asStrings .itemIds = some itemIds from has]
        rfl
      exact listed ▸ basket.owns ownerId owned
  | getUser userId email =>
      intro record replied
      exact separate.users userId record (Reply.document.inj (Option.some.inj replied))
  | setBasket name data => exact own
  | updateBasket name values completion => exact own
  | setUser name data => exact own
  | updateUser name values userObject => exact own
  | getItem name download => trivial
  | signIn email => trivial
  | createUser email => trivial

/-- A failed request or an authentication shows no document. -/
theorem own_reply {store : Store} {device : Nat} {request : Request} {reply : Reply}
    (own : Flight.Own store additions ⟨device, request, none⟩) (hidden : reply.basket = none)
    (other : ∀ record, reply ≠ .document (some record)) :
    Flight.Own store additions ⟨device, request, some reply⟩ := by
  cases request with
  | getBaskets ownerId completion =>
      refine ⟨own.1, fun replied copy same shown => ?_⟩
      obtain rfl := Option.some.inj same
      rw [hidden] at shown
      cases shown
  | getUser userId email => exact fun record replied => absurd (Option.some.inj replied) (other record)
  | setBasket name data => exact own
  | updateBasket name values completion => exact own
  | setUser name data => exact own
  | updateUser name values userObject => exact own
  | getItem name download => trivial
  | signIn email => trivial
  | createUser email => trivial

theorem serve (separate : Separate number additions world) {index device : Nat} {request : Request} {answer : Answer}
    (found : world.flights[index]? = some ⟨device, request, none⟩)
    (served : world.serve index device request answer = some next) (names : next.NamesFree) :
    Separate number additions next := by
  obtain ⟨rfl, own⟩ := separate.flights _ (List.mem_of_getElem? found)
  rcases serve_cases served with ⟨_, rfl⟩ | ⟨_, _, rfl⟩ | ⟨uid, isEmailVerified, _, _, rfl⟩
  · refine ⟨separate.baskets, separate.users, separate.cached, separate.copy, ?_, names⟩
    exact Pool.forall_set separate.flights ⟨rfl, own_reply own rfl (by simp)⟩
  · have kept : ∀ ownerId name, world.store.HasBasket ownerId name →
        (world.store.answer request).1.HasBasket ownerId name :=
      fun ownerId name has => separate.answer_hasBasket found has
    refine ⟨fun name data => separate.answer_baskets found, fun userId record => separate.answer_users found,
      separate.cached, ?_, ?_, names⟩
    · intro copy has
      obtain ⟨ownerId, copyOf⟩ := separate.copy copy has
      exact ⟨ownerId, copyOf.mono (List.Subset.refl _) (kept ownerId)⟩
    · apply Pool.forall_set
      · intro flight member
        obtain ⟨onDevice, own⟩ := separate.flights flight member
        exact ⟨onDevice, own.mono (List.Subset.refl _) kept⟩
      · exact ⟨rfl, separate.answer_own found⟩
  · refine ⟨separate.baskets, separate.users, ?_, ?_, ?_, names⟩
    · intro record cached
      apply separate.cached record
      simpa [World.record, World.signIn] using cached
    · intro copy has
      apply separate.copy copy
      simpa [World.record, World.signIn] using has
    · exact Pool.forall_set separate.flights ⟨rfl, own_reply own rfl (by simp)⟩

/-- The requests of a completion are in order when its creation is. -/
theorem follows (separate : Separate number additions world) {index : Nat} {request issued : Request}
    {reply : Reply} {uuid : String} (found : world.flights[index]? = some ⟨number, request, some reply⟩)
    (running : (world.devices number).trapped = false)
    (asked : Flight.CreatesForAsker (world.devices number) ⟨number, request, some reply⟩)
    (member : issued ∈ (request.complete uuid reply (world.devices number)).issued) :
    Flight.Own world.store additions ⟨number, issued, none⟩ := by
  have own := (separate.flights _ (List.mem_of_getElem? found)).2
  cases Request.follows_of_mem member with
  | createBasket absent signedIn hasId =>
      rename_i owner uid itemId item
      have isCreator : Request.creator (.getBaskets owner (.addToBasket item)) reply (world.devices number) =
          some uid := by
        simp [Request.creator, running, absent, hasId, signedIn]
      obtain rfl := asked reply rfl uid isCreator
      exact ⟨uid, itemId, rfl, own.1 itemId hasId⟩
  | appendItem shown hasName hasItems hasId =>
      rename_i owner name itemId item basket itemIds
      have copyOf := own.2 reply basket rfl shown
      obtain ⟨other, sameName, stored⟩ := copyOf.stored
      obtain rfl := Option.some.inj (hasName.symm.trans sameName)
      refine ⟨owner, _, rfl, stored, fun added inside => ?_⟩
      rcases List.mem_append.mp inside with old | new
      · exact copyOf.owns itemIds hasItems added old
      · exact List.mem_singleton.mp new ▸ own.1 itemId hasId
  | readLoaded => trivial
  | readEmptied => trivial
  | saveUser missing => exact ⟨rfl, Dictionary.ownHistory_new _ _⟩
  | downloadUser => exact fun record impossible => by cases impossible

/-- The record that a completion saves holds items of the account that it names. -/
theorem saved (separate : Separate number additions world) {index : Nat} {request : Request} {reply : Reply}
    {record : Dictionary} (found : world.flights[index]? = some ⟨number, request, some reply⟩)
    (saves : request.saved reply = some record) : record.OwnHistory additions := by
  have own := (separate.flights _ (List.mem_of_getElem? found)).2
  cases request with
  | getUser userId email =>
      cases reply with
      | document data =>
          cases data with
          | none =>
              obtain rfl := Option.some.inj saves
              exact Dictionary.ownHistory_new userId email
          | some data =>
              obtain rfl := Option.some.inj saves
              exact (own data rfl).2
      | _ => cases saves
  | updateUser name values userObject =>
      cases reply with
      | done =>
          obtain rfl := Option.some.inj saves
          exact own.2.2
      | _ => cases saves
  | _ => cases saves

theorem callback (separate : Separate number additions world) {index device : Nat} {request : Request}
    {reply : Reply} {uuid : String} (found : world.flights[index]? = some ⟨device, request, some reply⟩)
    (own : world.WritesOwn additions (.callback index uuid))
    (names : (world.callback index device request reply uuid).NamesFree) :
    Separate number additions (world.callback index device request reply uuid) := by
  obtain ⟨rfl, _⟩ := separate.flights _ (List.mem_of_getElem? found)
  cases stopped : (world.devices device).trapped with
  | true =>
      rw [callback_of_stopped stopped] at names ⊢
      exact ⟨separate.baskets, separate.users, separate.cached, separate.copy,
        Pool.forall_eraseIdx separate.flights, names⟩
  | false =>
      rw [callback_of_running stopped] at names ⊢
      refine ⟨separate.baskets, separate.users, ?_, ?_, ?_, names⟩
      · intro record cached
        rw [perform_devices, Request.complete_defaults] at cached
        cases saves : request.saved reply with
        | none =>
            rw [saves, Option.none_or] at cached
            exact separate.cached record cached
        | some saved =>
            rw [saves, Option.some_or] at cached
            exact Option.some.inj cached ▸ separate.saved found saves
      · intro copy has
        rw [perform_devices] at has
        rcases Request.complete_basket has with old | ⟨ownerId, rfl, shown⟩
        · exact separate.copy copy old
        · exact ⟨ownerId, (separate.flights _ (List.mem_of_getElem? found)).2.2 reply copy rfl shown⟩
      · apply forall_perform
        · exact Pool.forall_eraseIdx separate.flights
        · intro issued inside
          exact ⟨rfl, separate.follows found stopped (own _ found) inside⟩

/-- Every step that writes own items keeps the accounts apart. -/
theorem step (separate : Separate number additions world) {event : Event}
    (offered : event.By number Gesture.offered) (own : world.WritesOwn additions event)
    (taken : world.step event = some next) : Separate number (additions ++ world.addition event) next := by
  have names := separate.names.step taken
  cases event with
  | gesture device made =>
      obtain ⟨rfl, offered⟩ := offered
      exact separate.gesture offered own taken
  | serve index answer =>
      obtain ⟨device, request, found, served⟩ := step_serve.mp taken
      have nothing : world.addition (.serve index answer) = [] := rfl
      rw [nothing, List.append_nil]
      exact separate.serve found served names
  | callback index uuid =>
      obtain ⟨device, request, reply, found, _, rfl⟩ := step_callback.mp taken
      have nothing : world.addition (.callback index uuid) = [] := rfl
      rw [nothing, List.append_nil]
      exact separate.callback found own names

end World.Separate

/-- The accounts stay apart in every state of a run on one device, if each payment completes with the cached
record and the items of its account, and each basket is created for the account that asked for it. -/
theorem accounts_isolated {world final : World} {events : List Event} {number : Nat}
    {additions : List (String × String)} (quiet : world.Quiet)
    (baskets : ∀ name data, world.store.data .basket name = some data → data.BasketOf additions name)
    (users : ∀ userId record, world.store.data .user userId = some record →
      record.read Value.asString .objectId = some userId ∧ record.OwnHistory additions)
    (cached : ∀ record, (world.devices number).defaults = some record → record.OwnHistory additions)
    (screen : (world.devices number).screen.basket = none)
    (offered : ∀ event ∈ events, event.By number Gesture.offered)
    (met : Transition.Along (Transition.recording World.step World.addition)
      (fun recorded event => recorded.1.WritesOwn recorded.2 event) (world, additions) events)
    (ran : world.run events = some final) :
    final.store.Isolated (additions ++ Transition.log World.step World.addition world events) := by
  have empty : world.flights = [] := quiet
  have start : world.Separate number additions :=
    ⟨baskets, users, cached, by simp [screen], by simp [empty], quiet.namesFree⟩
  have recorded := Transition.run_recording World.addition additions ran
  have separate := Transition.run_invariant
    (fun (recorded : World × List (String × String)) => recorded.1.Separate number recorded.2) ?_ start
    (Transition.Along.and (.of_forall offered) met) recorded
  · exact Store.isolated separate.baskets separate.users
  · intro ⟨state, past⟩ event next separate ⟨offered, own⟩ taken
    obtain ⟨after, stepped, rfl⟩ := Option.map_eq_some_iff.mp taken
    exact separate.step offered own stepped

/-- A second account has a document, and the first one added the item of its basket. -/
def twoAccounts : World :=
  { openShop ["a"] with
    store := Store.ofEntries
      [("u", userDictionaryFrom onboardedUser),
        ("v", userDictionaryFrom { MUser.new "v" "v@mail" "Bob" "Ray" with onBoard := true })]
      [("a", itemDictionaryFrom (soldItem "a"))]
      [("d", basketDictionaryFrom { id := "d", ownerId := "u", itemIds := some ["a"] })] }

def loginSecond : List Event :=
  [.gesture 0 (.logOut true), .gesture 0 (.login "v@mail"), .serve 0 (.account "v" true), .callback 0 "n",
    .serve 0 .success, .callback 0 "n"]

theorem twoAccounts_baskets : ∀ name data, twoAccounts.store.data .basket name = some data →
    data.BasketOf [("u", "a")] name := by
  apply Store.forall_data
  intro entry member
  obtain rfl := List.mem_singleton.mp member
  refine ⟨rfl, fun ownerId owned itemId inside => ?_⟩
  obtain rfl := Value.string.inj (Option.some.inj owned)
  obtain rfl := List.mem_singleton.mp inside
  decide

theorem twoAccounts_users : ∀ userId record, twoAccounts.store.data .user userId = some record →
    record.read Value.asString .objectId = some userId ∧ record.OwnHistory [("u", "a")] := by
  apply Store.forall_data
  intro entry member
  rcases List.mem_cons.mp (show entry ∈ [_, _] from member) with rfl | member
  · exact ⟨rfl, fun uid _ itemId inside => by cases inside⟩
  · obtain rfl := List.mem_singleton.mp member
    exact ⟨rfl, fun uid _ itemId inside => by cases inside⟩

/-- The first account pays for its own item before the second one signs in. -/
def ownPayment : List Event := visitAndPay ++ bothWrites ++ loginSecond

/-- A payment in the own session keeps the accounts apart. -/
theorem accounts_isolated_ownPayment :
    ∃ final, twoAccounts.run ownPayment = some final ∧ final.store.Isolated
      ([("u", "a")] ++ Transition.log World.step World.addition twoAccounts ownPayment) := by
  have offered : ∀ event ∈ ownPayment, event.By 0 Gesture.offered := by decide
  have met : Transition.Along (Transition.recording World.step World.addition)
      (fun recorded event => recorded.1.WritesOwn recorded.2 event) (twoAccounts, [("u", "a")]) ownPayment := by
    decide
  have quiet : twoAccounts.Quiet := rfl
  have cached : ∀ record, (twoAccounts.devices 0).defaults = some record → record.OwnHistory [("u", "a")] := by
    intro record isRecord uid _ itemId inside
    obtain rfl := Option.some.inj isRecord
    cases inside
  exact ⟨_, rfl, accounts_isolated quiet twoAccounts_baskets twoAccounts_users cached rfl offered met rfl⟩

/-- The rows of the first account stay on the screen, and the second account pays for them. -/
def keptRows : List Event :=
  loadOneItem ++ loginSecond ++
    [.gesture 0 (.checkOut true), .gesture 0 .completePayment, .serve 0 .success]

/-- The payment records the item of the first account for the second one. -/
theorem account_receives_other :
    twoAccounts.store.Isolated [("u", "a")] ∧ (∀ event ∈ keptRows, event.By 0 Gesture.offered) ∧
      ∃ final, twoAccounts.run keptRows = some final ∧ final.store.purchasedItemIds "v" = ["a"] ∧
        ¬ final.store.Isolated
          ([("u", "a")] ++ Transition.log World.step World.addition twoAccounts keptRows) := by
  refine ⟨Store.isolated twoAccounts_baskets twoAccounts_users, by decide, _, rfl, rfl, ?_⟩
  intro isolated
  exact absurd (isolated.2 "v") (by decide)

end ShoppingApp
