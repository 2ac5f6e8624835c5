import ShoppingApp.Library.Projection
import ShoppingApp.Proof.BasketTrace
import ShoppingApp.Proof.ItemIds
import ShoppingApp.Proof.UserRecords

namespace ShoppingApp

/-- The document carries its name, and its decoder succeeds with the properties that the callers unwrap by force. -/
def Dictionary.WellFormed (collection : FCollectionReference) (name : String) (data : Dictionary) : Prop :=
  data.read Value.asString .objectId = some name ∧
    match collection with
    | .user => ∃ user, MUser.ofDictionary data = some user
    | .category => ∃ category, Category.ofDictionary data = some category
    | .items => (Item.ofDictionary data).id.isSome ∧ (Item.ofDictionary data).price.isSome
    | .basket => (Basket.ofDictionary data).id.isSome ∧ (Basket.ofDictionary data).ownerId.isSome ∧
        (Basket.ofDictionary data).itemIds.isSome

/-- Every document of the collection is well formed. -/
def Store.KeepsForm (store : Store) (collection : FCollectionReference) : Prop :=
  ∀ name data, store.data collection name = some data → data.WellFormed collection name

/-- A basket that is stored stays stored, and it keeps its owner. -/
def Store.KeepsOwners (before after : Store) : Prop :=
  ∀ name data, before.data .basket name = some data → ∃ later, after.data .basket name = some later ∧
    (Basket.ofDictionary later).ownerId = (Basket.ofDictionary data).ownerId

/-- The documents that a publication or a new category writes are well formed. -/
def PublishRequest.WellFormed : PublishRequest → Prop
  | .setItem _ name data => data.WellFormed .items name
  | .setCategory name data => data.WellFormed .category name
  | .putData _ _ _ | .downloadURL _ _ | .addObject _ _ _ => True

/-- The gestures of the shop are the ones that its screens offer. -/
def MarketEvent.Offered : MarketEvent → Prop
  | .shop event => event.Listed Gesture.offered
  | _ => True

instance : ∀ event : MarketEvent, Decidable event.Offered
  | .shop _ => inferInstanceAs (Decidable (Event.Listed _ _))
  | .openAddItem _ _ | .editFields _ _ _ _ | .cameraButtonWasTapped _ | .didSelectImages _ _
  | .doneButtonWasTapped _ _ _ | .saveCategoryToFireStore _ _ | .serve _ _ | .callback _ _ =>
      inferInstanceAs (Decidable True)

/-- The rest of the market leaves the requests, the screens, the users, and the baskets of the shop. -/
structure World.Beside (world next : World) : Prop where
  flights : next.flights = world.flights
  screen : ∀ number, (next.devices number).screen = (world.devices number).screen
  defaults : ∀ number, (next.devices number).defaults = (world.devices number).defaults
  users : ∀ name, next.store.data .user name = world.store.data .user name
  baskets : ∀ name, next.store.data .basket name = world.store.data .basket name

namespace Market

/-- Nothing is stored, cached, shown, or on its way. -/
structure Empty (market : Market) : Prop where
  store : ∀ collection name, market.shop.store.data collection name = none
  defaults : ∀ number, (market.shop.devices number).defaults = none
  basket : ∀ number, (market.shop.devices number).screen.basket = none
  shop : market.shop.flights = []
  flights : market.flights = []

/-- A step of the shop creates, decodes, or updates baskets. -/
def trace (market : Market) : MarketEvent → List BasketTrace
  | .shop event => market.shop.trace event
  | _ => []

/-- The documents are well formed, a basket belongs to the account that was signed in at its creation, and an update
through a copy addresses the stored document that the copy was loaded from. -/
structure WellFormed (past : List BasketTrace) (market : Market) : Prop where
  documents : ∀ collection, market.shop.store.KeepsForm collection
  owners : ∀ name data, market.shop.store.data .basket name = some data → ∃ uid,
    (Basket.ofDictionary data).ownerId = some uid ∧ .created name uid ∈ past ∧
      ∀ other, .created name other ∈ past → other = uid
  updates : ∀ copy name, .updated copy name ∈ past → copy.LoadedFrom past name ∧
    (∀ other, copy.LoadedFrom past other → other = name) ∧ (market.shop.store.data .basket name).isSome

/-- The items, the categories, and the requests that write them are well formed. -/
structure Saves (market : Market) : Prop where
  items : market.shop.store.KeepsForm .items
  categories : market.shop.store.KeepsForm .category
  flights : ∀ flight ∈ market.flights, flight.request.WellFormed

end Market

/-- The record of an account is of this kind. -/
def accountRecords : RecordKind where
  holds := Dictionary.OfAccount
  fits := Dictionary.Fits
  created := fun userId email => Dictionary.ofAccount_userDictionaryFrom (MUser.new userId email "" "")
  patch := Dictionary.OfAccount.patch
  profile := Dictionary.fits_profileValues
  onboarding := Dictionary.fits_onboardingValues
  purchased := Dictionary.fits_purchasedValues

namespace Market

/-- The shop is traced, its user records are the ones of their accounts, and a new basket gets an unused name. -/
structure Traced (past : List BasketTrace) (market : Market) : Prop where
  shop : market.shop.Traced past
  users : market.shop.Recorded accountRecords (fun _ => True) (fun _ => True)
  saves : market.Saves
  used : ∀ name uid, .created name uid ∈ past → name ∈ market.used
  unique : ∀ name uid other, .created name uid ∈ past → .created name other ∈ past → other = uid

end Market

/-- A written item decodes under the name that it is written to. -/
theorem wellFormed_itemDictionaryFrom {item : Item} {name : String} (named : item.id = some name) :
    Dictionary.WellFormed .items name (itemDictionaryFrom item) := by
  unfold Dictionary.WellFormed
  rw [Item.ofDictionary_itemDictionaryFrom]
  refine ⟨?_, rfl, rfl⟩
  have encoded : (itemDictionaryFrom item).read Value.asString .objectId = some (item.id.getD "") := rfl
  rw [encoded, named]
  rfl

theorem wellFormed_categoryDictionaryFrom (category : Category) :
    Dictionary.WellFormed .category category.id (categoryDictionaryFrom category) :=
  ⟨rfl, _, Category.ofDictionary_categoryDictionaryFrom category⟩

theorem Dictionary.OfAccount.wellFormed {userId : String} {record : Dictionary} (ofAccount : record.OfAccount userId) :
    record.WellFormed .user userId := by
  obtain ⟨user, decoded, _⟩ := ofAccount.decodes
  exact ⟨ofAccount.objectId, user, decoded⟩

theorem owned_iff_ownerId {uid : String} {data : Dictionary} :
    Owned uid data ↔ (Basket.ofDictionary data).ownerId = some uid := by
  unfold Owned Basket.ofDictionary Dictionary.read
  cases data .ownerId with
  | none => simp
  | some value => cases value <;> simp [Value.asString]

theorem Dictionary.CreatedBasket.wellFormed {past : List BasketTrace} {name : String} {data : Dictionary}
    (created : data.CreatedBasket past name) : data.WellFormed .basket name := by
  obtain ⟨uid, _, owned⟩ := created.owner
  refine ⟨created.objectId, ?_, ?_, created.itemIds⟩
  · exact Option.isSome_of_eq_some created.objectId
  · exact Option.isSome_of_eq_some (owned_iff_ownerId.mp owned)

/-- The items of a publication are written under their own identifiers. -/
theorem Publication.finish_wellFormed (number : Nat) (uuid : String) (screen : AddItemScreen)
    (publication : Publication) : ∀ request ∈ (publication.finish number uuid screen).issued, request.WellFormed := by
  rw [finish_eq]
  intro request member
  rcases List.mem_cons.mp member with rfl | member
  · exact wellFormed_itemDictionaryFrom rfl
  · obtain rfl := List.mem_singleton.mp member
    trivial

theorem Publication.imageSaved_wellFormed (number : Nat) (uuid : String) (imageLink : Option String)
    (screen : AddItemScreen) (publication : Publication) :
    ∀ request ∈ (publication.imageSaved number uuid imageLink screen).issued, request.WellFormed := by
  unfold imageSaved
  cases imageLink with
  | none => exact fun request member => absurd member List.not_mem_nil
  | some imageLink =>
      dsimp only
      split
      · exact finish_wellFormed _ _ _ _
      · exact fun request member => absurd member List.not_mem_nil

theorem AddItemScreen.saveToFireStore_wellFormed (double : String → Option Double) (connected : Bool)
    (uuids : String × String) (own number : Nat) (screen : AddItemScreen) :
    ∀ request ∈ (screen.saveToFireStore double connected uuids own number).issued, request.WellFormed := by
  obtain ⟨_, _, _, ⟨_, issued⟩ | ⟨_, _, issued⟩ | ⟨named, _, issued⟩⟩ :=
    saveToFireStore_cases double connected uuids own number screen
  · rw [issued]
    exact fun request member => absurd member List.not_mem_nil
  · rw [issued]
    intro request member
    obtain ⟨suffix, imageData, rfl⟩ := (uploadImages_stores number uuids.1 0 screen.itemImages).2 request member
    trivial
  · rw [issued]
    intro request member
    rcases List.mem_cons.mp member with rfl | member
    · exact wellFormed_itemDictionaryFrom named
    · obtain rfl := List.mem_singleton.mp member
      trivial

namespace World.Beside

theorem refl (world : World) : world.Beside world :=
  ⟨rfl, fun _ => rfl, fun _ => rfl, fun _ => rfl, fun _ => rfl⟩

/-- A trap changes nothing but the flag of its device. -/
theorem stop (world : World) (number : Nat) : world.Beside (world.stop number) := by
  have same {A : Type} (view : Device → A) (blind : ∀ device, view { device with trapped := true } = view device)
      (other : Nat) : view ((world.stop number).devices other) = view (world.devices other) := by
    by_cases here : other = number
    · subst here
      simp only [World.stop, Function.update_self]
      exact blind _
    · simp only [World.stop, Function.update_of_ne here]
  exact ⟨rfl, same Device.screen fun _ => rfl, same Device.defaults fun _ => rfl, fun _ => rfl, fun _ => rfl⟩

/-- A written item or category leaves the users and the baskets. -/
theorem setData (world : World) {collection : FCollectionReference} (name : String) (data : Dictionary)
    (user : .user ≠ collection) (basket : .basket ≠ collection) :
    world.Beside { world with store := world.store.setData collection name data } :=
  ⟨rfl, fun _ => rfl, fun _ => rfl, fun _ => Store.data_setData_other _ data (.inl user),
    fun _ => Store.data_setData_other _ data (.inl basket)⟩

variable {world next : World}

/-- The user records stay when the rest of the market takes a step. -/
theorem recorded (beside : world.Beside next) {kind : RecordKind} {acting : Nat → Prop} {owned : String → Prop}
    (recorded : world.Recorded kind acting owned) : next.Recorded kind acting owned := by
  refine ⟨fun userId record found => ?_, fun number acts record cached => ?_, ?_⟩
  · exact recorded.stored userId record ((beside.users userId).symm.trans found)
  · exact recorded.cached number acts record ((beside.defaults number).symm.trans cached)
  · rw [beside.flights]
    exact recorded.flights

theorem traced {past : List BasketTrace} (beside : world.Beside next) (traced : world.Traced past) :
    next.Traced past := traced.congr beside.baskets beside.screen beside.flights

end World.Beside

theorem Store.KeepsForm.setData {store : Store} {collection written : FCollectionReference}
    (keeps : store.KeepsForm collection) {name : String} {data : Dictionary}
    (wellFormed : data.WellFormed written name) : (store.setData written name data).KeepsForm collection := by
  intro other found stored
  rw [Store.data_setData] at stored
  split at stored
  · rename_i same
    obtain rfl := Option.some.inj stored
    rwa [same.1, same.2]
  · exact keeps other found stored

namespace Market

variable {market next : Market}

theorem perform_beside (market : Market) (number : Nat) (outcome : PublishOutcome) :
    market.shop.Beside (market.perform number outcome).shop := by
  unfold perform
  dsimp only
  split
  · exact .stop market.shop outcome.screen.device
  · exact .refl market.shop

namespace Saves

theorem of_shop (saves : market.Saves) (items : next.shop.store.data .items = market.shop.store.data .items)
    (categories : next.shop.store.data .category = market.shop.store.data .category)
    (flights : next.flights = market.flights) : next.Saves := by
  refine ⟨?_, ?_, flights ▸ saves.flights⟩
  · unfold Store.KeepsForm
    rw [items]
    exact saves.items
  · unfold Store.KeepsForm
    rw [categories]
    exact saves.categories

/-- A handler issues well-formed requests. -/
theorem perform (saves : market.Saves) {number : Nat} {outcome : PublishOutcome}
    (issued : ∀ request ∈ outcome.issued, request.WellFormed) : (market.perform number outcome).Saves := by
  have store : (market.perform number outcome).shop.store = market.shop.store := by
    unfold Market.perform
    dsimp only
    split <;> rfl
  refine ⟨store ▸ saves.items, store ▸ saves.categories, Pool.forall_append saves.flights fun flight member => ?_⟩
  obtain ⟨request, inIssued, rfl⟩ := List.mem_map.mp member
  exact issued request inIssued

theorem imageSaved (saves : market.Saves) (uuid : String) (number : Nat) (imageLink : Option String) :
    (market.imageSaved uuid number imageLink).Saves ∧
      market.shop.Beside (market.imageSaved uuid number imageLink).shop ∧
      (market.imageSaved uuid number imageLink).used = market.used := by
  rcases imageSaved_cases uuid number imageLink market with same | ⟨publication, screen, _, _, same⟩
  · rw [same]
    exact ⟨saves, .refl market.shop, rfl⟩
  · rw [same]
    exact ⟨saves.perform (publication.imageSaved_wellFormed _ _ _ _), market.perform_beside _ _, rfl⟩

theorem complete (saves : market.Saves) (uuid : String) (request : PublishRequest) (reply : PublishReply) :
    (market.complete uuid request reply).Saves ∧ market.shop.Beside (market.complete uuid request reply).shop ∧
      (market.complete uuid request reply).used = market.used := by
  cases request with
  | putData number fileName imageData =>
      cases reply with
      | done =>
          refine ⟨⟨saves.items, saves.categories, Pool.forall_append saves.flights fun flight member => ?_⟩,
            .refl _, rfl⟩
          rw [List.mem_singleton.mp member]
          trivial
      | failed => exact saves.imageSaved uuid number none
      | url absoluteString => exact saves.imageSaved uuid number none
  | downloadURL number fileName =>
      cases reply with
      | url absoluteString => exact saves.imageSaved uuid number (some absoluteString)
      | done => exact saves.imageSaved uuid number none
      | failed => exact saves.imageSaved uuid number none
  | _ => exact ⟨saves, .refl _, rfl⟩

/-- The rest of the market writes well-formed documents beside the users and the baskets. -/
theorem step (saves : market.Saves) {double : String → Option Double} {link : StoragePath → String}
    {event : MarketEvent} (other : ∀ made, event ≠ .shop made) (taken : market.step double link event = some next) :
    next.Saves ∧ market.shop.Beside next.shop ∧ market.used ⊆ next.used := by
  have edited {own : Nat} {change : AddItemScreen → AddItemScreen} (taken : market.edit own change = some next) :
      next.Saves ∧ market.shop.Beside next.shop ∧ market.used ⊆ next.used := by
    obtain ⟨screens, rfl⟩ := edit_screens taken
    exact ⟨saves.of_shop rfl rfl rfl, .refl _, List.Subset.refl _⟩
  cases event with
  | shop made => exact absurd rfl (other made)
  | openAddItem device category =>
      obtain rfl := Option.some.inj taken
      exact ⟨saves.of_shop rfl rfl rfl, .refl _, List.Subset.refl _⟩
  | editFields own title price description => exact edited taken
  | cameraButtonWasTapped own => exact edited taken
  | didSelectImages own resolvedImages => exact edited taken
  | doneButtonWasTapped own connected uuids =>
      obtain ⟨screen, _, _, ⟨_, rfl⟩ | ⟨_, _, _, _, rfl⟩⟩ := step_doneButtonWasTapped taken
      · exact ⟨saves, .refl _, List.Subset.refl _⟩
      · have published : Saves { market with
            publications := market.publications ++
              [(screen.saveToFireStore double connected uuids own market.publications.length).publication]
            used := uuids.1 :: uuids.2 :: market.used } := saves.of_shop rfl rfl rfl
        refine ⟨published.perform (screen.saveToFireStore_wellFormed double connected uuids own _),
          market.perform_beside market.publications.length _, ?_⟩
        exact fun uuid member => List.mem_cons_of_mem _ (List.mem_cons_of_mem _ member)
  | saveCategoryToFireStore category uuid =>
      obtain ⟨_, rfl⟩ := step_saveCategoryToFireStore taken
      refine ⟨⟨saves.items, saves.categories, Pool.forall_append saves.flights fun flight member => ?_⟩, .refl _,
        List.subset_cons_self _ _⟩
      rw [List.mem_singleton.mp member]
      exact wellFormed_categoryDictionaryFrom { category with id := uuid }
  | serve index succeeds =>
      obtain ⟨request, found, ⟨_, rfl⟩ | ⟨_, rfl⟩⟩ := step_serve taken
      · have wellFormed := saves.flights _ (List.mem_of_getElem? found)
        have flights : ∀ flight ∈ market.flights.set index ⟨request, some (market.apply link request).2⟩,
            flight.request.WellFormed := Pool.forall_set saves.flights wellFormed
        cases request with
        | setItem number name data =>
            exact ⟨⟨saves.items.setData wellFormed, saves.categories.setData wellFormed, flights⟩,
              .setData _ _ _ (by decide) (by decide), List.Subset.refl _⟩
        | setCategory name data =>
            exact ⟨⟨saves.items.setData wellFormed, saves.categories.setData wellFormed, flights⟩,
              .setData _ _ _ (by decide) (by decide), List.Subset.refl _⟩
        | putData number fileName imageData =>
            exact ⟨⟨saves.items, saves.categories, flights⟩, .refl _, List.Subset.refl _⟩
        | downloadURL number fileName =>
            exact ⟨⟨saves.items, saves.categories, flights⟩, .refl _, List.Subset.refl _⟩
        | addObject number object withID =>
            exact ⟨⟨saves.items, saves.categories, flights⟩, .refl _, List.Subset.refl _⟩
      · have wellFormed := saves.flights _ (List.mem_of_getElem? found)
        exact ⟨⟨saves.items, saves.categories, Pool.forall_set saves.flights wellFormed⟩, .refl _,
          List.Subset.refl _⟩
  | callback index uuid =>
      obtain ⟨request, reply, found, _, ⟨_, rfl⟩ | ⟨_, rfl⟩⟩ := step_callback taken
      · exact ⟨⟨saves.items, saves.categories, Pool.forall_eraseIdx saves.flights⟩, .refl _, List.subset_cons_self _ _⟩
      · have erased : Saves { market with flights := market.flights.eraseIdx index, used := uuid :: market.used } :=
          ⟨saves.items, saves.categories, Pool.forall_eraseIdx saves.flights⟩
        obtain ⟨completed, beside, used⟩ := erased.complete uuid request reply
        exact ⟨completed, beside, used ▸ List.subset_cons_self _ _⟩

end Saves

/-- The creation of a step uses the new identifier for the account that is signed in. -/
theorem created_of_mem_trace {world : World} {event : Event} {name uid : String}
    (member : .created name uid ∈ world.trace event) : event.uuid = some name ∧ world.creator event = some uid := by
  cases event with
  | gesture number made =>
      obtain ⟨copy, _, updated⟩ := List.mem_flatMap.mp member
      obtain ⟨_, _, impossible⟩ := List.mem_map.mp updated
      cases impossible
  | serve index answer =>
      cases answer with
      | success =>
          obtain ⟨flight, _, loaded⟩ := List.mem_flatMap.mp member
          unfold Request.loads at loaded
          split at loaded
          · obtain ⟨_, _, impossible⟩ := List.mem_map.mp loaded
            cases impossible
          · cases loaded
      | failure => cases member
      | account uid isEmailVerified => cases member
  | callback index uuid =>
      rcases List.mem_append.mp member with creation | update
      · obtain ⟨found, creator, same⟩ := List.mem_map.mp creation
        cases same
        exact ⟨rfl, Option.mem_toList.mp creator⟩
      · obtain ⟨flight, _, replied⟩ := List.mem_flatMap.mp update
        obtain ⟨reply, _, inUpdates⟩ := List.mem_flatMap.mp replied
        unfold Request.updates at inUpdates
        split at inUpdates
        · cases inUpdates
        · obtain ⟨copy, _, updated⟩ := List.mem_flatMap.mp inUpdates
          obtain ⟨_, _, impossible⟩ := List.mem_map.mp updated
          cases impossible

variable {past : List BasketTrace}

/-- A step of the market keeps it traced, and every basket stays with its owner. -/
theorem Traced.step (traced : market.Traced past) {double : String → Option Double} {link : StoragePath → String}
    {event : MarketEvent} (offered : event.Offered) (taken : market.step double link event = some next) :
    next.Traced (past ++ market.trace event) ∧
      ∀ uid name, market.shop.store.HasBasket uid name → next.shop.store.HasBasket uid name := by
  by_cases ofShop : ∃ made, event = .shop made
  · obtain ⟨made, rfl⟩ := ofShop
    obtain ⟨unused, shop, stepped, rfl⟩ := step_shop taken
    obtain ⟨tracedShop, kept⟩ := traced.shop.step stepped
    have acted : made.ActedBy fun _ => True := by
      cases made with
      | gesture number made => exact ⟨trivial, offered⟩
      | serve index answer => trivial
      | callback index uuid => trivial
    have recorded := traced.users.step acted (fun _ _ => trivial) (fun _ _ => trivial) stepped
    have saves : Saves { market with shop := shop, used := made.uuid.toList ++ market.used } :=
      traced.saves.of_shop (World.step_items stepped) (World.step_other stepped (by decide) (by decide)) rfl
    refine ⟨⟨tracedShop, recorded, saves, fun name uid member => ?_, fun name uid other first second => ?_⟩, kept⟩
    · rcases List.mem_append.mp member with old | new
      · exact List.mem_append_right _ (traced.used name uid old)
      · exact List.mem_append_left _ (Option.mem_toList.mpr (created_of_mem_trace new).1)
    · -- A name that is created now was not used before.
      have fresh {uid earlier : String} (new : .created name uid ∈ market.shop.trace made)
          (old : .created name earlier ∈ past) : False :=
        unused name (created_of_mem_trace new).1 (traced.used name earlier old)
      rcases List.mem_append.mp first with old | new <;> rcases List.mem_append.mp second with late | now
      · exact traced.unique name uid other old late
      · exact (fresh now old).elim
      · exact (fresh new late).elim
      · exact Option.some.inj ((created_of_mem_trace now).2.symm.trans (created_of_mem_trace new).2)
  · have beyond (made : Event) : event ≠ .shop made := fun same => ofShop ⟨made, same⟩
    obtain ⟨saves, beside, used⟩ := traced.saves.step beyond taken
    have silent : market.trace event = [] := by
      cases event with
      | shop made => exact absurd rfl (beyond made)
      | _ => rfl
    rw [silent, List.append_nil]
    refine ⟨⟨beside.traced traced.shop, beside.recorded traced.users, saves, fun name uid member => ?_, traced.unique⟩,
      fun uid name has => ?_⟩
    · exact used (traced.used name uid member)
    · obtain ⟨data, stored, owned⟩ := has
      exact ⟨data, (beside.baskets name).trans stored, owned⟩

/-- An empty market is traced. -/
theorem Empty.traced (empty : market.Empty) : market.Traced [] := by
  have nothing {collection : FCollectionReference} {name : String} {data : Dictionary}
      (stored : market.shop.store.data collection name = some data) : False := by
    rw [empty.store] at stored
    cases stored
  refine ⟨⟨fun name data stored => (nothing stored).elim, fun number copy has => ?_, ?_,
    fun name original member => absurd member List.not_mem_nil,
    fun copy name member => absurd member List.not_mem_nil, World.Quiet.namesFree empty.shop⟩, ⟨?_, ?_, ?_⟩,
    ⟨fun name data stored => (nothing stored).elim, fun name data stored => (nothing stored).elim, ?_⟩,
    fun name uid member => absurd member List.not_mem_nil,
    fun name uid other first => absurd first List.not_mem_nil⟩
  · rw [empty.basket] at has
    cases has
  · rw [empty.shop]
    exact fun flight member => absurd member List.not_mem_nil
  · exact fun userId record found => (nothing found).elim
  · intro number _ record cached
    rw [empty.defaults] at cached
    cases cached
  · rw [empty.shop]
    exact fun flight member => absurd member List.not_mem_nil
  · rw [empty.flights]
    exact fun flight member => absurd member List.not_mem_nil

theorem Traced.wellFormed (traced : market.Traced past) : market.WellFormed past := by
  refine ⟨fun collection => ?_, fun name data stored => ?_, fun copy name member => ?_⟩
  · cases collection with
    | user => exact fun userId record found => (traced.users.stored userId record found).wellFormed
    | category => exact traced.saves.categories
    | items => exact traced.saves.items
    | basket => exact fun name data stored => (traced.shop.baskets name data stored).wellFormed
  · obtain ⟨uid, created, owned⟩ := (traced.shop.baskets name data stored).owner
    exact ⟨uid, owned_iff_ownerId.mp owned, created, fun other again => traced.unique name uid other created again⟩
  · obtain ⟨hasName, loaded⟩ := traced.shop.updates copy name member
    obtain ⟨original, fromName, same⟩ := loaded
    obtain ⟨_, uid, data, stored, _⟩ := traced.shop.loads name original fromName
    exact ⟨⟨original, fromName, same⟩, fun other again => traced.shop.copy_of_loaded again hasName,
      Option.isSome_of_eq_some stored⟩

end Market

/-- From an empty market, the store of every run is well formed, and every basket keeps the owner that it was created
for. -/
theorem store_stays_well_formed (double : String → Option Double) (link : StoragePath → String)
    {market final : Market} {events : List MarketEvent} (empty : market.Empty)
    (offered : ∀ event ∈ events, event.Offered) (ran : market.run double link events = some final) :
    final.WellFormed (Transition.log (Market.step double link) Market.trace market events) ∧
      ∀ before after middle, events = before ++ after → market.run double link before = some middle →
        middle.shop.store.KeepsOwners final.shop.store := by
  have traced {events : List MarketEvent} {reached : Market} (offered : ∀ event ∈ events, event.Offered)
      (ran : market.run double link events = some reached) :
      reached.Traced (Transition.log (Market.step double link) Market.trace market events) :=
    Transition.run_log (fun state past => Market.Traced past state)
      (fun _ _ _ _ traced offered taken => (traced.step offered taken).1) empty.traced (.of_forall offered) ran
  refine ⟨(traced offered ran).wellFormed, ?_⟩
  rintro before after middle rfl ranBefore
  intro name data stored
  have tracedMiddle := traced (fun event member => offered event (List.mem_append_left _ member)) ranBefore
  obtain ⟨uid, _, owned⟩ := (tracedMiddle.shop.baskets name data stored).owner
  have kept : (∃ past, final.Traced past) ∧ final.shop.store.HasBasket uid name := by
    refine Transition.run_invariant
      (fun state => (∃ past, Market.Traced past state) ∧ state.shop.store.HasBasket uid name) ?_
      ⟨⟨_, tracedMiddle⟩, data, stored, owned⟩
      (.of_forall fun event member => offered event (List.mem_append_right _ member))
      ((Transition.run_append ranBefore after).symm.trans ran)
    rintro state event next ⟨⟨past, traced⟩, has⟩ offered taken
    obtain ⟨tracedNext, keeps⟩ := traced.step offered taken
    exact ⟨⟨_, tracedNext⟩, keeps uid name has⟩
  obtain ⟨_, later, storedLater, ownedLater⟩ := kept
  exact ⟨later, storedLater, (owned_iff_ownerId.mp ownedLater).trans (owned_iff_ownerId.mp owned).symm⟩

/-- A category is saved, and a new account puts the published item into its basket twice. -/
def firstPurchases : List MarketEvent :=
  plainPublication ++
    [.saveCategoryToFireStore (Category.new "Clothing" "menscloth") "C", .serve 2 true,
      .shop (.gesture 0 (.login "a@mail")), .shop (.serve 0 (.account "a" true)), .shop (.callback 0 "n1"),
      .shop (.serve 0 .success), .shop (.callback 0 "n2"), .shop (.serve 0 .success), .shop (.callback 0 "n3"),
      .shop (.gesture 0 (.addToBasket { id := "B" })), .shop (.serve 0 .success), .shop (.callback 0 "D"),
      .shop (.serve 0 .success), .shop (.callback 0 "n4"),
      .shop (.gesture 0 (.addToBasket { id := "B" })), .shop (.serve 0 .success), .shop (.callback 0 "n5"),
      .shop (.serve 0 .success)]

/-- The second addition updates the basket that the first one created. -/
theorem store_stays_well_formed_first :
    ∃ final, sellerMarket.run sellerDouble sellerLink firstPurchases = some final ∧
      final.shop.store.itemIds "D" = ["B", "B"] ∧
      final.WellFormed
        (Transition.log (Market.step sellerDouble sellerLink) Market.trace sellerMarket firstPurchases) := by
  have empty : sellerMarket.Empty := ⟨fun _ _ => rfl, fun _ => rfl, fun _ => rfl, rfl, rfl⟩
  have offered : ∀ event ∈ firstPurchases, event.Offered := by decide
  exact ⟨_, rfl, rfl, (store_stays_well_formed sellerDouble sellerLink empty offered rfl).1⟩

end ShoppingApp
