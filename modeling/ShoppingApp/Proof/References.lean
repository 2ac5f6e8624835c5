import ShoppingApp.Proof.AppItems
import ShoppingApp.Proof.KnownIds
import ShoppingApp.Proof.ProfileTabs

namespace ShoppingApp

/-- The item is the one that the store keeps under its identifier. -/
def Store.Keeps (store : Store) (item : Item) : Prop :=
  ∃ itemId data, store.data .items itemId = some data ∧ Item.ofDictionary data = item ∧ item.id = some itemId

def Store.HasItem (store : Store) (itemId : String) : Prop := ∃ data, store.data .items itemId = some data

/-- A purchase history reads a known item. -/
def BrowseFlight.Reads (known : String → Prop) (flight : BrowseFlight) : Prop :=
  match flight.request with
  | .getItem _ _ name => known name
  | _ => True

/-- Every identifier in a basket, in a purchase history, in a cached record, on a screen, or in a request for one of
them is known. -/
structure App.Refers (known : String → Prop) (app : App) : Prop where
  shop : app.market.shop.Refers known
  histories : app.market.shop.Ruled (historyRule known)
  reads : ∀ flight ∈ app.flights, flight.Reads known

/-- The published documents are written once, and the app refers to them alone. -/
structure App.Sound (app : App) : Prop where
  shelved : ∃ store, app.market.Shelved store
  saves : app.market.Saves
  lists : app.Lists app.market.shop.store.Keeps
  refers : app.Refers app.market.shop.store.HasItem

variable {known wider : String → Prop} {kind : Item → Prop}

theorem Store.Keeps.hasItem {store : Store} {item : Item} (keeps : store.Keeps item) :
    ∀ itemId ∈ item.id, store.HasItem itemId := by
  obtain ⟨name, data, stored, _, named⟩ := keeps
  intro itemId hasId
  obtain rfl := Option.some.inj (named.symm.trans hasId)
  exact ⟨data, stored⟩

/-- A well-formed item document is kept under its identifier. -/
theorem Market.Saves.keeps {market : Market} (saves : market.Saves) {name : String} {data : Dictionary}
    (stored : market.shop.store.data .items name = some data) : market.shop.store.Keeps (Item.ofDictionary data) :=
  ⟨name, data, stored, rfl, (saves.items name data stored).1⟩

theorem World.Aside.refers {world next : World} (aside : world.Aside next) (refers : world.Refers known) :
    next.Refers known := by
  refine ⟨fun name data stored => ?_, fun number => ?_, aside.flights ▸ refers.flights⟩
  · exact refers.baskets name data ((aside.baskets name).symm.trans stored)
  · obtain ⟨trapped, same⟩ := aside.devices number
    rw [same]
    exact ⟨(refers.devices number).copy, (refers.devices number).paid⟩

theorem World.Aside.ruled {world next : World} {rule : RecordRule} (aside : world.Aside next)
    (ruled : world.Ruled rule) : next.Ruled rule := by
  refine ⟨fun userId record stored => ?_, fun number record cached => ?_, aside.flights ▸ ruled.flights⟩
  · exact ruled.stored userId record ((aside.users userId).symm.trans stored)
  · obtain ⟨trapped, same⟩ := aside.devices number
    rw [same] at cached
    exact ruled.cached number record cached

/-- The market stays well formed in every step. -/
theorem Market.Saves.after {market next : Market} (saves : market.Saves) {double : String → Option Double}
    {link : StoragePath → String} {event : MarketEvent} (taken : market.step double link event = some next) :
    next.Saves := by
  by_cases ofShop : ∃ made, event = .shop made
  · obtain ⟨made, rfl⟩ := ofShop
    obtain ⟨_, shop, stepped, rfl⟩ := step_shop taken
    exact saves.of_shop (World.step_items stepped) (World.step_other stepped (by decide) (by decide)) rfl
  · exact (saves.step (fun made same => ofShop ⟨made, same⟩) taken).1

theorem Market.shelf_stop (market : Market) (number : Nat) :
    Market.shelf { market with shop := market.shop.stop number } = market.shelf := shelf_congr rfl rfl rfl

/-- A stopped device writes nothing. -/
theorem Market.Shelved.stop {market : Market} {store : WriteOnce (Shelf × String) Dictionary}
    (shelved : market.Shelved store) (number : Nat) :
    Market.Shelved store { market with shop := market.shop.stop number } :=
  ⟨shelved.stored.trans (market.shelf_stop number).symm, shelved.waiting, shelved.used, shelved.agrees⟩

namespace App

variable {app next : App} {double : String → Option Double} {link : StoragePath → String} {event : AppEvent}

/-- A step keeps what the market has published. -/
theorem Steps.published (steps : app.Steps double link event next) (shelved : ∃ store, app.market.Shelved store) :
    (∃ store, next.market.Shelved store) ∧
      ∀ key data, app.market.shelf key = some data → next.market.shelf key = some data := by
  obtain ⟨store, held⟩ := shelved
  have kept : ∃ later, next.market.Shelved later ∧
      ∀ key data, app.market.shelf key = some data → next.market.shelf key = some data := by
    refine steps.market_of (fun market => ∃ later, Market.Shelved later market ∧
      ∀ key data, app.market.shelf key = some data → market.shelf key = some data) ?_
      ⟨store, held, fun _ _ found => found⟩ ?_
    · rintro market number ⟨later, shelved, keeps⟩
      refine ⟨later, shelved.stop number, fun key data found => ?_⟩
      exact (congrFun (market.shelf_stop number) key).trans (keeps key data found)
    · intro given after _ taken
      obtain ⟨later, moves, shelvedAfter⟩ := held.step taken
      exact ⟨later, shelvedAfter, fun key data found => shelvedAfter.stored ▸ moves.keeps (held.stored ▸ found)⟩
  obtain ⟨later, shelvedNext, keeps⟩ := kept
  exact ⟨⟨later, shelvedNext⟩, keeps⟩

theorem Steps.saves (steps : app.Steps double link event next) (saves : app.market.Saves) : next.market.Saves :=
  steps.market_of Market.Saves (fun _ _ saves => saves.of_shop rfl rfl rfl) saves fun _ _ _ taken => saves.after taken

/-- The history screen reads the items of the cached history. -/
theorem Refers.loadHistory_reads (refers : app.Refers known) (number own : Nat) :
    ∀ flight ∈ (app.loadHistory number own).flights, flight.Reads known := by
  unfold loadHistory
  split
  · rename_i user history current _
    obtain ⟨_, record, _, cached, decoded⟩ := Device.currentUser_eq_some current
    refine Pool.forall_append refers.reads fun flight member => ?_
    obtain ⟨request, issued, rfl⟩ := List.mem_map.mp member
    obtain ⟨itemId, inside, rfl⟩ := PurchasedHistory.mem_downloadItems issued
    rw [MUser.ofDictionary_purchasedItemIds decoded] at inside
    exact refers.histories.cached number record cached itemId inside
  · exact refers.reads
  · exact refers.reads

/-- A new request of a browsing screen names no item, or it names one of the cached history. -/
theorem Refers.reads_step (refers : app.Refers known) (steps : app.Steps double link event next) :
    ∀ flight ∈ next.flights, flight.Reads known := by
  have same := steps.sameLists
  cases steps with
  | categoriesDidAppear shown active =>
      refine Pool.forall_append refers.reads fun flight member => ?_
      rw [List.mem_singleton.mp member]
      trivial
  | itemsDidAppear shown active =>
      refine Pool.forall_append refers.reads fun flight member => ?_
      obtain ⟨category, _, rfl⟩ := List.mem_map.mp member
      trivial
  | historyDidAppear shown page => exact refers.loadHistory_reads _ _
  | serve found =>
      have asked := refers.reads _ (List.mem_of_getElem? found)
      exact Pool.forall_set refers.reads asked
  | @callback index request reply found =>
      have kept : ∀ flight ∈ app.flights.eraseIdx index, flight.Reads known := Pool.forall_eraseIdx refers.reads
      split
      · exact kept
      · obtain ⟨_, _, _, _, _, same⟩ :=
          complete_screens { app with flights := app.flights.eraseIdx index } request reply
        rw [same]
        exact kept
  | openCategories => exact refers.reads
  | didSelectCategory shown selected => exact refers.reads
  | purchaseHistoryTapped shown page enabled => exact refers.reads
  | _ => exact (same rfl).flights ▸ refers.reads

/-- The screens keep referring to known identifiers. -/
theorem Refers.step (refers : app.Refers known) (carries : app.market.shop.Carries kind)
    (ids : ∀ item, kind item → ∀ itemId ∈ item.id, known itemId) (steps : app.Steps double link event next) :
    next.Refers known := by
  have shop : next.market.shop.Refers known ∧ next.market.shop.Ruled (historyRule known) := by
    refine steps.shop_of (fun shop => shop.Refers known ∧ shop.Ruled (historyRule known)) ?_
      ⟨refers.shop, refers.histories⟩ ?_
    · exact fun world after aside held => ⟨aside.refers held.1, aside.ruled held.2⟩
    · intro made shop hands stepped
      have offered := hands.offered
      refine ⟨refers.shop.step carries ids stepped, refers.histories.step ?_ stepped⟩
      rintro number gesture rfl
      exact Gesture.fits_historyRule (fun _ _ => (refers.shop.devices number).paid) (refers.histories.cached number)
        offered
  exact ⟨shop.1, shop.2, refers.reads_step steps⟩

theorem Refers.mono (refers : app.Refers known) (grows : ∀ itemId, known itemId → wider itemId) : app.Refers wider := by
  refine ⟨refers.shop.mono grows, refers.histories.mono ?_ ?_, fun flight member => ?_⟩
  · exact fun record holds itemId member => grows itemId (holds itemId member)
  · exact fun values fits itemId member => grows itemId (fits itemId member)
  · have reads := refers.reads flight member
    obtain ⟨request, reply⟩ := flight
    cases request with
    | getItem history download name => exact grows name reads
    | _ => trivial

/-- A step of a sound app is sound. -/
theorem Sound.step (sound : app.Sound) (taken : app.step double link event = some next) : next.Sound := by
  have steps := steps_of_step taken
  obtain ⟨shelved, keeps⟩ := steps.published sound.shelved
  have saves := steps.saves sound.saves
  have hasItem (itemId : String) : app.market.shop.store.HasItem itemId → next.market.shop.store.HasItem itemId := by
    rintro ⟨data, stored⟩
    exact ⟨data, keeps (.items, itemId) data stored⟩
  have keepsItem (item : Item) : app.market.shop.store.Keeps item → next.market.shop.store.Keeps item := by
    rintro ⟨itemId, data, stored, decoded, named⟩
    exact ⟨itemId, data, keeps (.items, itemId) data stored, decoded, named⟩
  have lists := sound.lists.mono keepsItem
  refine ⟨shelved, saves, lists.step steps fun name data => saves.keeps, ?_⟩
  exact (sound.refers.mono hasItem).step lists.shop.toCarries (fun item kept => kept.hasItem) steps

/-- The empty app refers to nothing. -/
theorem Refers.start : App.start.Refers known := by
  refine ⟨⟨?_, ?_, ?_⟩, ?_, ?_⟩
  · exact fun name data stored => by cases stored
  · exact fun number => ⟨fun itemId nothing => absurd nothing List.not_mem_nil,
      fun itemId nothing => absurd nothing List.not_mem_nil⟩
  · exact fun flight member => absurd member List.not_mem_nil
  · exact World.Ruled.initial (fun _ => rfl) (fun _ => rfl) rfl
  · exact fun flight member => absurd member List.not_mem_nil

theorem Sound.start : App.start.Sound := by
  have empty : App.start.market.Empty := ⟨fun _ _ => rfl, fun _ => rfl, fun _ => rfl, rfl, rfl⟩
  exact ⟨⟨_, empty.shelved rfl⟩, empty.traced.saves, .start, .start⟩

theorem Sound.run {events : List AppEvent} (sound : app.Sound) (ran : app.run double link events = some next) :
    next.Sound :=
  Transition.run_invariant Sound (fun _ _ _ sound _ taken => sound.step taken) sound
    (.of_all (fun _ _ => trivial) app events) ran

end App

/-- A category and an item in it are saved, and a new account puts the item into its basket. -/
def firstVisit : List AppEvent :=
  [.market (.saveCategoryToFireStore (Category.new "Clothing" "menscloth") "C"), .market (.serve 0 true),
    .openCategories 0, .categoriesDidAppear 0, .serve 0 true, .callback 0, .didSelectCategory 0 0, .addItem 0,
    .market (.editFields 0 "Shirt" "1" "A shirt"), .market (.doneButtonWasTapped 0 true ("A", "B")),
    .market (.serve 1 true), .market (.serve 2 true), .itemsDidAppear 0, .serve 0 true, .callback 0,
    .didSelectItem 0 0, .market (.shop (.gesture 0 (.login "a@mail"))),
    .market (.shop (.serve 0 (.account "a" true))), .market (.shop (.callback 0 "n1")),
    .market (.shop (.serve 0 .success)), .market (.shop (.callback 0 "n2")), .market (.shop (.serve 0 .success)),
    .market (.shop (.callback 0 "n3")), .addToBasketTapped 0, .market (.shop (.serve 0 .success)),
    .market (.shop (.callback 0 "D")), .market (.shop (.serve 0 .success))]

/-- In every run, each identifier in a basket, in a purchase history, in a cached record, on a screen, or in a request
for one of them is the one of a stored item. -/
theorem references_are_stored (double : String → Option Double) (link : StoragePath → String) {final : App}
    {events : List AppEvent} (ran : App.start.run double link events = some final) :
    final.Refers final.market.shop.store.HasItem := (App.Sound.start.run ran).refers

/-- The identifier in the new basket is stored. -/
theorem references_are_stored_first :
    ∃ final, App.start.run sellerDouble sellerLink firstVisit = some final ∧
      final.market.shop.store.itemIds "D" = ["B"] ∧ final.market.shop.store.HasItem "B" := by
  have refers := references_are_stored sellerDouble sellerLink
    (rfl : App.start.run sellerDouble sellerLink firstVisit = some _)
  exact ⟨_, rfl, rfl, refers.shop.baskets "D" _ rfl "B" (List.mem_singleton.mpr rfl)⟩

end ShoppingApp
