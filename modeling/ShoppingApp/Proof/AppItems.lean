import ShoppingApp.Proof.AppSteps
import ShoppingApp.Proof.ListedItems

namespace ShoppingApp

variable {kind wider : Item → Prop}

/-- The results and the collected items of the search tab are of this kind. -/
structure SearchScreen.Lists (kind : Item → Prop) (screen : SearchScreen) : Prop where
  rows : ∀ item ∈ screen.searchResults, kind item
  collected : ∀ search download, screen.downloads search = some download → download.Lists kind

def SearchFlight.Lists (kind : Item → Prop) (flight : SearchFlight) : Prop :=
  ∀ read, flight.reply = some (.document read) → read.Reads kind

structure PurchasedHistory.Lists (kind : Item → Prop) (history : PurchasedHistory) : Prop where
  rows : ∀ item ∈ history.itemArray, kind item
  collected : ∀ download ∈ history.downloads, download.Lists kind

/-- The items that a browsing screen gets are of this kind. -/
def BrowseFlight.Lists (kind : Item → Prop) (flight : BrowseFlight) : Prop :=
  match flight.request with
  | .getCategories _ => True
  | .getItems _ _ => ∀ documents, flight.reply = some (.documents documents) →
      ∀ data ∈ documents, kind (Item.ofDictionary data)
  | .getItem _ _ _ => ∀ read, flight.reply = some (.document read) → read.Reads kind

/-- Every item on a screen or in a request of the app is of this kind. -/
structure App.Lists (kind : Item → Prop) (app : App) : Prop where
  shop : app.market.shop.Lists kind
  tables : ∀ table ∈ app.tables, ∀ item ∈ table.itemArray, kind item
  views : ∀ view ∈ app.views, kind view.item
  histories : ∀ history ∈ app.histories, history.Lists kind
  searches : ∀ number, (app.searches number).Lists kind
  searching : ∀ number, ∀ flight ∈ app.searching number, flight.Lists kind
  flights : ∀ flight ∈ app.flights, flight.Lists kind

/-- The rest of the market shows no item to the shop. -/
theorem World.Aside.carries {world next : World} (aside : world.Aside next) (carries : world.Carries kind) :
    next.Carries kind := by
  refine ⟨fun number => ?_, aside.flights ▸ carries.flights⟩
  obtain ⟨trapped, same⟩ := aside.devices number
  rw [same]
  exact (carries.devices number).congr (List.Subset.refl _) rfl

theorem World.Aside.lists {world next : World} (aside : world.Aside next) (lists : world.Lists kind)
    (stored : ∀ name data, next.store.data .items name = some data → kind (Item.ofDictionary data)) :
    next.Lists kind := ⟨aside.carries lists.toCarries, stored⟩

theorem Store.reads_readItem {store : Store}
    (stored : ∀ name data, store.data .items name = some data → kind (Item.ofDictionary data)) (name : String) :
    (store.readItem name).Reads kind := by
  intro data found
  unfold readItem at found
  split at found
  · cases found
  · rename_i document present
    exact DocumentRead.found.inj found ▸ stored name document present

namespace SearchScreen.Lists

variable {screen : SearchScreen}

theorem mono (lists : screen.Lists kind) (grows : ∀ item, kind item → wider item) : screen.Lists wider :=
  ⟨fun item row => grows item (lists.rows item row),
    fun search download present item member => grows item (lists.collected search download present item member)⟩

theorem deliver (lists : screen.Lists kind) {delivered : List (List Item)}
    (all : ∀ items ∈ delivered, ∀ item ∈ items, kind item) : (screen.deliver delivered).Lists kind := by
  induction delivered generalizing screen with
  | nil => exact lists
  | cons items rest ih =>
      have shown : (screen.showResults items).Lists kind := ⟨all items List.mem_cons_self, lists.collected⟩
      exact ih shown fun later member => all later (List.mem_cons_of_mem _ member)

theorem update (lists : screen.Lists kind) {download : ItemDownload} (new : download.Lists kind) (search : Nat) :
    SearchScreen.Lists kind { screen with downloads := Function.update screen.downloads search (some download) } := by
  refine ⟨lists.rows, fun other found present => ?_⟩
  by_cases same : other = search
  · subst same
    have written : Function.update screen.downloads other (some download) other = some found := present
    rw [Function.update_self] at written
    exact Option.some.inj written ▸ new
  · exact lists.collected other found ((Function.update_of_ne same _ _).symm.trans present)

theorem downloadItemsFromFirebase (lists : screen.Lists kind) (search : Nat) (withIds : List String) :
    (screen.downloadItemsFromFirebase search withIds).1.Lists kind ∧
      ∀ flight ∈ (screen.downloadItemsFromFirebase search withIds).2, flight.reply = none := by
  unfold SearchScreen.downloadItemsFromFirebase
  split
  · refine ⟨?_, fun flight member => ?_⟩
    · have new : ItemDownload.Lists kind { withIds := withIds } := fun item nothing => absurd nothing List.not_mem_nil
      exact ⟨(lists.update new search).rows, (lists.update new search).collected⟩
    · obtain ⟨itemId, _, rfl⟩ := List.mem_map.mp member
      rfl
  · exact ⟨⟨fun item nothing => absurd nothing List.not_mem_nil, lists.collected⟩,
      fun flight nothing => absurd nothing List.not_mem_nil⟩

theorem searchCompletion (lists : screen.Lists kind) (search : Nat) (reply : SearchReply) :
    (screen.searchCompletion search reply).1.Lists kind ∧
      ∀ flight ∈ (screen.searchCompletion search reply).2, flight.reply = none := by
  unfold SearchScreen.searchCompletion
  split
  · split
    · exact ⟨⟨lists.rows, lists.collected⟩, fun flight nothing => absurd nothing List.not_mem_nil⟩
    · exact lists.downloadItemsFromFirebase search _
  · exact lists.downloadItemsFromFirebase search _

theorem itemCompletion (lists : screen.Lists kind) (search : Nat) {read : DocumentRead} (reads : read.Reads kind) :
    (screen.itemCompletion search read).Lists kind := by
  unfold SearchScreen.itemCompletion
  split
  · exact lists
  · rename_i shared present
    obtain ⟨collected, delivered⟩ := (lists.collected search shared present).receive reads
    exact (lists.update collected search).deliver delivered

/-- A search that goes on shows items of the store. -/
theorem step {world next : SearchWorld} {event : SearchEvent} (lists : world.screen.Lists kind)
    (flights : ∀ flight ∈ world.flights, flight.Lists kind)
    (stored : ∀ name data, world.store.data .items name = some data → kind (Item.ofDictionary data))
    (taken : world.step event = some next) :
    next.screen.Lists kind ∧ ∀ flight ∈ next.flights, flight.Lists kind := by
  have silent {flight : SearchFlight} (waits : flight.reply = none) : flight.Lists kind := by
    intro read replied
    rw [waits] at replied
    cases replied
  cases event with
  | searchButtonPressed text =>
      obtain ⟨_, rfl⟩ := SearchWorld.step_searchButtonPressed.mp taken
      simp only [SearchWorld.perform, SearchScreen.searchButtonPressed]
      split
      · refine ⟨⟨lists.rows, lists.collected⟩, Pool.forall_append flights fun flight member => ?_⟩
        exact List.mem_singleton.mp member ▸ silent rfl
      · rw [List.append_nil]
        exact ⟨lists, flights⟩
  | serve index answer =>
      obtain ⟨search, request, reply, _, answered, rfl⟩ := SearchWorld.step_serve.mp taken
      refine ⟨lists, Pool.forall_set flights fun read replied => ?_⟩
      obtain rfl := Option.some.inj replied
      unfold SearchAnswer.reply at answered
      split at answered
      · cases answered
      · obtain rfl := SearchReply.document.inj (Option.some.inj answered)
        exact fun data impossible => by cases impossible
      · cases answered
      · obtain rfl := SearchReply.document.inj (Option.some.inj answered)
        exact Store.reads_readItem stored _
      · cases answered
      · cases answered
  | callback index =>
      obtain ⟨search, request, reply, found, rfl⟩ := SearchWorld.step_callback.mp taken
      have kept : ∀ flight ∈ world.flights.eraseIdx index, flight.Lists kind := Pool.forall_eraseIdx flights
      split
      · exact ⟨lists, kept⟩
      · cases request with
        | searchAlgolia text =>
            obtain ⟨screen, issued⟩ := lists.searchCompletion search reply
            exact ⟨screen, Pool.forall_append kept fun flight member => silent (issued flight member)⟩
        | getItem name =>
            cases reply with
            | document read =>
                refine ⟨lists.itemCompletion search (flights _ (List.mem_of_getElem? found) read rfl), ?_⟩
                exact Pool.forall_append kept fun flight nothing => absurd nothing List.not_mem_nil
            | failed => exact ⟨lists, Pool.forall_append kept fun flight nothing => absurd nothing List.not_mem_nil⟩
            | hits objectIds =>
                exact ⟨lists, Pool.forall_append kept fun flight nothing => absurd nothing List.not_mem_nil⟩

end SearchScreen.Lists

namespace PurchasedHistory.Lists

variable {history : PurchasedHistory}

theorem mono (lists : history.Lists kind) (grows : ∀ item, kind item → wider item) : history.Lists wider :=
  ⟨fun item row => grows item (lists.rows item row),
    fun download member item collected => grows item (lists.collected download member item collected)⟩

theorem deliver (lists : history.Lists kind) {delivered : List (List Item)}
    (all : ∀ items ∈ delivered, ∀ item ∈ items, kind item) : (history.deliver delivered).Lists kind := by
  rw [deliver_eq]
  refine ⟨fun item member => ?_, lists.collected⟩
  cases last : delivered.getLast? with
  | none =>
      rw [last] at member
      exact lists.rows item member
  | some items =>
      rw [last] at member
      exact all items (List.mem_of_getLast? last) item member

theorem downloadItemsFromFirebase (lists : history.Lists kind) (own : Nat) (withIds : List String) :
    (history.downloadItemsFromFirebase own withIds).1.Lists kind ∧
      ∀ request ∈ (history.downloadItemsFromFirebase own withIds).2, BrowseFlight.Lists kind ⟨request, none⟩ := by
  unfold PurchasedHistory.downloadItemsFromFirebase
  split
  · refine ⟨⟨lists.rows, Pool.forall_append lists.collected fun download member => ?_⟩, fun request member => ?_⟩
    · rw [List.mem_singleton.mp member]
      exact fun item nothing => absurd nothing List.not_mem_nil
    · obtain ⟨itemId, _, rfl⟩ := List.mem_map.mp member
      exact fun read replied => by cases replied
  · refine ⟨lists.deliver fun items member => ?_, fun request nothing => absurd nothing List.not_mem_nil⟩
    rw [List.mem_singleton.mp member]
    exact fun item nothing => absurd nothing List.not_mem_nil

theorem itemCompletion (lists : history.Lists kind) (download : Nat) {read : DocumentRead} (reads : read.Reads kind) :
    (history.itemCompletion download read).Lists kind := by
  unfold PurchasedHistory.itemCompletion
  split
  · exact lists
  · rename_i shared present
    obtain ⟨collected, delivered⟩ := (lists.collected shared (List.mem_of_getElem? present)).receive reads
    have updated : PurchasedHistory.Lists kind
        { history with downloads := history.downloads.set download (shared.receive read).1 } :=
      ⟨lists.rows, Pool.forall_set lists.collected collected⟩
    exact updated.deliver delivered

end PurchasedHistory.Lists

theorem BrowseFlight.Lists.mono {flight : BrowseFlight} (lists : flight.Lists kind)
    (grows : ∀ item, kind item → wider item) : flight.Lists wider := by
  obtain ⟨request, reply⟩ := flight
  cases request with
  | getCategories screen => trivial
  | getItems table categoryId =>
      exact fun documents replied data member => grows _ (lists documents replied data member)
  | getItem history download name => exact fun read replied => (lists read replied).mono grows

/-- The server answers a query or a read with stored items. -/
theorem BrowseFlight.lists_browse {store : Store}
    (stored : ∀ name data, store.data .items name = some data → kind (Item.ofDictionary data))
    (request : BrowseRequest) : BrowseFlight.Lists kind ⟨request, some (store.browse request)⟩ := by
  cases request with
  | getCategories screen => trivial
  | getItems table categoryId =>
      intro documents replied data member
      obtain rfl := BrowseReply.documents.inj (Option.some.inj replied)
      obtain ⟨⟨name, found⟩, inside, rfl⟩ := List.mem_map.mp member
      exact stored name found (Store.mem_itemsOf.mp inside).1
  | getItem history download name =>
      intro read replied
      obtain rfl := BrowseReply.document.inj (Option.some.inj replied)
      exact Store.reads_readItem stored name

theorem BrowseFlight.lists_failed (request : BrowseRequest) : BrowseFlight.Lists kind ⟨request, some .failed⟩ := by
  cases request with
  | getCategories screen => trivial
  | getItems table categoryId => exact fun documents replied => by cases replied
  | getItem history download name => exact fun read replied => by cases replied

namespace App.Lists

variable {app next : App} {double : String → Option Double} {link : StoragePath → String} {event : AppEvent}

theorem mono (lists : app.Lists kind) (grows : ∀ item, kind item → wider item) : app.Lists wider :=
  ⟨lists.shop.mono grows, fun table member item row => grows item (lists.tables table member item row),
    fun view member => grows _ (lists.views view member),
    fun history member => (lists.histories history member).mono grows,
    fun number => (lists.searches number).mono grows,
    fun number flight member read replied => (lists.searching number flight member read replied).mono grows,
    fun flight member => (lists.flights flight member).mono grows⟩

/-- The other screens stay when the shop has other items of the kind. -/
theorem withShop (lists : app.Lists kind) {changed : App} (shop : changed.market.shop.Lists kind)
    (tables : changed.tables = app.tables) (views : changed.views = app.views)
    (histories : changed.histories = app.histories) (searches : changed.searches = app.searches)
    (searching : changed.searching = app.searching) (flights : changed.flights = app.flights) : changed.Lists kind :=
  ⟨shop, tables ▸ lists.tables, views ▸ lists.views, histories ▸ lists.histories, searches ▸ lists.searches,
    searching ▸ lists.searching, flights ▸ lists.flights⟩

/-- A stopped device lists what it listed before. -/
theorem stop (lists : app.Lists kind) (number : Nat) : (app.stop number).Lists kind :=
  lists.withShop ((World.Aside.stop app.market.shop number).lists lists.shop lists.shop.stored) rfl rfl rfl rfl rfl rfl

/-- A market whose documents are of the kind lists items of the kind after an event of the app. -/
theorem take (lists : app.Lists kind) {given : MarketEvent} (hands : app.Hands event given)
    (taken : app.take double link given = some next)
    (stored : ∀ name data, next.market.shop.store.data .items name = some data → kind (Item.ofDictionary data)) :
    next.Lists kind := by
  obtain ⟨after, stepped, rfl⟩ := Option.map_eq_some_iff.mp taken
  refine lists.withShop ?_ rfl rfl rfl rfl rfl rfl
  by_cases ofShop : ∃ made, given = .shop made
  · obtain ⟨made, rfl⟩ := ofShop
    obtain ⟨_, shop, moved, rfl⟩ := Market.step_shop stepped
    refine lists.shop.step ?_ moved
    rintro number item rfl _
    cases hands with
    | market direct => cases direct
    | addToBasket opened => exact lists.views _ (List.mem_of_getElem? opened)
  · exact (Market.step_aside (fun made same => ofShop ⟨made, same⟩) stepped).lists lists.shop stored

theorem profileAppears (lists : app.Lists kind) (number : Nat) : (app.profileAppears number).Lists kind := by
  unfold App.profileAppears
  split
  · exact lists.stop number
  · exact lists.withShop lists.shop rfl rfl rfl rfl rfl rfl

theorem loadHistory (lists : app.Lists kind) (number own : Nat) : (app.loadHistory number own).Lists kind := by
  unfold App.loadHistory
  split
  · rename_i user history _ present
    obtain ⟨loaded, issued⟩ := (lists.histories history (List.mem_of_getElem? present)).downloadItemsFromFirebase own
      user.purchasedItemIds
    refine ⟨lists.shop, lists.tables, lists.views, Pool.forall_set lists.histories loaded, lists.searches,
      lists.searching, Pool.forall_append lists.flights fun flight member => ?_⟩
    obtain ⟨request, inIssued, rfl⟩ := List.mem_map.mp member
    exact issued request inIssued
  · exact lists
  · exact lists.stop number

theorem showItemView (lists : app.Lists kind) {number : Nat} {item : Item} (given : kind item) :
    (app.showItemView number item).Lists kind := by
  rcases app.showItemView_cases number item with ⟨_, shown⟩ | shown
  · exact shown ▸ lists.stop number
  · rw [shown]
    refine ⟨lists.shop, lists.tables, Pool.forall_append lists.views fun view member => ?_, lists.histories,
      lists.searches, lists.searching, lists.flights⟩
    rw [List.mem_singleton.mp member]
    exact given

theorem searched (lists : app.Lists kind) {number : Nat} {world : SearchWorld} {made : SearchEvent}
    (taken : (app.searchWorld number).step made = some world) : (app.searched number world).Lists kind := by
  have before : (app.searchWorld number).screen.Lists kind :=
    ⟨(lists.searches number).rows, (lists.searches number).collected⟩
  obtain ⟨screen, flights⟩ := before.step (lists.searching number) lists.shop.stored taken
  have updated : App.Lists kind { app with
      searches := Function.update app.searches number world.screen
      searching := Function.update app.searching number world.flights } := by
    refine ⟨lists.shop, lists.tables, lists.views, lists.histories, ?_, ?_, lists.flights⟩
    · exact (Function.forall_update_iff app.searches fun _ screen => screen.Lists kind).mpr
        ⟨screen, fun other _ => lists.searches other⟩
    · exact (Function.forall_update_iff app.searching fun _ flights => ∀ flight ∈ flights, flight.Lists kind).mpr
        ⟨flights, fun other _ => lists.searching other⟩
  unfold App.searched
  dsimp only
  split
  · exact updated.stop number
  · exact updated

theorem complete (lists : app.Lists kind) {request : BrowseRequest} {reply : BrowseReply}
    (carried : BrowseFlight.Lists kind ⟨request, some reply⟩) : (app.complete request reply).Lists kind := by
  cases request with
  | getCategories own =>
      unfold App.complete
      dsimp only
      split
      · exact lists
      · split
        · exact lists.stop _
        · exact lists.withShop lists.shop rfl rfl rfl rfl rfl rfl
  | getItems own categoryId =>
      unfold App.complete
      dsimp only
      split
      · exact lists
      · refine ⟨lists.shop, Pool.forall_set lists.tables ?_, lists.views, lists.histories, lists.searches,
          lists.searching, lists.flights⟩
        cases reply with
        | documents documents =>
            intro item member
            obtain ⟨data, inside, rfl⟩ := List.mem_map.mp member
            exact carried documents rfl data inside
        | _ => exact fun item nothing => absurd nothing List.not_mem_nil
  | getItem own download name =>
      have completed {history : PurchasedHistory} (present : app.histories[own]? = some history) {read : DocumentRead}
          (reads : read.Reads kind) : App.Lists kind { app with
            histories := app.histories.set own (history.itemCompletion download read) } :=
        ⟨lists.shop, lists.tables, lists.views, Pool.forall_set lists.histories
          ((lists.histories history (List.mem_of_getElem? present)).itemCompletion download reads), lists.searches,
          lists.searching, lists.flights⟩
      unfold App.complete
      dsimp only
      split
      · rename_i history read present
        exact completed present (carried read rfl)
      · rename_i history present
        exact completed present fun data impossible => by cases impossible
      · exact lists

/-- A step keeps the kind of the items when the item documents are of the kind. -/
theorem step (lists : app.Lists kind) (steps : app.Steps double link event next)
    (stored : ∀ name data, next.market.shop.store.data .items name = some data → kind (Item.ofDictionary data)) :
    next.Lists kind := by
  cases steps with
  | market direct taken => exact lists.take (.market direct) taken stored
  | openCategories => exact lists.withShop lists.shop rfl rfl rfl rfl rfl rfl
  | categoriesDidAppear shown active =>
      refine ⟨lists.shop, lists.tables, lists.views, lists.histories, lists.searches, lists.searching,
        Pool.forall_append lists.flights fun flight member => ?_⟩
      rw [List.mem_singleton.mp member]
      trivial
  | didSelectCategory shown selected =>
      refine ⟨lists.shop, Pool.forall_append lists.tables fun table member => ?_, lists.views, lists.histories,
        lists.searches, lists.searching, lists.flights⟩
      rw [List.mem_singleton.mp member]
      exact fun item nothing => absurd nothing List.not_mem_nil
  | itemsDidAppear shown active =>
      refine ⟨lists.shop, lists.tables, lists.views, lists.histories, lists.searches, lists.searching,
        Pool.forall_append lists.flights fun flight member => ?_⟩
      obtain ⟨category, _, rfl⟩ := List.mem_map.mp member
      exact fun documents replied => by cases replied
  | didSelectItem shown selected =>
      exact lists.showItemView (lists.tables _ (List.mem_of_getElem? shown) _ (List.mem_of_getElem? selected))
  | addItem shown ofCategory taken => exact lists.take (.addItem shown ofCategory) taken stored
  | addItemUncategorized shown none => exact lists.stop _
  | didSelectBasketRow selected =>
      exact lists.showItemView ((lists.shop.devices _).rows _ (List.mem_of_getElem? selected))
  | addToBasketTapped opened taken => exact lists.take (.addToBasket opened) taken stored
  | search allowed taken => exact lists.searched taken
  | didSelectSearchResult selected active => exact lists.stop _
  | profileDidAppear active => exact lists.profileAppears _
  | @rightBarButtonItemPressed number tab shown page =>
      split
      · exact lists
      · rcases app.goToEditProfile_cases number tab with ⟨_, edited⟩ | edited
        · exact edited ▸ lists.stop number
        · exact edited ▸ lists.withShop lists.shop rfl rfl rfl rfl rfl rfl
  | finishRegistrationTapped shown page enabled => exact lists.withShop lists.shop rfl rfl rfl rfl rfl rfl
  | textFieldDidChange shown page => exact lists.withShop lists.shop rfl rfl rfl rfl rfl rfl
  | doneButtonPressed shown page enabled taken => exact lists.take (.finishOnboarding shown page enabled) taken stored
  | saveBarButtonPressed shown page taken => exact lists.take (.saveProfile shown page) taken stored
  | @logOutButtonPressed number signedOut tab left shown page taken =>
      cases signedOut with
      | false => exact lists.take (.logOut shown page) taken stored
      | true =>
          refine profileAppears (lists.take (.logOut shown page) taken fun name data present => stored name data ?_) _
          rcases left.profileAppears_rests number with same | ⟨_, same⟩ <;>
          · change (left.profileAppears number).market.shop.store.data .items name = some data
            rw [same]
            exact present
  | purchaseHistoryTapped shown page enabled =>
      refine ⟨lists.shop, lists.tables, lists.views, Pool.forall_append lists.histories fun history member => ?_,
        lists.searches, lists.searching, lists.flights⟩
      rw [List.mem_singleton.mp member]
      exact ⟨fun item nothing => absurd nothing List.not_mem_nil,
        fun download nothing => absurd nothing List.not_mem_nil⟩
  | historyDidAppear shown page => exact lists.loadHistory _ _
  | back shown => exact lists.withShop lists.shop rfl rfl rfl rfl rfl rfl
  | @serve index request succeeds found =>
      refine ⟨lists.shop, lists.tables, lists.views, lists.histories, lists.searches, lists.searching,
        Pool.forall_set lists.flights ?_⟩
      cases succeeds with
      | true => exact BrowseFlight.lists_browse lists.shop.stored request
      | false => exact BrowseFlight.lists_failed request
  | @callback index request reply found =>
      have erased : App.Lists kind { app with flights := app.flights.eraseIdx index } :=
        ⟨lists.shop, lists.tables, lists.views, lists.histories, lists.searches, lists.searching,
          Pool.forall_eraseIdx lists.flights⟩
      split
      · exact erased
      · exact erased.complete (lists.flights _ (List.mem_of_getElem? found))

/-- The empty app lists no item. -/
theorem start : App.start.Lists kind := by
  have nothing {P : Prop} {collection : FCollectionReference} {name : String} {data : Dictionary}
      (stored : App.start.market.shop.store.data collection name = some data) : P := by cases stored
  refine ⟨⟨⟨fun number => ⟨?_, ?_⟩, ?_⟩, fun name data stored => nothing stored⟩, ?_, ?_, ?_, fun number => ⟨?_, ?_⟩,
    fun number => ?_, ?_⟩
  · exact fun item member => absurd member List.not_mem_nil
  · exact fun download member => absurd member List.not_mem_nil
  · exact fun flight member => absurd member List.not_mem_nil
  · exact fun table member => absurd member List.not_mem_nil
  · exact fun view member => absurd member List.not_mem_nil
  · exact fun history member => absurd member List.not_mem_nil
  · exact fun item member => absurd member List.not_mem_nil
  · exact fun search download present => by cases present
  · exact fun flight member => absurd member List.not_mem_nil
  · exact fun flight member => absurd member List.not_mem_nil

end App.Lists

end ShoppingApp
