import ShoppingApp.Model.Browsing
import ShoppingApp.Model.Publishing

namespace ShoppingApp

/-- The app is the market with the browsing screens, the item screens, and the profile and search tabs of the devices,
and their requests in flight. -/
structure App where
  market : Market
  categories : List CategoryScreen := []
  tables : List ItemsTable := []
  views : List ItemView := []
  histories : List PurchasedHistory := []
  profiles : Nat → Option ProfileTab := fun _ => none
  searches : Nat → SearchScreen := fun _ => {}
  searching : Nat → List SearchFlight := fun _ => []
  flights : List BrowseFlight := []

/-- A screen appears or is used, or a request of a browsing screen goes on. The other events are those of the market. -/
inductive AppEvent where
  | market (event : MarketEvent)
  | openCategories (device : Nat)
  | categoriesDidAppear (screen : Nat)
  | didSelectCategory (screen row : Nat)
  | itemsDidAppear (table : Nat)
  | didSelectItem (table row : Nat)
  | addItem (table : Nat)
  | didSelectBasketRow (device row : Nat)
  | addToBasketTapped (view : Nat)
  | search (device : Nat) (event : SearchEvent)
  | didSelectSearchResult (device row : Nat)
  | profileDidAppear (device : Nat)
  | rightBarButtonItemPressed (device : Nat)
  | finishRegistrationTapped (device : Nat)
  | textFieldDidChange (device : Nat) (name surname address : String)
  | doneButtonPressed (device : Nat)
  | saveBarButtonPressed (device : Nat) (name surname address : String)
  | logOutButtonPressed (device : Nat) (signedOut : Bool)
  | purchaseHistoryTapped (device : Nat)
  | historyDidAppear (device : Nat)
  | back (device : Nat)
  | serve (index : Nat) (succeeds : Bool)
  | callback (index : Nat)

/-- The other gestures are made on a screen that the app opens: an item screen or a page of the profile tab. -/
def Gesture.direct : Gesture → Bool
  | .addToBasket _ | .logOut _ | .saveProfile _ _ _ | .finishOnboarding _ _ _ | .updateUser _ => false
  | .viewDidAppear | .deleteRow _ | .checkOut _ | .cancelPayment | .completePayment | .login _ | .register _ => true

/-- The add-item screen is opened from the table of a category. -/
def MarketEvent.direct : MarketEvent → Bool
  | .shop (.gesture _ gesture) => gesture.direct
  | .openAddItem _ _ => false
  | _ => true

namespace App

def device (app : App) (number : Nat) : Device := app.market.shop.devices number

/-- A screen takes gestures while its application runs and no payment covers it. -/
def active (app : App) (number : Nat) : Bool :=
  !(app.device number).trapped && (app.device number).screen.payment.isNone

/-- A trap stops the whole application of a device. -/
def stop (app : App) (number : Nat) : App :=
  { app with market := { app.market with shop := app.market.shop.stop number } }

/-- The handler of a screen hands an event to the market. -/
def take (double : String → Option Double) (link : StoragePath → String) (event : MarketEvent) (app : App) :
    Option App :=
  (app.market.step double link event).map fun market => { app with market := market }

/-- The profile tab takes gestures once it has appeared. -/
def tab (app : App) (number : Nat) : Option ProfileTab :=
  if app.active number then app.profiles number else none

/-- The tab shows this page, with its buttons as they are. -/
def turn (number : Nat) (page : ProfilePage) (tab : ProfileTab) (app : App) : App :=
  { app with profiles := Function.update app.profiles number (some { tab with page := page }) }

/-- An item screen opens: `setupUI` unwraps the price by force. -/
def showItemView (number : Nat) (item : Item) (app : App) : App :=
  match item.price with
  | none => app.stop number
  | some _ => { app with views := app.views ++ [⟨number, item⟩] }

/-- The edit form opens: `loadUserInfo` decodes the current user by force. -/
def goToEditProfile (number : Nat) (tab : ProfileTab) (app : App) : App :=
  match (app.device number).currentUser with
  | none => app.stop number
  | some _ => app.turn number .editProfile tab

/-- The buttons follow the user, whose record is decoded by force. -/
def profileAppears (number : Nat) (app : App) : App :=
  match (app.device number).currentUser with
  | none => app.stop number
  | some user => { app with profiles := Function.update app.profiles number (some (.ofUser user)) }

/-- This is `loadItems` of the purchase history: the user is unwrapped by force. -/
def loadHistory (number own : Nat) (app : App) : App :=
  match (app.device number).currentUser, app.histories[own]? with
  | some (some user), some history =>
      let loaded := history.downloadItemsFromFirebase own user.purchasedItemIds
      { app with
        histories := app.histories.set own loaded.1
        flights := app.flights ++ loaded.2.map fun request => ⟨request, none⟩ }
  | some (some _), none => app
  | _, _ => app.stop number

/-- The search tab of a device runs before the documents of the market. -/
def searchWorld (app : App) (number : Nat) : SearchWorld :=
  ⟨app.market.shop.store, { app.searches number with trapped := (app.device number).trapped }, app.searching number⟩

/-- A trap of the search tab stops the application of its device. -/
def searched (number : Nat) (world : SearchWorld) (app : App) : App :=
  let app := { app with
    searches := Function.update app.searches number world.screen
    searching := Function.update app.searching number world.flights }
  if world.screen.trapped then app.stop number else app

/-- Algolia lists objects of the index, and the search button needs an active screen. -/
def Allows (app : App) (number : Nat) : SearchEvent → Prop
  | .serve _ (.hits objectIds) => ∀ objectId ∈ objectIds, ∃ name ∈ objectId, (app.market.algolia.get? name).isSome
  | .searchButtonPressed _ => app.active number = true
  | .serve _ .failure | .serve _ .success | .callback _ => True

instance (app : App) (number : Nat) : ∀ event, Decidable (app.Allows number event)
  | .serve _ (.hits objectIds) => inferInstanceAs (Decidable (∀ objectId ∈ objectIds, ∃ name ∈ objectId,
      (app.market.algolia.get? name).isSome))
  | .searchButtonPressed _ => inferInstanceAs (Decidable (_ = _))
  | .serve _ .failure | .serve _ .success | .callback _ => inferInstanceAs (Decidable True)

/-- The device of the screen that made the request. -/
def owner (app : App) : BrowseRequest → Option Nat
  | .getCategories screen => app.categories[screen]?.map CategoryScreen.device
  | .getItems table _ => app.tables[table]?.map ItemsTable.device
  | .getItem history _ _ => app.histories[history]?.map PurchasedHistory.device

/-- The application of the request has stopped. -/
def stopped (app : App) (request : BrowseRequest) : Bool :=
  (app.owner request).any fun number => (app.device number).trapped

/-- The completion of each request runs on the screen that made it. -/
def complete (app : App) : BrowseRequest → BrowseReply → App
  | .getCategories own, reply =>
      match app.categories[own]? with
      | none => app
      | some screen =>
          match screen.categoriesCompletion reply with
          | none => app.stop screen.device
          | some shown => { app with categories := app.categories.set own shown }
  | .getItems own _, reply =>
      match app.tables[own]? with
      | none => app
      | some table => { app with tables := app.tables.set own (table.itemsCompletion reply) }
  | .getItem own download _, reply =>
      match app.histories[own]?, reply with
      | some history, .document read =>
          { app with histories := app.histories.set own (history.itemCompletion download read) }
      | some history, .failed =>
          { app with histories := app.histories.set own (history.itemCompletion download .failed) }
      | _, _ => app

/-- A selected row is shown, and its screen takes gestures. Selecting a search result asks the storyboard for the
identifier `itemView`, which it does not have. -/
def step (double : String → Option Double) (link : StoragePath → String) (app : App) : AppEvent → Option App
  | .market event => if event.direct then app.take double link event else none
  | .openCategories number => some { app with categories := app.categories ++ [{ device := number }] }
  | .categoriesDidAppear own =>
      app.categories[own]?.bind fun screen =>
        if app.active screen.device then some { app with flights := app.flights ++ [⟨.getCategories own, none⟩] }
        else none
  | .didSelectCategory own row =>
      app.categories[own]?.bind fun screen =>
        screen.categoryArray[row]?.bind fun category =>
          if app.active screen.device then
            some { app with tables := app.tables ++ [{ device := screen.device, category := some category }] }
          else none
  | .itemsDidAppear own =>
      app.tables[own]?.bind fun table =>
        if app.active table.device then
          some { app with flights := app.flights ++
            table.category.toList.map fun category => ⟨.getItems own category.id, none⟩ }
        else none
  | .didSelectItem own row =>
      app.tables[own]?.bind fun table =>
        table.itemArray[row]?.bind fun item =>
          if app.active table.device then some (app.showItemView table.device item) else none
  | .addItem own =>
      app.tables[own]?.bind fun table =>
        if app.active table.device then
          match table.category with
          | none => some (app.stop table.device)
          | some category => app.take double link (.openAddItem table.device category)
        else none
  | .didSelectBasketRow number row =>
      (app.device number).screen.allItems[row]?.bind fun item =>
        if app.active number then some (app.showItemView number item) else none
  | .addToBasketTapped own =>
      app.views[own]?.bind fun view => app.take double link (.shop (.gesture view.device (.addToBasket view.item)))
  | .search number event =>
      if app.Allows number event then ((app.searchWorld number).step event).map fun world => app.searched number world
      else none
  | .didSelectSearchResult number row =>
      (app.searches number).searchResults[row]?.bind fun _ =>
        if app.active number then some (app.stop number) else none
  | .profileDidAppear number =>
      if app.active number then
        match app.profiles number with
        | none | some ⟨_, _, _, _, .profile⟩ => some (app.profileAppears number)
        | _ => none
      else none
  | .rightBarButtonItemPressed number =>
      (app.tab number).bind fun tab =>
        match tab.page with
        | .profile => some (if tab.editBarButton = "Login" then app else app.goToEditProfile number tab)
        | _ => none
  | .finishRegistrationTapped number =>
      (app.tab number).bind fun tab =>
        match tab.page with
        | .profile =>
            if tab.finishRegistrationButton then some (app.turn number (.finishRegistration {}) tab) else none
        | _ => none
  | .textFieldDidChange number name surname address =>
      (app.tab number).bind fun tab =>
        match tab.page with
        | .finishRegistration _ =>
            some (app.turn number (.finishRegistration (.textFieldDidChange name surname address)) tab)
        | _ => none
  | .doneButtonPressed number =>
      (app.tab number).bind fun tab =>
        match tab.page with
        | .finishRegistration form =>
            if form.doneButton then
              app.take double link (.shop (.gesture number (.finishOnboarding form.nameTextField form.surnameTextField
                form.addressTextField)))
            else none
        | _ => none
  | .saveBarButtonPressed number name surname address =>
      (app.tab number).bind fun tab =>
        match tab.page with
        | .editProfile => app.take double link (.shop (.gesture number (.saveProfile name surname address)))
        | _ => none
  | .logOutButtonPressed number signedOut =>
      (app.tab number).bind fun tab =>
        match tab.page with
        | .editProfile =>
            -- The pop after a sign-out makes the root of the tab appear.
            (app.take double link (.shop (.gesture number (.logOut signedOut)))).map fun app =>
              if signedOut then app.profileAppears number else app
        | _ => none
  | .purchaseHistoryTapped number =>
      (app.tab number).bind fun tab =>
        match tab.page with
        | .profile =>
            if tab.purchaseHistoryButton then
              some (turn number (.purchasedHistory app.histories.length) tab
                { app with histories := app.histories ++ [{ device := number }] })
            else none
        | _ => none
  | .historyDidAppear number =>
      (app.tab number).bind fun tab =>
        match tab.page with
        | .purchasedHistory own => some (app.loadHistory number own)
        | _ => none
  | .back number =>
      (app.tab number).bind fun tab =>
        match tab.page with
        | .profile => none
        | _ => some (app.turn number .profile tab)
  | .serve index succeeds =>
      match app.flights[index]? with
      | some ⟨request, none⟩ =>
          let reply := if succeeds then app.market.shop.store.browse request else .failed
          some { app with flights := app.flights.set index ⟨request, some reply⟩ }
      | _ => none
  | .callback index =>
      match app.flights[index]? with
      | some ⟨request, some reply⟩ =>
          let erased : App := { app with flights := app.flights.eraseIdx index }
          some (if app.stopped request then erased else erased.complete request reply)
      | _ => none

abbrev run (double : String → Option Double) (link : StoragePath → String) (app : App) (events : List AppEvent) :
    Option App := Transition.run (step double link) app events

/-- The app starts with no data on new devices. -/
def start : App where
  market := { shop := { store := fun _ => Documents.empty, devices := fun _ => {}, flights := [] } }

/-- This relation lists what each event does and when it can happen. -/
inductive Steps (double : String → Option Double) (link : StoragePath → String) (app : App) :
    AppEvent → App → Prop where
  | market {event : MarketEvent} {next : App} (direct : event.direct = true)
      (taken : app.take double link event = some next) : Steps double link app (.market event) next
  | openCategories {number : Nat} : Steps double link app (.openCategories number)
      { app with categories := app.categories ++ [{ device := number }] }
  | categoriesDidAppear {own : Nat} {screen : CategoryScreen} (shown : app.categories[own]? = some screen)
      (active : app.active screen.device = true) : Steps double link app (.categoriesDidAppear own)
        { app with flights := app.flights ++ [⟨.getCategories own, none⟩] }
  | didSelectCategory {own row : Nat} {screen : CategoryScreen} {category : Category}
      (shown : app.categories[own]? = some screen) (selected : screen.categoryArray[row]? = some category) :
      Steps double link app (.didSelectCategory own row)
        { app with tables := app.tables ++ [{ device := screen.device, category := some category }] }
  | itemsDidAppear {own : Nat} {table : ItemsTable} (shown : app.tables[own]? = some table)
      (active : app.active table.device = true) : Steps double link app (.itemsDidAppear own)
        { app with flights := app.flights ++
          table.category.toList.map fun category => ⟨.getItems own category.id, none⟩ }
  | didSelectItem {own row : Nat} {table : ItemsTable} {item : Item} (shown : app.tables[own]? = some table)
      (selected : table.itemArray[row]? = some item) : Steps double link app (.didSelectItem own row)
        (app.showItemView table.device item)
  | addItem {own : Nat} {table : ItemsTable} {category : Category} {next : App} (shown : app.tables[own]? = some table)
      (ofCategory : table.category = some category)
      (taken : app.take double link (.openAddItem table.device category) = some next) :
      Steps double link app (.addItem own) next
  | addItemUncategorized {own : Nat} {table : ItemsTable} (shown : app.tables[own]? = some table)
      (none : table.category = none) : Steps double link app (.addItem own) (app.stop table.device)
  | didSelectBasketRow {number row : Nat} {item : Item}
      (selected : (app.device number).screen.allItems[row]? = some item) :
      Steps double link app (.didSelectBasketRow number row) (app.showItemView number item)
  | addToBasketTapped {own : Nat} {view : ItemView} {next : App} (opened : app.views[own]? = some view)
      (taken : app.take double link (.shop (.gesture view.device (.addToBasket view.item))) = some next) :
      Steps double link app (.addToBasketTapped own) next
  | search {number : Nat} {event : SearchEvent} {world : SearchWorld} (allowed : app.Allows number event)
      (taken : (app.searchWorld number).step event = some world) :
      Steps double link app (.search number event) (app.searched number world)
  | didSelectSearchResult {number row : Nat} {item : Item}
      (selected : (app.searches number).searchResults[row]? = some item) (active : app.active number = true) :
      Steps double link app (.didSelectSearchResult number row) (app.stop number)
  | profileDidAppear {number : Nat} (active : app.active number = true) :
      Steps double link app (.profileDidAppear number) (app.profileAppears number)
  | rightBarButtonItemPressed {number : Nat} {tab : ProfileTab} (shown : app.tab number = some tab)
      (page : tab.page = .profile) : Steps double link app (.rightBarButtonItemPressed number)
        (if tab.editBarButton = "Login" then app else app.goToEditProfile number tab)
  | finishRegistrationTapped {number : Nat} {tab : ProfileTab} (shown : app.tab number = some tab)
      (page : tab.page = .profile) (enabled : tab.finishRegistrationButton = true) :
      Steps double link app (.finishRegistrationTapped number) (app.turn number (.finishRegistration {}) tab)
  | textFieldDidChange {number : Nat} {name surname address : String} {tab : ProfileTab} {form : FinishRegistration}
      (shown : app.tab number = some tab) (page : tab.page = .finishRegistration form) :
      Steps double link app (.textFieldDidChange number name surname address)
        (app.turn number (.finishRegistration (.textFieldDidChange name surname address)) tab)
  | doneButtonPressed {number : Nat} {tab : ProfileTab} {form : FinishRegistration} {next : App}
      (shown : app.tab number = some tab) (page : tab.page = .finishRegistration form)
      (enabled : form.doneButton = true)
      (taken : app.take double link (.shop (.gesture number (.finishOnboarding form.nameTextField
        form.surnameTextField form.addressTextField))) = some next) :
      Steps double link app (.doneButtonPressed number) next
  | saveBarButtonPressed {number : Nat} {name surname address : String} {tab : ProfileTab} {next : App}
      (shown : app.tab number = some tab) (page : tab.page = .editProfile)
      (taken : app.take double link (.shop (.gesture number (.saveProfile name surname address))) = some next) :
      Steps double link app (.saveBarButtonPressed number name surname address) next
  | logOutButtonPressed {number : Nat} {signedOut : Bool} {tab : ProfileTab} {left : App}
      (shown : app.tab number = some tab) (page : tab.page = .editProfile)
      (taken : app.take double link (.shop (.gesture number (.logOut signedOut))) = some left) :
      Steps double link app (.logOutButtonPressed number signedOut)
        (if signedOut then left.profileAppears number else left)
  | purchaseHistoryTapped {number : Nat} {tab : ProfileTab} (shown : app.tab number = some tab)
      (page : tab.page = .profile) (enabled : tab.purchaseHistoryButton = true) :
      Steps double link app (.purchaseHistoryTapped number)
        (turn number (.purchasedHistory app.histories.length) tab
          { app with histories := app.histories ++ [{ device := number }] })
  | historyDidAppear {number own : Nat} {tab : ProfileTab} (shown : app.tab number = some tab)
      (page : tab.page = .purchasedHistory own) :
      Steps double link app (.historyDidAppear number) (app.loadHistory number own)
  | back {number : Nat} {tab : ProfileTab} (shown : app.tab number = some tab) :
      Steps double link app (.back number) (app.turn number .profile tab)
  | serve {index : Nat} {request : BrowseRequest} {succeeds : Bool}
      (found : app.flights[index]? = some ⟨request, none⟩) : Steps double link app (.serve index succeeds)
        { app with flights := app.flights.set index ⟨request, some (if succeeds then
            app.market.shop.store.browse request else .failed)⟩ }
  | callback {index : Nat} {request : BrowseRequest} {reply : BrowseReply}
      (found : app.flights[index]? = some ⟨request, some reply⟩) : Steps double link app (.callback index)
        (if app.stopped request then { app with flights := app.flights.eraseIdx index }
          else complete { app with flights := app.flights.eraseIdx index } request reply)

/-- Each step is one of the listed ones. -/
theorem steps_of_step {double : String → Option Double} {link : StoragePath → String} {app next : App}
    {event : AppEvent} (taken : app.step double link event = some next) : app.Steps double link event next := by
  cases event with
  | market event =>
      simp only [step] at taken
      split at taken
      · rename_i direct
        exact .market direct taken
      · cases taken
  | openCategories number =>
      obtain rfl := Option.some.inj taken
      exact .openCategories
  | categoriesDidAppear own =>
      obtain ⟨screen, shown, taken⟩ := Option.bind_eq_some_iff.mp taken
      split at taken
      · rename_i active
        obtain rfl := Option.some.inj taken
        exact .categoriesDidAppear shown active
      · cases taken
  | didSelectCategory own row =>
      obtain ⟨screen, shown, taken⟩ := Option.bind_eq_some_iff.mp taken
      obtain ⟨category, selected, taken⟩ := Option.bind_eq_some_iff.mp taken
      split at taken
      · obtain rfl := Option.some.inj taken
        exact .didSelectCategory shown selected
      · cases taken
  | itemsDidAppear own =>
      obtain ⟨table, shown, taken⟩ := Option.bind_eq_some_iff.mp taken
      split at taken
      · rename_i active
        obtain rfl := Option.some.inj taken
        exact .itemsDidAppear shown active
      · cases taken
  | didSelectItem own row =>
      obtain ⟨table, shown, taken⟩ := Option.bind_eq_some_iff.mp taken
      obtain ⟨item, selected, taken⟩ := Option.bind_eq_some_iff.mp taken
      split at taken
      · obtain rfl := Option.some.inj taken
        exact .didSelectItem shown selected
      · cases taken
  | addItem own =>
      obtain ⟨table, shown, taken⟩ := Option.bind_eq_some_iff.mp taken
      split at taken
      · split at taken
        · rename_i none
          obtain rfl := Option.some.inj taken
          exact .addItemUncategorized shown none
        · rename_i category ofCategory
          exact .addItem shown ofCategory taken
      · cases taken
  | didSelectBasketRow number row =>
      obtain ⟨item, selected, taken⟩ := Option.bind_eq_some_iff.mp taken
      split at taken
      · obtain rfl := Option.some.inj taken
        exact .didSelectBasketRow selected
      · cases taken
  | addToBasketTapped own =>
      obtain ⟨view, opened, taken⟩ := Option.bind_eq_some_iff.mp taken
      exact .addToBasketTapped opened taken
  | search number event =>
      simp only [step] at taken
      split at taken
      · rename_i allowed
        obtain ⟨world, stepped, rfl⟩ := Option.map_eq_some_iff.mp taken
        exact .search allowed stepped
      · cases taken
  | didSelectSearchResult number row =>
      obtain ⟨item, selected, taken⟩ := Option.bind_eq_some_iff.mp taken
      split at taken
      · rename_i active
        obtain rfl := Option.some.inj taken
        exact .didSelectSearchResult selected active
      · cases taken
  | profileDidAppear number =>
      simp only [step] at taken
      split at taken
      · rename_i active
        split at taken
        · obtain rfl := Option.some.inj taken
          exact .profileDidAppear active
        · obtain rfl := Option.some.inj taken
          exact .profileDidAppear active
        · cases taken
      · cases taken
  | rightBarButtonItemPressed number =>
      obtain ⟨tab, shown, taken⟩ := Option.bind_eq_some_iff.mp taken
      split at taken
      · rename_i page
        obtain rfl := Option.some.inj taken
        exact .rightBarButtonItemPressed shown page
      · cases taken
  | finishRegistrationTapped number =>
      obtain ⟨tab, shown, taken⟩ := Option.bind_eq_some_iff.mp taken
      split at taken
      · rename_i page
        split at taken
        · rename_i enabled
          obtain rfl := Option.some.inj taken
          exact .finishRegistrationTapped shown page enabled
        · cases taken
      · cases taken
  | textFieldDidChange number name surname address =>
      obtain ⟨tab, shown, taken⟩ := Option.bind_eq_some_iff.mp taken
      split at taken
      · rename_i form page
        obtain rfl := Option.some.inj taken
        exact .textFieldDidChange shown page
      · cases taken
  | doneButtonPressed number =>
      obtain ⟨tab, shown, taken⟩ := Option.bind_eq_some_iff.mp taken
      split at taken
      · rename_i form page
        split at taken
        · rename_i enabled
          exact .doneButtonPressed shown page enabled taken
        · cases taken
      · cases taken
  | saveBarButtonPressed number name surname address =>
      obtain ⟨tab, shown, taken⟩ := Option.bind_eq_some_iff.mp taken
      split at taken
      · rename_i page
        exact .saveBarButtonPressed shown page taken
      · cases taken
  | logOutButtonPressed number signedOut =>
      obtain ⟨tab, shown, taken⟩ := Option.bind_eq_some_iff.mp taken
      split at taken
      · rename_i page
        obtain ⟨left, stepped, rfl⟩ := Option.map_eq_some_iff.mp taken
        exact .logOutButtonPressed shown page stepped
      · cases taken
  | purchaseHistoryTapped number =>
      obtain ⟨tab, shown, taken⟩ := Option.bind_eq_some_iff.mp taken
      split at taken
      · rename_i page
        split at taken
        · rename_i enabled
          obtain rfl := Option.some.inj taken
          exact .purchaseHistoryTapped shown page enabled
        · cases taken
      · cases taken
  | historyDidAppear number =>
      obtain ⟨tab, shown, taken⟩ := Option.bind_eq_some_iff.mp taken
      split at taken
      · rename_i own page
        obtain rfl := Option.some.inj taken
        exact .historyDidAppear shown page
      · cases taken
  | back number =>
      obtain ⟨tab, shown, taken⟩ := Option.bind_eq_some_iff.mp taken
      split at taken
      · cases taken
      · obtain rfl := Option.some.inj taken
        exact .back shown
  | serve index succeeds =>
      simp only [step] at taken
      split at taken
      · rename_i request found
        obtain rfl := Option.some.inj taken
        exact .serve found
      · cases taken
  | callback index =>
      simp only [step] at taken
      split at taken
      · rename_i request reply found
        obtain rfl := Option.some.inj taken
        exact .callback found
      · cases taken

end App

end ShoppingApp
