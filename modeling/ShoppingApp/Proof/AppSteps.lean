import ShoppingApp.Model.App
import ShoppingApp.Proof.Shelves

namespace ShoppingApp

/-- The rest of the market leaves the requests, the users, and the baskets, and it can only stop devices. -/
structure World.Aside (world next : World) : Prop where
  flights : next.flights = world.flights
  devices : ∀ number, ∃ trapped, next.devices number = { world.devices number with trapped := trapped }
  users : ∀ name, next.store.data .user name = world.store.data .user name
  baskets : ∀ name, next.store.data .basket name = world.store.data .basket name

namespace World.Aside

theorem refl (world : World) : world.Aside world :=
  ⟨rfl, fun number => ⟨(world.devices number).trapped, rfl⟩, fun _ => rfl, fun _ => rfl⟩

theorem stop (world : World) (number : Nat) : world.Aside (world.stop number) := by
  refine ⟨rfl, fun other => ?_, fun _ => rfl, fun _ => rfl⟩
  by_cases here : other = number
  · subst here
    exact ⟨true, by simp only [World.stop, Function.update_self]⟩
  · exact ⟨(world.devices other).trapped, by simp only [World.stop, Function.update_of_ne here]⟩

end World.Aside

namespace Market

variable {market next : Market} {double : String → Option Double} {link : StoragePath → String}

theorem perform_aside (market : Market) (number : Nat) (outcome : PublishOutcome) :
    market.shop.Aside (market.perform number outcome).shop := by
  unfold perform
  dsimp only
  split
  · exact .stop market.shop outcome.screen.device
  · exact .refl market.shop

theorem complete_aside (uuid : String) (market : Market) (request : PublishRequest) (reply : PublishReply) :
    market.shop.Aside (market.complete uuid request reply).shop := by
  rcases complete_cases uuid market request reply with
    ⟨number, fileName, imageLink, _, _, _, same⟩ | ⟨_, ⟨number, fileName, imageData, _, _, same⟩ | same⟩
  · rw [same]
    rcases imageSaved_cases uuid number imageLink market with same | ⟨publication, screen, _, _, same⟩
    · rw [same]
      exact .refl _
    · rw [same]
      exact perform_aside ..
  · rw [same]
    exact .refl _
  · rw [same]
    exact .refl _

/-- The services apply a request beside the shop. -/
theorem apply_aside (link : StoragePath → String) (market : Market) (request : PublishRequest) :
    market.shop.Aside (market.apply link request).1.shop := by
  have wrote {collection : FCollectionReference} (name : String) (data : Dictionary)
      (user : .user ≠ collection) (basket : .basket ≠ collection) : market.shop.Aside
        { market.shop with store := market.shop.store.setData collection name data } :=
    ⟨rfl, (World.Aside.refl market.shop).devices, fun _ => Store.data_setData_other _ data (.inl user),
      fun _ => Store.data_setData_other _ data (.inl basket)⟩
  cases request with
  | setItem number name data => exact wrote name data (by decide) (by decide)
  | setCategory name data => exact wrote name data (by decide) (by decide)
  | _ => exact .refl _

/-- The events outside the shop take place beside it. -/
theorem step_aside {event : MarketEvent} (other : ∀ made, event ≠ .shop made)
    (taken : market.step double link event = some next) : market.shop.Aside next.shop := by
  have edited {own : Nat} {change : AddItemScreen → AddItemScreen} (taken : market.edit own change = some next) :
      market.shop.Aside next.shop := by
    obtain ⟨screens, rfl⟩ := edit_screens taken
    exact .refl _
  cases event with
  | shop made => exact absurd rfl (other made)
  | openAddItem device category =>
      obtain rfl := Option.some.inj taken
      exact .refl _
  | editFields own title price description => exact edited taken
  | cameraButtonWasTapped own => exact edited taken
  | didSelectImages own resolvedImages => exact edited taken
  | doneButtonWasTapped own connected uuids =>
      obtain ⟨screen, _, _, ⟨_, rfl⟩ | ⟨_, _, _, _, rfl⟩⟩ := step_doneButtonWasTapped taken
      · exact .refl _
      · exact perform_aside { market with
          publications := market.publications ++
            [(screen.saveToFireStore double connected uuids own market.publications.length).publication]
          used := uuids.1 :: uuids.2 :: market.used } _ _
  | saveCategoryToFireStore category uuid =>
      obtain ⟨_, rfl⟩ := step_saveCategoryToFireStore taken
      exact .refl _
  | serve index succeeds =>
      obtain ⟨request, _, ⟨_, rfl⟩ | ⟨_, rfl⟩⟩ := step_serve taken
      · exact apply_aside link market request
      · exact .refl _
  | callback index uuid =>
      obtain ⟨request, reply, _, _, ⟨_, rfl⟩ | ⟨_, rfl⟩⟩ := step_callback taken
      · exact .refl _
      · exact complete_aside uuid { market with flights := market.flights.eraseIdx index, used := uuid :: market.used }
          request reply

end Market

/-- These events change the grids, the tables, the purchase histories, or their requests. -/
def AppEvent.browses : AppEvent → Bool
  | .openCategories _ | .categoriesDidAppear _ | .didSelectCategory _ _ | .itemsDidAppear _ | .purchaseHistoryTapped _
  | .historyDidAppear _ | .serve _ _ | .callback _ => true
  | _ => false

namespace App

/-- The device of a screen can be stopped while the rest of the market stays. -/
def Rests (app next : App) : Prop :=
  next.market = app.market ∨ ∃ number, next.market = { app.market with shop := app.market.shop.stop number }

/-- The events of the screens hand these events to the market. -/
inductive Hands (app : App) : AppEvent → MarketEvent → Prop where
  | market {event : MarketEvent} (direct : event.direct = true) : Hands app (.market event) event
  | addItem {own : Nat} {table : ItemsTable} {category : Category} (shown : app.tables[own]? = some table)
      (ofCategory : table.category = some category) :
      Hands app (.addItem own) (.openAddItem table.device category)
  | addToBasket {own : Nat} {view : ItemView} (opened : app.views[own]? = some view) :
      Hands app (.addToBasketTapped own) (.shop (.gesture view.device (.addToBasket view.item)))
  | finishOnboarding {number : Nat} {tab : ProfileTab} {form : FinishRegistration} (shown : app.tab number = some tab)
      (page : tab.page = .finishRegistration form) (enabled : form.doneButton = true) :
      Hands app (.doneButtonPressed number) (.shop (.gesture number (.finishOnboarding form.nameTextField
        form.surnameTextField form.addressTextField)))
  | saveProfile {number : Nat} {name surname address : String} {tab : ProfileTab} (shown : app.tab number = some tab)
      (page : tab.page = .editProfile) : Hands app (.saveBarButtonPressed number name surname address)
        (.shop (.gesture number (.saveProfile name surname address)))
  | logOut {number : Nat} {signedOut : Bool} {tab : ProfileTab} (shown : app.tab number = some tab)
      (page : tab.page = .editProfile) :
      Hands app (.logOutButtonPressed number signedOut) (.shop (.gesture number (.logOut signedOut)))

/-- The grids, the tables, the purchase histories, and their requests stay. -/
structure SameLists (app next : App) : Prop where
  categories : next.categories = app.categories
  tables : next.tables = app.tables
  histories : next.histories = app.histories
  flights : next.flights = app.flights

variable {app next : App} {double : String → Option Double} {link : StoragePath → String} {event : AppEvent}

theorem stop_rests (app : App) (number : Nat) : app.Rests (app.stop number) := .inr ⟨number, rfl⟩

/-- An item screen opens, or the application stops at an item without a price. -/
theorem showItemView_cases (app : App) (number : Nat) (item : Item) :
    item.price = none ∧ app.showItemView number item = app.stop number ∨
      app.showItemView number item = { app with views := app.views ++ [⟨number, item⟩] } := by
  unfold showItemView
  split
  · rename_i free
    exact .inl ⟨free, rfl⟩
  · exact .inr rfl

/-- The edit form opens, or the application stops at a record that does not decode. -/
theorem goToEditProfile_cases (app : App) (number : Nat) (tab : ProfileTab) :
    (app.device number).currentUser = none ∧ app.goToEditProfile number tab = app.stop number ∨
      app.goToEditProfile number tab = app.turn number .editProfile tab := by
  unfold goToEditProfile
  split
  · rename_i undecoded
    exact .inl ⟨undecoded, rfl⟩
  · exact .inr rfl

theorem showItemView_rests (app : App) (number : Nat) (item : Item) : app.Rests (app.showItemView number item) := by
  rcases app.showItemView_cases number item with ⟨_, shown⟩ | shown
  · exact shown ▸ app.stop_rests number
  · rw [shown]
    exact .inl rfl

theorem goToEditProfile_rests (app : App) (number : Nat) (tab : ProfileTab) :
    app.Rests (app.goToEditProfile number tab) := by
  rcases app.goToEditProfile_cases number tab with ⟨_, opened⟩ | opened
  · exact opened ▸ app.stop_rests number
  · rw [opened]
    exact .inl rfl

theorem profileAppears_rests (app : App) (number : Nat) : app.Rests (app.profileAppears number) := by
  unfold profileAppears
  split
  · exact app.stop_rests number
  · exact .inl rfl

theorem loadHistory_rests (app : App) (number own : Nat) : app.Rests (app.loadHistory number own) := by
  unfold loadHistory
  split
  · exact .inl rfl
  · exact .inl rfl
  · exact app.stop_rests number

theorem searched_rests (app : App) (number : Nat) (world : SearchWorld) : app.Rests (app.searched number world) := by
  unfold searched
  dsimp only
  split
  · exact .inr ⟨number, rfl⟩
  · exact .inl rfl

theorem complete_rests (app : App) (request : BrowseRequest) (reply : BrowseReply) :
    app.Rests (app.complete request reply) := by
  cases request with
  | getCategories own =>
      unfold complete
      dsimp only
      split
      · exact .inl rfl
      · rename_i screen _
        split
        · exact app.stop_rests screen.device
        · exact .inl rfl
  | getItems own categoryId =>
      unfold complete
      dsimp only
      split <;> exact .inl rfl
  | getItem own download name =>
      unfold complete
      dsimp only
      split <;> exact .inl rfl

/-- The screens hand the market events that they offer. -/
theorem Hands.offered {given : MarketEvent} (hands : app.Hands event given) : given.Offered := by
  cases hands with
  | @market given direct =>
      cases given with
      | shop made =>
          cases made with
          | gesture number made => cases made <;> first | rfl | cases direct
          | serve index answer => trivial
          | callback index uuid => trivial
      | _ => trivial
  | addItem shown ofCategory => trivial
  | _ => rfl

/-- An event hands one event to the market, or the market rests. -/
theorem Steps.hands (steps : app.Steps double link event next) :
    app.Rests next ∨ ∃ handed after, app.Hands event handed ∧ app.market.step double link handed = some after ∧
      Rests { app with market := after } next := by
  have handed {given : AppEvent} {event : MarketEvent} {left final : App} (hands : app.Hands given event)
      (taken : app.take double link event = some left) (rests : left.Rests final) :
      app.Rests final ∨ ∃ handed after, app.Hands given handed ∧ app.market.step double link handed = some after ∧
        Rests { app with market := after } final := by
    obtain ⟨after, stepped, rfl⟩ := Option.map_eq_some_iff.mp taken
    exact .inr ⟨event, after, hands, stepped, rests⟩
  cases steps with
  | market direct taken => exact handed (.market direct) taken (.inl rfl)
  | addItem shown ofCategory taken => exact handed (.addItem shown ofCategory) taken (.inl rfl)
  | addItemUncategorized shown none => exact .inl (app.stop_rests _)
  | addToBasketTapped opened taken => exact handed (.addToBasket opened) taken (.inl rfl)
  | doneButtonPressed shown page enabled taken => exact handed (.finishOnboarding shown page enabled) taken (.inl rfl)
  | saveBarButtonPressed shown page taken => exact handed (.saveProfile shown page) taken (.inl rfl)
  | logOutButtonPressed shown page taken =>
      refine handed (.logOut shown page) taken ?_
      split
      · exact profileAppears_rests _ _
      · exact .inl rfl
  | search allowed taken => exact .inl (app.searched_rests _ _)
  | didSelectSearchResult selected active => exact .inl (app.stop_rests _)
  | profileDidAppear active => exact .inl (app.profileAppears_rests _)
  | didSelectItem shown selected => exact .inl (app.showItemView_rests _ _)
  | didSelectBasketRow selected => exact .inl (app.showItemView_rests _ _)
  | rightBarButtonItemPressed shown page =>
      left
      split
      · exact .inl rfl
      · exact app.goToEditProfile_rests _ _
  | historyDidAppear shown page => exact .inl (app.loadHistory_rests _ _)
  | callback found =>
      left
      split
      · exact .inl rfl
      · exact complete_rests { app with flights := app.flights.eraseIdx _ } _ _
  | _ => exact .inl (.inl rfl)

/-- A property of the market that no stop changes holds after a step when it holds after the handed event. -/
theorem Steps.market_of (property : Market → Prop) (steps : app.Steps double link event next)
    (stop : ∀ market number, property market → property { market with shop := market.shop.stop number })
    (held : property app.market)
    (handed : ∀ given after, app.Hands event given → app.market.step double link given = some after →
      property after) : property next.market := by
  have rests {before final : App} (held : property before.market) (rests : before.Rests final) :
      property final.market := by
    rcases rests with same | ⟨number, same⟩
    · exact same ▸ held
    · exact same ▸ stop before.market number held
  rcases steps.hands with still | ⟨given, after, hands, taken, still⟩
  · exact rests held still
  · have after : property (show App from { app with market := after }).market := handed given after hands taken
    exact rests after still

/-- A property of the shop that nothing beside it changes holds after a step when it holds after the handed event. -/
theorem Steps.shop_of (property : World → Prop) (steps : app.Steps double link event next)
    (beside : ∀ world after, world.Aside after → property world → property after) (held : property app.market.shop)
    (handed : ∀ made after, app.Hands event (.shop made) → app.market.shop.step made = some after →
      property after) : property next.market.shop := by
  refine steps.market_of (fun market => property market.shop) ?_ held ?_
  · exact fun market number held => beside _ _ (World.Aside.stop market.shop number) held
  · intro given after hands taken
    by_cases ofShop : ∃ made, given = .shop made
    · obtain ⟨made, rfl⟩ := ofShop
      obtain ⟨_, shop, stepped, rfl⟩ := Market.step_shop taken
      exact handed made shop hands stepped
    · exact beside _ _ (Market.step_aside (fun made same => ofShop ⟨made, same⟩) taken) held

/-- The other events leave the lists of the browsing screens. -/
theorem Steps.sameLists (steps : app.Steps double link event next) (other : event.browses = false) :
    app.SameLists next := by
  have taken {given : MarketEvent} {left : App} (taken : app.take double link given = some left) :
      app.SameLists left := by
    obtain ⟨after, _, rfl⟩ := Option.map_eq_some_iff.mp taken
    exact ⟨rfl, rfl, rfl, rfl⟩
  have opened (number : Nat) (item : Item) : app.SameLists (app.showItemView number item) := by
    rcases app.showItemView_cases number item with ⟨_, shown⟩ | shown <;>
    · rw [shown]
      exact ⟨rfl, rfl, rfl, rfl⟩
  have appears {left : App} (same : app.SameLists left) (number : Nat) :
      app.SameLists (left.profileAppears number) := by
    unfold profileAppears
    split <;> exact ⟨same.categories, same.tables, same.histories, same.flights⟩
  cases steps with
  | market direct stepped => exact taken stepped
  | addItem shown ofCategory stepped => exact taken stepped
  | addToBasketTapped opened stepped => exact taken stepped
  | doneButtonPressed shown page enabled stepped => exact taken stepped
  | saveBarButtonPressed shown page stepped => exact taken stepped
  | logOutButtonPressed shown page stepped =>
      split
      · exact appears (taken stepped) _
      · exact taken stepped
  | profileDidAppear active => exact appears ⟨rfl, rfl, rfl, rfl⟩ _
  | search allowed stepped =>
      unfold searched
      dsimp only
      split <;> exact ⟨rfl, rfl, rfl, rfl⟩
  | @rightBarButtonItemPressed number tab shown page =>
      split
      · exact ⟨rfl, rfl, rfl, rfl⟩
      · rcases app.goToEditProfile_cases number tab with ⟨_, edited⟩ | edited <;>
        · rw [edited]
          exact ⟨rfl, rfl, rfl, rfl⟩
  | addItemUncategorized shown none => exact ⟨rfl, rfl, rfl, rfl⟩
  | didSelectItem shown selected => exact opened _ _
  | didSelectBasketRow selected => exact opened _ _
  | didSelectSearchResult selected active => exact ⟨rfl, rfl, rfl, rfl⟩
  | finishRegistrationTapped shown page enabled => exact ⟨rfl, rfl, rfl, rfl⟩
  | textFieldDidChange shown page => exact ⟨rfl, rfl, rfl, rfl⟩
  | back shown => exact ⟨rfl, rfl, rfl, rfl⟩
  | _ => cases other

end App

end ShoppingApp
