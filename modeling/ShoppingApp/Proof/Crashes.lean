import ShoppingApp.Library.Moments
import ShoppingApp.Proof.SearchTabs

namespace ShoppingApp

/-- Every hit that Algolia has listed has an identifier. -/
def SearchFlight.Named (flight : SearchFlight) : Prop :=
  ∀ objectIds, flight.reply = some (.hits objectIds) → ∃ names, objectIds.mapM id = some names

/-- What the app unwraps by force is there: in the stored items, the records, the baskets, the tabs, and the hits. -/
structure App.Healthy (link : StoragePath → String) (app : App) : Prop where
  illustrated : ∃ past, app.market.Illustrated link past
  traced : ∃ past, app.market.Traced past
  copied : app.market.shop.Copied
  tabs : app.Tabs
  named : ∀ number, ∀ flight ∈ app.searching number, flight.Named

/-- A stored item has all of its properties. -/
theorem Market.Illustrated.whole {market : Market} {link : StoragePath → String} {past : List UploadEntry}
    (illustrated : market.Illustrated link past) {item : Item} (keeps : market.shop.store.Keeps item) : item.Whole := by
  obtain ⟨name, data, stored, rfl, _⟩ := keeps
  obtain ⟨_, publication, _, _, rfl⟩ := illustrated.stored name data stored
  rw [Item.ofDictionary_itemDictionaryFrom]
  exact ⟨rfl, rfl, rfl⟩

/-- A stored basket has its name and its items. -/
theorem Market.Traced.basket {market : Market} {past : List BasketTrace} (traced : market.Traced past) {name : String}
    {data : Dictionary} (stored : market.shop.store.data .basket name = some data) :
    (Basket.ofDictionary data).Whole := by
  obtain ⟨_, hasId, _, hasItems⟩ := (traced.shop.baskets name data stored).wellFormed
  exact ⟨hasId, hasItems⟩

/-- A cached record decodes. -/
theorem Market.Traced.currentUser {market : Market} {past : List BasketTrace} (traced : market.Traced past)
    (number : Nat) : (market.shop.devices number).currentUser ≠ none := by
  unfold Device.currentUser
  split
  · rename_i uid record _ cached
    obtain ⟨userId, _, ofAccount⟩ := traced.users.cached number trivial record cached
    obtain ⟨user, decoded, _⟩ := Dictionary.OfAccount.decodes ofAccount
    rw [decoded]
    exact Option.some_ne_none _
  · exact Option.some_ne_none _

/-- A step of the market keeps the copies whole. -/
theorem Market.step_copied {market next : Market} {double : String → Option Double} {link : StoragePath → String}
    {event : MarketEvent} {past : List BasketTrace} (traced : market.Traced past) (copied : market.shop.Copied)
    (taken : market.step double link event = some next) : next.shop.Copied := by
  by_cases ofShop : ∃ made, event = .shop made
  · obtain ⟨made, rfl⟩ := ofShop
    obtain ⟨_, shop, stepped, rfl⟩ := step_shop taken
    exact copied.step (fun name data stored => traced.basket stored) stepped
  · exact (step_aside (fun made same => ofShop ⟨made, same⟩) taken).copied copied fun number => step_trapped taken

/-- A search that runs meets hits with identifiers, and it stops nothing. -/
theorem SearchWorld.step_named {world next : SearchWorld} {event : SearchEvent}
    (named : ∀ flight ∈ world.flights, flight.Named)
    (listed : ∀ index objectIds, event = .serve index (.hits objectIds) → ∃ names, objectIds.mapM id = some names)
    (taken : world.step event = some next) :
    (∀ flight ∈ next.flights, flight.Named) ∧ next.screen.trapped = world.screen.trapped := by
  have issued {added : List SearchFlight} (waiting : ∀ flight ∈ added, flight.reply = none) :
      ∀ flight ∈ added, flight.Named := by
    intro flight member objectIds replied
    rw [waiting flight member] at replied
    cases replied
  cases event with
  | searchButtonPressed text =>
      obtain ⟨_, rfl⟩ := step_searchButtonPressed.mp taken
      unfold perform SearchScreen.searchButtonPressed
      split
      · refine ⟨Pool.forall_append named (issued fun flight member => ?_), rfl⟩
        rw [List.mem_singleton.mp member]
      · exact ⟨Pool.forall_append named fun flight member => absurd member List.not_mem_nil, rfl⟩
  | serve index answer =>
      obtain ⟨search, request, reply, found, answered, rfl⟩ := step_serve.mp taken
      refine ⟨Pool.forall_set named fun objectIds replied => ?_, rfl⟩
      obtain rfl := Option.some.inj replied
      cases answer with
      | hits hits =>
          cases request with
          | searchAlgolia text =>
              cases answered
              exact listed index objectIds rfl
          | getItem name => cases answered
      | failure => cases request <;> cases answered
      | success => cases request <;> cases answered
  | callback index =>
      obtain ⟨search, request, reply, found, rfl⟩ := step_callback.mp taken
      have erased : ∀ flight ∈ world.flights.eraseIdx index, flight.Named := Pool.forall_eraseIdx named
      split
      · exact ⟨erased, rfl⟩
      · have completed : (∀ flight ∈ (complete world.screen search request reply).2, flight.reply = none) ∧
            (complete world.screen search request reply).1.trapped = world.screen.trapped := by
          cases request with
          | searchAlgolia text =>
              unfold complete
              dsimp only
              rcases SearchScreen.searchCompletion_cases search reply world.screen with
                loads | ⟨⟨objectIds, rfl, uncast⟩, _⟩
              · refine ⟨fun flight member => ?_, loads.reads.1⟩
                obtain ⟨itemId, rfl⟩ := loads.reads.2 flight member
                rfl
              · obtain ⟨names, has⟩ := named _ (List.mem_of_getElem? found) objectIds rfl
                rw [has] at uncast
                cases uncast
          | getItem name =>
              cases reply with
              | document read =>
                  refine ⟨fun flight member => absurd member List.not_mem_nil, ?_⟩
                  unfold complete SearchScreen.itemCompletion
                  dsimp only
                  split
                  · rfl
                  · exact (deliver_keeps _ _).2.2
              | _ => exact ⟨fun flight member => absurd member List.not_mem_nil, rfl⟩
        exact ⟨Pool.forall_append erased (issued completed.1), completed.2⟩

/-- A step of whole data stops a running application exactly in the listed cases. -/
theorem Market.stops_iff {market next : Market} {double : String → Option Double} {link : StoragePath → String}
    {event : MarketEvent} {number : Nat} (whole : market.shop.Whole)
    (running : (market.shop.devices number).trapped = false) (taken : market.step double link event = some next)
    (account : ∀ made, event = .shop (.gesture number made) → made.savesProfile = true →
      (market.shop.devices number).auth ≠ none) :
    (next.shop.devices number).trapped = true ↔ market.Stops number event := by
  by_cases ofShop : ∃ made, event = .shop made
  · obtain ⟨made, rfl⟩ := ofShop
    obtain ⟨_, shop, stepped, rfl⟩ := step_shop taken
    have exact := whole.step_trapped_iff running stepped fun gesture same => account gesture (congrArg _ same)
    refine exact.trans ⟨.shop, fun stops => ?_⟩
    cases stops with
    | shop stops => exact stops
  · rw [step_trapped_iff (fun made same => ofShop ⟨made, same⟩) taken, running]
    simp

namespace App

variable {app next : App} {double : String → Option Double} {link : StoragePath → String} {event : AppEvent}
  {number : Nat}

/-- The running applications of a healthy app have whole data. -/
theorem Healthy.whole (healthy : app.Healthy link) (lists : app.Lists app.market.shop.store.Keeps) :
    app.market.shop.Whole := by
  obtain ⟨_, illustrated⟩ := healthy.illustrated
  obtain ⟨_, traced⟩ := healthy.traced
  have items := lists.shop.mono fun item keeps => illustrated.whole keeps
  refine ⟨fun number running => ⟨traced.currentUser number, items.devices number, ?_⟩, fun flight member => ?_⟩
  · exact healthy.copied.copies number running
  · exact ⟨items.flights flight member, healthy.copied.flights flight member⟩

/-- The forms of the profile tab are opened for a signed-in user. -/
theorem Tabs.account (tabs : app.Tabs) {given : MarketEvent} (hands : app.Hands event given) :
    ∀ made, given = .shop (.gesture number made) → made.savesProfile = true → (app.device number).auth ≠ none := by
  have opened {device : Nat} {tab : ProfileTab} (shown : app.tab device = some tab) (page : tab.page ≠ .profile) :
      (app.device device).auth ≠ none := by
    refine ((tabs.session device tab (tab_profiles shown)).resolve_left ?_).auth
    rintro rfl
    exact page rfl
  rintro made rfl edits
  cases hands with
  | market direct => cases made <;> simp_all [Gesture.savesProfile, MarketEvent.direct, Gesture.direct]
  | addToBasket opened => cases edits
  | finishOnboarding shown page enabled => exact opened shown (by rw [page]; simp)
  | saveProfile shown page => exact opened shown (by rw [page]; simp)
  | logOut shown page => cases edits

/-- Algolia lists identifiers alone. -/
theorem listed_of_allows {made : SearchEvent} (allowed : app.Allows number made) :
    ∀ index objectIds, made = .serve index (.hits objectIds) → ∃ names, objectIds.mapM id = some names := by
  rintro index objectIds rfl
  have each : ∀ objectId ∈ objectIds, ∃ name ∈ objectId, (app.market.algolia.get? name).isSome := allowed
  clear allowed
  induction objectIds with
  | nil => exact ⟨[], rfl⟩
  | cons objectId rest ih =>
      obtain ⟨name, rfl, _⟩ := each objectId List.mem_cons_self
      obtain ⟨names, has⟩ := ih fun later member => each later (List.mem_cons_of_mem _ member)
      exact ⟨name :: names, by simp [has]⟩

/-- A step keeps the app healthy. -/
theorem Healthy.step (healthy : app.Healthy link) (steps : app.Steps double link event next) : next.Healthy link := by
  obtain ⟨illustrated, ⟨past, traced⟩, copied, tabs, named⟩ := healthy
  refine ⟨steps.illustrated illustrated, ?_, ?_, tabs.step steps, ?_⟩
  · refine steps.market_of (fun market => ∃ past, market.Traced past) ?_ ⟨past, traced⟩ ?_
    · rintro market stopped ⟨past, traced⟩
      have beside := World.Beside.stop market.shop stopped
      exact ⟨past, beside.traced traced.shop, beside.recorded traced.users, traced.saves.of_shop rfl rfl rfl,
        traced.used, traced.unique⟩
    · exact fun given after hands taken => ⟨_, (traced.step hands.offered taken).1⟩
  · refine steps.market_of (fun market => market.shop.Copied) ?_ copied ?_
    · intro market stopped held
      refine (World.Aside.stop market.shop stopped).copied held fun number running => ?_
      rw [Bool.eq_false_iff] at running ⊢
      exact fun trapped => running ((market.shop.stop_trapped_iff stopped number).mpr (.inl trapped))
    · exact fun given after _ taken => Market.step_copied traced copied taken
  · by_cases searches : ∃ device made, event = .search device made
    · obtain ⟨device, made, rfl⟩ := searches
      cases steps with
      | @search _ _ world allowed taken =>
          have after := (SearchWorld.step_named (named device) (listed_of_allows allowed) taken).1
          rw [(app.searched_tabs device world).2]
          exact (Function.forall_update_iff app.searching fun _ flights => ∀ flight ∈ flights, flight.Named).mpr
            ⟨after, fun other _ => named other⟩
    · exact (steps.sameSearches fun device made same => searches ⟨device, made, same⟩).searching ▸ named

theorem Healthy.start : App.start.Healthy link := by
  have empty : App.start.market.Empty := ⟨fun _ _ => rfl, fun _ => rfl, fun _ => rfl, rfl, rfl⟩
  refine ⟨Illustrated.start, ⟨[], empty.traced⟩, ⟨fun number _ basket has => ?_, ?_⟩, .start, ?_⟩
  · cases has
  · exact fun flight member => absurd member List.not_mem_nil
  · exact fun number flight member => absurd member List.not_mem_nil

theorem Healthy.run {events : List AppEvent} (healthy : app.Healthy link)
    (ran : app.run double link events = some next) : next.Healthy link :=
  Transition.run_invariant (Healthy link) (fun _ _ _ healthy _ taken => healthy.step (steps_of_step taken)) healthy
    (.of_all (fun _ _ => trivial) app events) ran

/-- The profile tab of a record that decodes stops nothing. -/
theorem profileAppears_market {device : Nat} (decodes : (app.device device).currentUser ≠ none) :
    (app.profileAppears device).market = app.market := by
  rcases app.profileAppears_turns device with ⟨undecoded, _⟩ | ⟨user, _, same⟩
  · exact absurd undecoded decodes
  · rw [same]

/-- The screen of an item with a price stops nothing. -/
theorem showItemView_market {device : Nat} {item : Item} (priced : item.price.isSome) :
    (app.showItemView device item).market = app.market := by
  rcases app.showItemView_cases device item with ⟨free, _⟩ | shown
  · rw [free] at priced
    cases priced
  · rw [shown]

/-- A completion of a browsing screen stops nothing when its categories decode. -/
theorem complete_market (app : App) {kind : Category → Prop} {request : BrowseRequest} {reply : BrowseReply}
    (carried : BrowseFlight.Categorized kind ⟨request, some reply⟩) :
    (app.complete request reply).market = app.market := by
  cases request with
  | getCategories own =>
      unfold complete
      dsimp only
      split
      · rfl
      · rename_i screen _
        obtain ⟨changed, completed, _⟩ := Categorized.shown screen carried
        rw [completed]
  | getItems own categoryId =>
      unfold complete
      dsimp only
      split <;> rfl
  | getItem own download name =>
      unfold complete
      dsimp only
      split <;> rfl

/-- The history of a signed-in user loads. -/
theorem loadHistory_market {device own : Nat} (decodes : (app.device device).currentUser ≠ none)
    (signedIn : (app.device device).SignedIn) (opened : own < app.histories.length) :
    (app.loadHistory device own).market = app.market := by
  unfold loadHistory
  split
  · rfl
  · rfl
  · rename_i first second
    have somebody := Device.currentUser_ne_iff.mpr ⟨signedIn.auth, signedIn.defaults⟩
    cases current : (app.device device).currentUser with
    | none => exact absurd current decodes
    | some user =>
        cases user with
        | none => exact absurd current somebody
        | some user => exact absurd (List.getElem?_eq_getElem opened) (first user _ current)

/-- In a healthy app the listed events alone stop a running application. -/
theorem Healthy.step_trapped_iff (healthy : app.Healthy link) (sound : app.Sound)
    (categorized : app.Categorized app.market.shop.store.KeepsCategory)
    (running : (app.device number).trapped = false) (steps : app.Steps double link event next) :
    (next.device number).trapped = true ↔ app.Stops number event := by
  have whole := healthy.whole sound.lists
  have decodes (device : Nat) : (app.device device).currentUser ≠ none := by
    obtain ⟨_, traced⟩ := healthy.traced
    exact traced.currentUser device
  have priced {item : Item} (keeps : app.market.shop.store.Keeps item) : item.price.isSome := by
    obtain ⟨_, illustrated⟩ := healthy.illustrated
    exact (illustrated.whole keeps).price
  have kept (same : next.market = app.market) (never : ¬ app.Stops number event) :
      (next.device number).trapped = true ↔ app.Stops number event := by
    rw [App.device, same]
    change (app.device number).trapped = true ↔ _
    rw [running]
    exact ⟨fun impossible => (by cases impossible), fun stops => absurd stops never⟩
  have handed {given : MarketEvent} {left : App} (hands : app.Hands event given)
      (taken : app.take double link given = some left) :
      (left.device number).trapped = true ↔ app.market.Stops number given := by
    obtain ⟨after, stepped, rfl⟩ := Option.map_eq_some_iff.mp taken
    exact Market.stops_iff whole running stepped (healthy.tabs.account hands)
  -- A gesture of an item screen or of the profile tab stops nothing.
  have safe {made : Gesture} {device : Nat} {left : App} (hands : app.Hands event (.shop (.gesture device made)))
      (taken : app.take double link (.shop (.gesture device made)) = some left)
      (never : ∀ device, ¬ made.Stops device) :
      (left.device number).trapped = false := by
    refine Bool.eq_false_iff.mpr fun stopped => ?_
    cases (handed hands taken).mp stopped with
    | shop stops =>
        cases stops with
        | gesture stops => exact never _ stops
  have unlisted (alive : (next.device number).trapped = false) (never : ¬ app.Stops number event) :
      (next.device number).trapped = true ↔ app.Stops number event := by
    rw [alive]
    exact ⟨fun impossible => (by cases impossible), fun stops => absurd stops never⟩
  cases steps with
  | market direct taken =>
      refine (handed (.market direct) taken).trans ⟨.market, fun stops => ?_⟩
      cases stops with
      | market stops => exact stops
  | addItem shown ofCategory taken =>
      refine unlisted (Bool.eq_false_iff.mpr fun stopped => ?_) fun stops => by cases stops
      cases (handed (.addItem shown ofCategory) taken).mp stopped
  | addItemUncategorized shown none =>
      obtain ⟨category, has, _⟩ := categorized.tables _ (List.mem_of_getElem? shown)
      rw [none] at has
      cases has
  | addToBasketTapped opened taken =>
      exact unlisted (safe (.addToBasket opened) taken fun _ => id) fun stops => by cases stops
  | doneButtonPressed shown page enabled taken =>
      exact unlisted (safe (.finishOnboarding shown page enabled) taken fun _ => id) fun stops => by cases stops
  | saveBarButtonPressed shown page taken =>
      exact unlisted (safe (.saveProfile shown page) taken fun _ => id) fun stops => by cases stops
  | @logOutButtonPressed device signedOut tab left shown page taken =>
      have alive := safe (.logOut shown page) taken fun _ => id
      refine unlisted ?_ fun stops => by cases stops
      split
      · rename_i out
        subst out
        have nobody := take_logOut taken
        rw [App.device, profileAppears_market (nobody ▸ Option.some_ne_none none)]
        exact alive
      · exact alive
  | @search device event world allowed taken =>
      refine unlisted ?_ fun stops => by cases stops
      have screen := (SearchWorld.step_named (healthy.named device) (listed_of_allows allowed) taken).2
      unfold searched
      dsimp only
      split
      · rename_i stopped
        have before : (app.device device).trapped = true := screen.symm.trans stopped
        refine Bool.eq_false_iff.mpr fun trapped => ?_
        rcases (app.market.shop.stop_trapped_iff device number).mp trapped with already | same
        · exact absurd already (Bool.eq_false_iff.mp running)
        · subst same
          exact absurd before (Bool.eq_false_iff.mp running)
      · exact running
  | @didSelectSearchResult device row item selected active =>
      refine (app.market.shop.stop_trapped_iff device number).trans ⟨?_, fun stops => ?_⟩
      · rintro (already | rfl)
        · exact absurd already (Bool.eq_false_iff.mp running)
        · exact .showItemView
      · cases stops
        exact .inr rfl
  | profileDidAppear active => exact kept (profileAppears_market (decodes _)) fun stops => by cases stops
  | didSelectItem shown selected =>
      have stored := sound.lists.tables _ (List.mem_of_getElem? shown) _ (List.mem_of_getElem? selected)
      exact kept (showItemView_market (priced stored)) fun stops => by cases stops
  | didSelectBasketRow selected =>
      have stored := (sound.lists.shop.devices _).rows _ (List.mem_of_getElem? selected)
      exact kept (showItemView_market (priced stored)) fun stops => by cases stops
  | @rightBarButtonItemPressed device tab shown page =>
      refine kept ?_ fun stops => by cases stops
      split
      · rfl
      · rcases app.goToEditProfile_cases device tab with ⟨undecoded, _⟩ | opened
        · exact absurd undecoded (decodes device)
        · rw [opened]
          rfl
  | @historyDidAppear device own tab shown page =>
      have present := tab_profiles shown
      have signedIn : (app.device device).SignedIn := by
        refine (healthy.tabs.session device tab present).resolve_left ?_
        rintro rfl
        cases page
      exact kept (loadHistory_market (decodes device) signedIn (healthy.tabs.histories device tab present own page))
        fun stops => by cases stops
  | @callback index request reply found =>
      refine kept ?_ fun stops => by cases stops
      split
      · rfl
      · exact complete_market { app with flights := app.flights.eraseIdx index }
          (categorized.flights _ (List.mem_of_getElem? found))
  | _ => exact kept rfl fun stops => by cases stops

end App

end ShoppingApp
