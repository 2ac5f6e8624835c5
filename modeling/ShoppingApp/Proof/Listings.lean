import ShoppingApp.Library.Moments
import ShoppingApp.Proof.StoredCategories

namespace ShoppingApp

/-- The grid and the table ask for their lists when they appear. -/
def BrowseRequest.asking : BrowseRequest → Option AppEvent
  | .getCategories own => some (.categoriesDidAppear own)
  | .getItems own _ => some (.itemsDidAppear own)
  | .getItem _ _ _ => none

/-- The grid lists these documents. -/
def Store.categoryDocuments (store : Store) : List Dictionary := (store .category).entries.map Prod.snd

/-- The table of a category lists these documents. -/
def Store.itemDocuments (categoryId : String) (store : Store) : List Dictionary :=
  (store.itemsOf categoryId).map Prod.snd

section Snapshots

variable (double : String → Option Double) (link : StoragePath → String) (events : List AppEvent)

/-- The documents are the answer of the query at a moment after the screen had appeared. -/
def App.Snapshot (asking : AppEvent) (query : Store → List Dictionary) (documents : List Dictionary) : Prop :=
  ∃ asked served, Transition.Passes (App.step double link) App.start events asked asking served ∧
    documents = query served.market.shop.store

/-- A list in flight was asked for, and an answer was read after that. -/
def BrowseFlight.Timely (flight : BrowseFlight) : Prop :=
  ∀ asking, flight.request.asking = some asking → ∃ asked served,
    Transition.Passes (App.step double link) App.start events asked asking served ∧
      ∀ reply, flight.reply = some reply → reply = .failed ∨ reply = served.market.shop.store.browse flight.request

/-- The request for the items of a category comes from a table of the category. -/
def App.Opened (app : App) : BrowseRequest → Prop
  | .getItems own categoryId => ∃ table category, app.tables[own]? = some table ∧ table.category = some category ∧
      category.id = categoryId
  | .getCategories _ | .getItem _ _ _ => True

/-- Each list is empty or a snapshot, and the requests come from their tables. -/
structure App.Timely (app : App) : Prop where
  categories : ∀ own screen, app.categories[own]? = some screen → screen.categoryArray = [] ∨
    ∃ documents, App.Snapshot double link events (.categoriesDidAppear own) Store.categoryDocuments documents ∧
      documents.mapM Category.ofDictionary = some screen.categoryArray
  tables : ∀ own table, app.tables[own]? = some table → table.itemArray = [] ∨
    ∃ category documents, table.category = some category ∧
      App.Snapshot double link events (.itemsDidAppear own) (Store.itemDocuments category.id) documents ∧
      table.itemArray = documents.map Item.ofDictionary
  flights : ∀ flight ∈ app.flights, flight.Timely double link events
  opened : ∀ flight ∈ app.flights, app.Opened flight.request

end Snapshots

namespace App

variable {app next : App} {double : String → Option Double} {link : StoragePath → String} {event : AppEvent}
  {events : List AppEvent}

/-- A moment of a run is a moment of each longer run. -/
theorem Snapshot.append {asking : AppEvent} {query : Store → List Dictionary} {documents : List Dictionary}
    (snapshot : Snapshot double link events asking query documents) (later : List AppEvent) :
    Snapshot double link (events ++ later) asking query documents := by
  obtain ⟨asked, served, passes, read⟩ := snapshot
  exact ⟨asked, served, passes.append later, read⟩

/-- An answered list is a snapshot. -/
theorem snapshot_of_reply {flight : BrowseFlight} (timely : flight.Timely double link events) {asking : AppEvent}
    (asks : flight.request.asking = some asking) {query : Store → List Dictionary}
    (lists : ∀ store : Store, store.browse flight.request = .documents (query store)) {documents : List Dictionary}
    (replied : flight.reply = some (.documents documents)) :
    Snapshot double link events asking query documents := by
  obtain ⟨asked, served, passes, read⟩ := timely asking asks
  rcases read _ replied with failed | same
  · cases failed
  · exact ⟨asked, served, passes, BrowseReply.documents.inj (same.trans (lists _))⟩

/-- A request still comes from its table when the tables keep their categories. -/
theorem Opened.mono {request : BrowseRequest} (opened : app.Opened request)
    (kept : ∀ (own : Nat) (table : ItemsTable), app.tables[own]? = some table →
      ∃ later, next.tables[own]? = some later ∧ later.category = table.category) : next.Opened request := by
  cases request with
  | getItems own categoryId =>
      obtain ⟨table, category, present, has, named⟩ := opened
      obtain ⟨later, shown, same⟩ := kept own table present
      exact ⟨later, category, shown, same.trans has, named⟩
  | getCategories own => trivial
  | getItem history download name => trivial

namespace Timely

theorem append (timely : app.Timely double link events) (later : List AppEvent) :
    app.Timely double link (events ++ later) := by
  refine ⟨fun own screen present => ?_, fun own table present => ?_, fun flight member asking asks => ?_,
    timely.opened⟩
  · refine (timely.categories own screen present).imp id ?_
    rintro ⟨documents, snapshot, decoded⟩
    exact ⟨documents, snapshot.append later, decoded⟩
  · refine (timely.tables own table present).imp id ?_
    rintro ⟨category, documents, ofCategory, snapshot, rows⟩
    exact ⟨category, documents, ofCategory, snapshot.append later, rows⟩
  · obtain ⟨asked, served, passes, read⟩ := timely.flights flight member asking asks
    exact ⟨asked, served, passes.append later, read⟩

theorem congr (timely : app.Timely double link events) (categories : next.categories = app.categories)
    (tables : next.tables = app.tables) (flights : next.flights = app.flights) : next.Timely double link events := by
  refine ⟨categories ▸ timely.categories, tables ▸ timely.tables, flights ▸ timely.flights, fun flight member => ?_⟩
  have opened := timely.opened flight (flights ▸ member)
  exact Opened.mono opened fun own table present => ⟨table, tables ▸ present, rfl⟩

/-- New requests are timely when they are asked for now and come from their tables. -/
theorem issue (timely : app.Timely double link events) {added : List BrowseFlight}
    (asked : ∀ flight ∈ added, flight.Timely double link events)
    (opened : ∀ flight ∈ added, app.Opened flight.request) :
    App.Timely double link events { app with flights := app.flights ++ added } :=
  ⟨timely.categories, timely.tables, Pool.forall_append timely.flights asked, Pool.forall_append timely.opened opened⟩

/-- The completion shows the answered list. -/
theorem complete (timely : app.Timely double link events) {request : BrowseRequest} {reply : BrowseReply}
    (carried : BrowseFlight.Timely double link events ⟨request, some reply⟩) (opened : app.Opened request) :
    (app.complete request reply).Timely double link events := by
  cases request with
  | getCategories own =>
      unfold App.complete
      dsimp only
      split
      · exact timely
      · rename_i screen present
        split
        · exact timely.congr rfl rfl rfl
        · rename_i shown completed
          refine ⟨Pool.forall_places_set timely.categories ?_, timely.tables, timely.flights, timely.opened⟩
          cases reply with
          | documents documents =>
              obtain ⟨categories, decoded, rfl⟩ := Option.map_eq_some_iff.mp completed
              exact .inr ⟨documents, snapshot_of_reply carried rfl (fun _ => rfl) rfl, decoded⟩
          | failed =>
              obtain rfl := Option.some.inj completed
              exact .inl rfl
          | document read =>
              obtain rfl := Option.some.inj completed
              exact .inl rfl
  | getItems own categoryId =>
      obtain ⟨table, category, present, ofCategory, rfl⟩ := opened
      have same (reply : BrowseReply) : (table.itemsCompletion reply).category = table.category := by
        cases reply <;> rfl
      unfold App.complete
      dsimp only
      rw [present]
      refine ⟨timely.categories, Pool.forall_places_set timely.tables ?_, timely.flights, fun flight member => ?_⟩
      · cases reply with
        | documents documents =>
            exact .inr ⟨category, documents, ofCategory, snapshot_of_reply carried rfl (fun _ => rfl) rfl, rfl⟩
        | failed => exact .inl rfl
        | document read => exact .inl rfl
      · refine Opened.mono (timely.opened flight member) fun other found shown => ?_
        by_cases here : own = other
        · subst here
          obtain rfl := Option.some.inj (present.symm.trans shown)
          exact ⟨_, List.getElem?_set_self (List.getElem?_eq_some_iff.mp present).1, same reply⟩
        · exact ⟨found, (List.getElem?_set_ne here).trans shown, rfl⟩
  | getItem own download name =>
      unfold App.complete
      dsimp only
      split <;> exact timely.congr rfl rfl rfl

/-- A step of a run keeps the lists timely. -/
theorem step (before : app.Timely double link events) (ran : App.start.run double link events = some app)
    (taken : app.step double link event = some next) : next.Timely double link (events ++ [event]) := by
  have passes := Transition.Passes.last ran taken
  have timely := before.append [event]
  have steps := steps_of_step taken
  have same := steps.sameLists
  cases steps with
  | openCategories =>
      exact ⟨Pool.forall_places_concat timely.categories (.inl rfl), timely.tables, timely.flights, timely.opened⟩
  | categoriesDidAppear shown active =>
      refine timely.issue (fun flight member => ?_) fun flight member => ?_
      · obtain rfl := List.mem_singleton.mp member
        rintro asking ⟨⟩
        exact ⟨app, _, passes, fun reply replied => by cases replied⟩
      · obtain rfl := List.mem_singleton.mp member
        trivial
  | didSelectCategory shown selected =>
      refine ⟨timely.categories, Pool.forall_places_concat timely.tables (.inl rfl), timely.flights, ?_⟩
      refine fun flight member => Opened.mono (timely.opened flight member) fun own table present => ⟨table, ?_, rfl⟩
      exact (List.getElem?_append_left (List.getElem?_eq_some_iff.mp present).1).trans present
  | @itemsDidAppear own table shown active =>
      refine timely.issue (fun flight member => ?_) fun flight member => ?_
      · obtain ⟨category, _, rfl⟩ := List.mem_map.mp member
        rintro asking ⟨⟩
        exact ⟨app, _, passes, fun reply replied => by cases replied⟩
      · obtain ⟨category, listed, rfl⟩ := List.mem_map.mp member
        exact ⟨table, category, shown, Option.mem_toList.mp listed, rfl⟩
  | historyDidAppear shown page =>
      unfold loadHistory
      split
      · rename_i user history _ _
        refine (timely.issue (fun flight member => ?_) fun flight member => ?_).congr rfl rfl rfl
        · obtain ⟨request, issued, rfl⟩ := List.mem_map.mp member
          obtain ⟨_, _, rfl⟩ := PurchasedHistory.mem_downloadItems issued
          rintro asking ⟨⟩
        · obtain ⟨request, issued, rfl⟩ := List.mem_map.mp member
          obtain ⟨_, _, rfl⟩ := PurchasedHistory.mem_downloadItems issued
          trivial
      · exact timely
      · exact timely.congr rfl rfl rfl
  | @serve index request succeeds found =>
      have member := List.mem_of_getElem? found
      have opened := timely.opened _ member
      refine ⟨timely.categories, timely.tables, Pool.forall_set timely.flights ?_, Pool.forall_set timely.opened opened⟩
      intro asking asks
      obtain ⟨asked, _, passed, _⟩ := before.flights _ member asking asks
      refine ⟨asked, app, (passed.now ran).append [_], fun reply replied => ?_⟩
      obtain rfl := Option.some.inj replied
      cases succeeds with
      | true => exact .inr rfl
      | false => exact .inl rfl
  | @callback index request reply found =>
      have member := List.mem_of_getElem? found
      have erased : App.Timely double link (events ++ [.callback index])
          { app with flights := app.flights.eraseIdx index } :=
        ⟨timely.categories, timely.tables, Pool.forall_eraseIdx timely.flights, Pool.forall_eraseIdx timely.opened⟩
      split
      · exact erased
      · exact erased.complete (timely.flights _ member) (timely.opened _ member)
  | purchaseHistoryTapped shown page enabled => exact timely.congr rfl rfl rfl
  | _ => exact timely.congr (same rfl).categories (same rfl).tables (same rfl).flights

/-- Every run keeps its lists timely. -/
theorem run (ran : App.start.run double link events = some app) : app.Timely double link events := by
  refine Transition.run_prefix (App.Timely double link) ⟨?_, ?_, ?_, ?_⟩ ?_ ran
  · exact fun own screen present => by cases present
  · exact fun own table present => by cases present
  · exact fun flight member => absurd member List.not_mem_nil
  · exact fun flight member => absurd member List.not_mem_nil
  · exact fun events app event next ran timely taken => timely.step ran taken

end Timely

/-- A run keeps what the market has published. -/
theorem Sound.keeps (sound : app.Sound) (ran : app.run double link events = some next) (key : Shelf × String)
    (data : Dictionary) (stored : app.market.shelf key = some data) : next.market.shelf key = some data := by
  have kept : next.Sound ∧ next.market.shelf key = some data := by
    refine Transition.run_invariant (fun app => app.Sound ∧ app.market.shelf key = some data) ?_ ⟨sound, stored⟩
      (.of_all (fun _ _ => trivial) app events) ran
    rintro app event next ⟨sound, stored⟩ _ taken
    exact ⟨sound.step taken, ((steps_of_step taken).published sound.shelved).2 key data stored⟩
  exact kept.2

/-- A query that only grows lists at most what is there now and at least what was there at the request. -/
theorem Snapshot.bounds {asking : AppEvent} {query : Store → List Dictionary} {documents : List Dictionary}
    (snapshot : Snapshot double link events asking query documents)
    (ran : App.start.run double link events = some app)
    (grows : ∀ early late : App, early.Sound → ∀ events, early.run double link events = some late →
      (query early.market.shop.store).Sublist (query late.market.shop.store)) :
    ∃ asked served, Transition.Passes (App.step double link) App.start events asked asking served ∧
      documents = query served.market.shop.store ∧ (query asked.market.shop.store).Sublist documents ∧
      documents.Sublist (query app.market.shop.store) := by
  obtain ⟨asked, served, passes, rfl⟩ := snapshot
  obtain ⟨⟨before, first⟩, ⟨middle, second⟩, after, third⟩ := passes.runs ran
  have sound := Sound.start.run first
  exact ⟨asked, served, passes, rfl, grows asked served sound middle second,
    grows served app (sound.run second) after third⟩

end App

/-- In every run, a grid and a table are empty, or they show the documents of one moment after they had appeared: all
that were stored when they appeared, in the order of the store, and none that is not stored now. -/
theorem listings_are_snapshots (double : String → Option Double) (link : StoragePath → String) {final : App}
    {events : List AppEvent} (ran : App.start.run double link events = some final) :
    (∀ own screen, final.categories[own]? = some screen → screen.categoryArray = [] ∨ ∃ asked served,
      Transition.Passes (App.step double link) App.start events asked (.categoriesDidAppear own) served ∧
        served.market.shop.store.categoryDocuments.mapM Category.ofDictionary = some screen.categoryArray ∧
        asked.market.shop.store.categoryDocuments.Sublist served.market.shop.store.categoryDocuments ∧
        served.market.shop.store.categoryDocuments.Sublist final.market.shop.store.categoryDocuments) ∧
    ∀ own table, final.tables[own]? = some table → table.itemArray = [] ∨ ∃ category asked served,
      table.category = some category ∧
        Transition.Passes (App.step double link) App.start events asked (.itemsDidAppear own) served ∧
        table.itemArray = (served.market.shop.store.itemDocuments category.id).map Item.ofDictionary ∧
        (asked.market.shop.store.itemDocuments category.id).Sublist
          (served.market.shop.store.itemDocuments category.id) ∧
        (served.market.shop.store.itemDocuments category.id).Sublist
          (final.market.shop.store.itemDocuments category.id) := by
  have timely := App.Timely.run ran
  refine ⟨fun own screen present => (timely.categories own screen present).imp id ?_,
    fun own table present => (timely.tables own table present).imp id ?_⟩
  · rintro ⟨documents, snapshot, decoded⟩
    obtain ⟨asked, served, passes, rfl, early, late⟩ := snapshot.bounds ran fun early late sound events ran =>
      (Documents.entries_sublist fun name data stored =>
        sound.keeps ran (.categories, name) data stored).map Prod.snd
    exact ⟨asked, served, passes, decoded, early, late⟩
  · rintro ⟨category, documents, ofCategory, snapshot, rows⟩
    obtain ⟨asked, served, passes, rfl, early, late⟩ := snapshot.bounds ran fun early late sound events ran =>
      ((Documents.entries_sublist fun name data stored =>
        sound.keeps ran (.items, name) data stored).filter _).map Prod.snd
    exact ⟨category, asked, served, ofCategory, passes, rows, early, late⟩

/-- The table shows the one item that was stored when it appeared. -/
theorem listings_are_snapshots_first :
    ∃ (final : App) (table : ItemsTable) (served : App), App.start.run sellerDouble sellerLink firstVisit = some final ∧
      final.tables[0]? = some table ∧ table.itemArray.length = 1 ∧
      table.itemArray = (served.market.shop.store.itemDocuments "C").map Item.ofDictionary := by
  obtain ⟨final, ran⟩ : ∃ final, App.start.run sellerDouble sellerLink firstVisit = some final := ⟨_, rfl⟩
  obtain ⟨table, category, shown, one, ofCategory, named⟩ : ∃ table category, final.tables[0]? = some table ∧
      table.itemArray.length = 1 ∧ table.category = some category ∧ category.id = "C" := by
    obtain rfl := Option.some.inj ((rfl : App.start.run sellerDouble sellerLink firstVisit = some _).symm.trans ran)
    exact ⟨_, _, rfl, rfl, rfl, rfl⟩
  rcases (listings_are_snapshots sellerDouble sellerLink ran).2 0 table shown with
    none | ⟨kind, asked, served, has, _, rows, _⟩
  · rw [none] at one
    cases one
  · obtain rfl := Option.some.inj (ofCategory.symm.trans has)
    exact ⟨final, table, served, ran, shown, one, named ▸ rows⟩

end ShoppingApp
