import ShoppingApp.Proof.References

namespace ShoppingApp

/-- The category is the one that the store keeps under its identifier. -/
def Store.KeepsCategory (store : Store) (category : Category) : Prop :=
  ∃ data, store.data .category category.id = some data ∧ Category.ofDictionary data = some category

def Store.HasCategory (store : Store) (categoryId : String) : Prop :=
  ∃ data, store.data .category categoryId = some data

/-- The item has a category, and the category is known. -/
def Item.InCategory (known : String → Prop) (item : Item) : Prop :=
  ∃ categoryId, item.categoryId = some categoryId ∧ known categoryId

/-- The forms, the publications, and the documents belong to known categories. -/
structure Market.Categorized (known : String → Prop) (market : Market) : Prop where
  screens : ∀ screen ∈ market.screens, known screen.category.id
  publications : ∀ publication ∈ market.publications, publication.item.InCategory known
  documents : ∀ document ∈ market.documents, (Item.ofDictionary document.2).InCategory known
  stored : ∀ name data, market.shop.store.data .items name = some data → (Item.ofDictionary data).InCategory known

/-- An answer to a query for categories has categories of this kind. -/
def BrowseFlight.Categorized (kind : Category → Prop) (flight : BrowseFlight) : Prop :=
  match flight.request with
  | .getCategories _ => ∀ documents, flight.reply = some (.documents documents) →
      ∀ data ∈ documents, ∃ category, Category.ofDictionary data = some category ∧ kind category
  | _ => True

/-- The categories on the screens are of this kind, and every table shows one. -/
structure App.Categorized (kind : Category → Prop) (app : App) : Prop where
  categories : ∀ screen ∈ app.categories, ∀ category ∈ screen.categoryArray, kind category
  tables : ∀ table ∈ app.tables, ∃ category, table.category = some category ∧ kind category
  flights : ∀ flight ∈ app.flights, flight.Categorized kind

variable {known wider : String → Prop} {kind broader : Category → Prop} {double : String → Option Double}
  {link : StoragePath → String}

theorem Item.InCategory.mono {item : Item} (inCategory : item.InCategory known) (grows : ∀ id, known id → wider id) :
    item.InCategory wider := by
  obtain ⟨categoryId, has, isKnown⟩ := inCategory
  exact ⟨categoryId, has, grows categoryId isKnown⟩

/-- The written item is in the category of the item. -/
theorem Item.InCategory.encoded {item : Item} (inCategory : item.InCategory known) :
    (Item.ofDictionary (itemDictionaryFrom item)).InCategory known := by
  obtain ⟨categoryId, has, isKnown⟩ := inCategory
  refine ⟨categoryId, ?_, isKnown⟩
  rw [Item.ofDictionary_itemDictionaryFrom, has]
  rfl

/-- The item of a form is in the category of the screen. -/
theorem AddItemScreen.saveToFireStore_category {connected : Bool} {uuids : String × String} {own number : Nat}
    {screen : AddItemScreen} {outcome : PublishOutcome}
    (handled : screen.saveToFireStore double connected uuids own number = outcome) :
    outcome.publication.item.categoryId = some screen.category.id ∧ outcome.screen.category = screen.category := by
  rw [← handled]
  unfold saveToFireStore
  dsimp only
  split
  · split <;> exact ⟨rfl, rfl⟩
  · exact ⟨rfl, rfl⟩

/-- A reported image leaves the category. -/
theorem Publication.imageSaved_category {number : Nat} {uuid : String} {imageLink : Option String}
    {screen : AddItemScreen} {publication : Publication} {outcome : PublishOutcome}
    (handled : publication.imageSaved number uuid imageLink screen = outcome) :
    outcome.publication.item.categoryId = publication.item.categoryId ∧
      outcome.screen.category = screen.category ∧ outcome.publication.screen = publication.screen := by
  rw [← handled]
  unfold imageSaved
  cases imageLink with
  | none => exact ⟨rfl, rfl, rfl⟩
  | some imageLink =>
      dsimp only
      split <;> exact ⟨rfl, rfl, rfl⟩

namespace Market

variable {market next : Market} {event : MarketEvent}

/-- A screen keeps its category, and a new one has the category that it was opened for. -/
theorem screens_of_step (taken : market.step double link event = some next) :
    ∀ screen ∈ next.screens, (∃ old ∈ market.screens, old.category = screen.category) ∨
      ∃ device, event = .openAddItem device screen.category := by
  have same : ∀ screen ∈ market.screens, (∃ old ∈ market.screens, old.category = screen.category) ∨
      ∃ device, event = .openAddItem device screen.category := fun screen member => .inl ⟨screen, member, rfl⟩
  have changed {own : Nat} {old new : AddItemScreen} (present : old ∈ market.screens)
      (kept : new.category = old.category) :
      ∀ screen ∈ market.screens.set own new, (∃ old ∈ market.screens, old.category = screen.category) ∨
        ∃ device, event = .openAddItem device screen.category :=
    Pool.forall_set same (.inl ⟨old, present, kept.symm⟩)
  have edited {own : Nat} {change : AddItemScreen → AddItemScreen} (taken : market.edit own change = some next)
      (kept : ∀ screen, (change screen).category = screen.category) : ∀ screen ∈ next.screens,
        (∃ old ∈ market.screens, old.category = screen.category) ∨
          ∃ device, event = .openAddItem device screen.category := by
    obtain ⟨screen, found, taken⟩ := Option.bind_eq_some_iff.mp taken
    split at taken
    · obtain rfl := Option.some.inj taken
      exact changed (List.mem_of_getElem? found) (kept screen)
    · cases taken
  cases event with
  | shop made =>
      obtain ⟨_, shop, _, rfl⟩ := step_shop taken
      exact same
  | openAddItem device category =>
      obtain rfl := Option.some.inj taken
      refine Pool.forall_append same fun screen member => .inr ⟨device, ?_⟩
      rw [List.mem_singleton.mp member]
  | editFields own title price description => exact edited taken fun _ => rfl
  | cameraButtonWasTapped own => exact edited taken fun _ => rfl
  | didSelectImages own resolvedImages =>
      refine edited taken fun screen => ?_
      split <;> rfl
  | doneButtonWasTapped own connected uuids =>
      obtain ⟨screen, found, _, ⟨_, rfl⟩ | ⟨_, _, _, _, rfl⟩⟩ := step_doneButtonWasTapped taken
      · exact same
      · exact changed (List.mem_of_getElem? found) (AddItemScreen.saveToFireStore_category rfl).2
  | saveCategoryToFireStore category uuid =>
      obtain ⟨_, rfl⟩ := step_saveCategoryToFireStore taken
      exact same
  | serve index succeeds =>
      obtain ⟨request, _, ⟨_, rfl⟩ | ⟨_, rfl⟩⟩ := step_serve taken
      · cases request <;> exact same
      · exact same
  | callback index uuid =>
      obtain ⟨request, reply, _, _, ⟨_, rfl⟩ | ⟨_, rfl⟩⟩ := step_callback taken
      · exact same
      · rcases complete_cases uuid { market with
            flights := market.flights.eraseIdx index, used := uuid :: market.used } request reply with
          ⟨number, fileName, imageLink, _, _, _, completed⟩ |
            ⟨_, ⟨number, fileName, imageData, _, _, completed⟩ | completed⟩
        · rw [completed]
          rcases imageSaved_cases uuid number imageLink { market with
              flights := market.flights.eraseIdx index, used := uuid :: market.used } with
            silent | ⟨publication, screen, _, shown, saved⟩
          · rw [silent]
            exact same
          · rw [saved]
            exact changed (List.mem_of_getElem? shown) (Publication.imageSaved_category rfl).2.1
        · rw [completed]
          exact same
        · rw [completed]
          exact same

namespace Categorized

theorem mono (categorized : market.Categorized known) (grows : ∀ id, known id → wider id) : market.Categorized wider :=
  ⟨fun screen member => grows _ (categorized.screens screen member),
    fun publication member => (categorized.publications publication member).mono grows,
    fun document member => (categorized.documents document member).mono grows,
    fun name data stored => (categorized.stored name data stored).mono grows⟩

/-- Everything that is published stays in known categories while the forms are opened for known ones. -/
theorem step (categorized : market.Categorized known)
    (opened : ∀ device category, event = .openAddItem device category → known category.id)
    (taken : market.step double link event = some next) : next.Categorized known := by
  have screens : ∀ screen ∈ next.screens, known screen.category.id := by
    intro screen member
    rcases screens_of_step taken screen member with ⟨old, present, same⟩ | ⟨device, same⟩
    · exact same ▸ categorized.screens old present
    · exact opened device screen.category same
  have stored : ∀ name data, next.shop.store.data .items name = some data →
      (Item.ofDictionary data).InCategory known := by
    intro name data found
    rcases stored_of_step taken found with old | ⟨number, onItsWay⟩
    · exact categorized.stored name data old
    · exact categorized.documents (number, data) onItsWay
  rcases step_documents taken with ⟨_, publications, fewer⟩ |
    ⟨own, connected, uuids, screen, outcome, shown, saved, _, publications, documents⟩ |
    ⟨number, publication, screen, uuid, imageLink, outcome, present, _, saved, _, publications, fewer⟩
  · exact ⟨screens, publications ▸ categorized.publications, fun document member =>
      categorized.documents document (fewer member), stored⟩
  · have inCategory : outcome.publication.item.InCategory known :=
      ⟨_, (AddItemScreen.saveToFireStore_category saved).1, categorized.screens screen (List.mem_of_getElem? shown)⟩
    refine ⟨screens, ?_, ?_, stored⟩
    · rw [publications]
      exact Pool.forall_append categorized.publications fun other member => List.mem_singleton.mp member ▸ inCategory
    · rw [documents]
      refine Pool.forall_append categorized.documents fun document member => ?_
      rw [((AddItemScreen.saveToFireStore_saves saved).2 document member).1]
      exact inCategory.encoded
  · have inCategory : outcome.publication.item.InCategory known := by
      obtain ⟨categoryId, has, isKnown⟩ := categorized.publications publication (List.mem_of_getElem? present)
      exact ⟨categoryId, (Publication.imageSaved_category saved).1.trans has, isKnown⟩
    refine ⟨screens, ?_, fun document member => ?_, stored⟩
    · rw [publications]
      exact Pool.forall_set categorized.publications inCategory
    · rcases List.mem_append.mp (fewer member) with old | new
      · exact categorized.documents document old
      · rw [((Publication.imageSaved_saves saved).2 document new).1]
        exact inCategory.encoded

end Categorized

end Market

namespace App

variable {app next : App} {event : AppEvent}

namespace Categorized

theorem mono (categorized : app.Categorized kind) (grows : ∀ category, kind category → broader category) :
    app.Categorized broader := by
  refine ⟨fun screen member category row => grows category (categorized.categories screen member category row),
    fun table member => ?_, fun flight member => ?_⟩
  · obtain ⟨category, shown, holds⟩ := categorized.tables table member
    exact ⟨category, shown, grows category holds⟩
  · have carried := categorized.flights flight member
    obtain ⟨request, reply⟩ := flight
    cases request with
    | getCategories screen =>
        intro documents replied data inside
        obtain ⟨category, decoded, holds⟩ := carried documents replied data inside
        exact ⟨category, decoded, grows category holds⟩
    | _ => trivial

theorem congr (categorized : app.Categorized kind) {changed : App} (categories : changed.categories = app.categories)
    (tables : changed.tables = app.tables) (flights : changed.flights = app.flights) : changed.Categorized kind :=
  ⟨categories ▸ categorized.categories, tables ▸ categorized.tables, flights ▸ categorized.flights⟩

/-- A new request carries no category. -/
theorem issue (categorized : app.Categorized kind) {added : List BrowseFlight}
    (silent : ∀ flight ∈ added, flight.reply = none) :
    App.Categorized kind { app with flights := app.flights ++ added } := by
  refine ⟨categorized.categories, categorized.tables, Pool.forall_append categorized.flights fun flight member => ?_⟩
  have waits := silent flight member
  obtain ⟨request, reply⟩ := flight
  cases request with
  | getCategories screen =>
      intro documents replied
      rw [waits] at replied
      cases replied
  | _ => trivial

theorem answered {store : Store} (kept : ∀ name data, store.data .category name = some data →
      ∃ category, Category.ofDictionary data = some category ∧ kind category) (request : BrowseRequest)
    (succeeds : Bool) :
    BrowseFlight.Categorized kind ⟨request, some (if succeeds then store.browse request else .failed)⟩ := by
  cases request with
  | getCategories screen =>
      intro documents replied data member
      cases succeeds with
      | false => cases replied
      | true =>
          obtain rfl := BrowseReply.documents.inj (Option.some.inj replied)
          obtain ⟨⟨name, found⟩, inside, rfl⟩ := List.mem_map.mp member
          exact kept name found (Documents.get?_eq_some.mpr inside)
  | _ => trivial

/-- The grid shows the answered categories, and none of them stops the application. -/
theorem shown (screen : CategoryScreen) {own : Nat} {reply : BrowseReply}
    (carried : BrowseFlight.Categorized kind ⟨.getCategories own, some reply⟩) :
    ∃ changed, screen.categoriesCompletion reply = some changed ∧ changed.device = screen.device ∧
      ∀ category ∈ changed.categoryArray, kind category := by
  have nothing : ∃ changed, some { screen with categoryArray := [] } = some changed ∧ changed.device = screen.device ∧
      ∀ category ∈ changed.categoryArray, kind category :=
    ⟨_, rfl, rfl, fun category member => absurd member List.not_mem_nil⟩
  cases reply with
  | documents documents =>
      have decodes : ∀ listed : List Dictionary, listed ⊆ documents → ∃ categories,
          listed.mapM Category.ofDictionary = some categories ∧ ∀ category ∈ categories, kind category := by
        intro listed
        induction listed with
        | nil => exact fun _ => ⟨[], rfl, fun category member => absurd member List.not_mem_nil⟩
        | cons data rest ih =>
            intro inside
            obtain ⟨category, decoded, holds⟩ := carried documents rfl data (inside List.mem_cons_self)
            obtain ⟨categories, others, all⟩ := ih fun later member => inside (List.mem_cons_of_mem _ member)
            refine ⟨category :: categories, by simp [List.mapM_cons, decoded, others], fun found member => ?_⟩
            rcases List.mem_cons.mp member with rfl | later
            · exact holds
            · exact all found later
      obtain ⟨categories, decoded, all⟩ := decodes documents (List.Subset.refl _)
      exact ⟨{ screen with categoryArray := categories }, by simp [CategoryScreen.categoriesCompletion, decoded], rfl,
        all⟩
  | document read => exact nothing
  | failed => exact nothing

theorem complete (categorized : app.Categorized kind) {request : BrowseRequest} {reply : BrowseReply}
    (carried : BrowseFlight.Categorized kind ⟨request, some reply⟩) :
    (app.complete request reply).Categorized kind := by
  cases request with
  | getCategories own =>
      unfold App.complete
      dsimp only
      split
      · exact categorized
      · rename_i screen present
        obtain ⟨changed, completed, _, all⟩ := shown screen carried
        rw [completed]
        exact ⟨Pool.forall_set categorized.categories all, categorized.tables, categorized.flights⟩
  | getItems own categoryId =>
      unfold App.complete
      dsimp only
      split
      · exact categorized
      · rename_i table present
        refine ⟨categorized.categories, Pool.forall_set categorized.tables ?_, categorized.flights⟩
        cases reply <;> exact categorized.tables table (List.mem_of_getElem? present)
  | getItem own download name =>
      unfold App.complete
      dsimp only
      split <;> exact categorized.congr rfl rfl rfl

/-- A step keeps the kind of the categories when the category documents are of the kind. -/
theorem step (categorized : app.Categorized kind) (steps : app.Steps double link event next)
    (kept : ∀ name data, app.market.shop.store.data .category name = some data →
      ∃ category, Category.ofDictionary data = some category ∧ kind category) : next.Categorized kind := by
  have same := steps.sameLists
  cases steps with
  | openCategories =>
      refine ⟨Pool.forall_append categorized.categories fun screen member => ?_, categorized.tables,
        categorized.flights⟩
      rw [List.mem_singleton.mp member]
      exact fun category nothing => absurd nothing List.not_mem_nil
  | categoriesDidAppear shown active =>
      exact categorized.issue fun flight member => by rw [List.mem_singleton.mp member]
  | didSelectCategory shown selected =>
      refine ⟨categorized.categories, Pool.forall_append categorized.tables fun table member => ?_,
        categorized.flights⟩
      rw [List.mem_singleton.mp member]
      exact ⟨_, rfl, categorized.categories _ (List.mem_of_getElem? shown) _ (List.mem_of_getElem? selected)⟩
  | itemsDidAppear shown active =>
      refine categorized.issue fun flight member => ?_
      obtain ⟨category, _, rfl⟩ := List.mem_map.mp member
      rfl
  | serve found =>
      exact ⟨categorized.categories, categorized.tables, Pool.forall_set categorized.flights (answered kept _ _)⟩
  | @callback index request reply found =>
      have erased : App.Categorized kind { app with flights := app.flights.eraseIdx index } :=
        ⟨categorized.categories, categorized.tables, Pool.forall_eraseIdx categorized.flights⟩
      split
      · exact erased
      · exact erased.complete (categorized.flights _ (List.mem_of_getElem? found))
  | @historyDidAppear number own tab shown page =>
      unfold loadHistory
      split
      · rename_i user history _ _
        have issued : ∀ flight ∈ (history.downloadItemsFromFirebase own user.purchasedItemIds).2.map fun request =>
            (⟨request, none⟩ : BrowseFlight), flight.reply = none := by
          intro flight member
          obtain ⟨request, _, rfl⟩ := List.mem_map.mp member
          rfl
        exact (categorized.issue issued).congr rfl rfl rfl
      · exact categorized
      · exact categorized.congr rfl rfl rfl
  | purchaseHistoryTapped shown page enabled => exact categorized.congr rfl rfl rfl
  | _ => exact categorized.congr (same rfl).categories (same rfl).tables (same rfl).flights

end Categorized

/-- The published items and the screens stay in the stored categories. -/
theorem Sound.categorized_step (sound : app.Sound) (items : app.market.Categorized app.market.shop.store.HasCategory)
    (screens : app.Categorized app.market.shop.store.KeepsCategory)
    (taken : app.step double link event = some next) :
    next.market.Categorized next.market.shop.store.HasCategory ∧
      next.Categorized next.market.shop.store.KeepsCategory := by
  have steps := steps_of_step taken
  obtain ⟨_, keeps⟩ := steps.published sound.shelved
  have hasCategory (categoryId : String) : app.market.shop.store.HasCategory categoryId →
      next.market.shop.store.HasCategory categoryId := by
    rintro ⟨data, stored⟩
    exact ⟨data, keeps (.categories, categoryId) data stored⟩
  have keepsCategory (category : Category) : app.market.shop.store.KeepsCategory category →
      next.market.shop.store.KeepsCategory category := by
    rintro ⟨data, stored, decoded⟩
    exact ⟨data, keeps (.categories, category.id) data stored, decoded⟩
  have kept : ∀ name data, app.market.shop.store.data .category name = some data →
      ∃ category, Category.ofDictionary data = some category ∧ app.market.shop.store.KeepsCategory category := by
    intro name data stored
    obtain ⟨named, category, decoded⟩ := sound.saves.categories name data stored
    have same : category.id = name := by
      simp only [Category.ofDictionary, Option.bind_eq_bind, Option.bind_eq_some_iff, Option.some.injEq] at decoded
      obtain ⟨id, hasId, _, _, rfl⟩ := decoded
      exact Option.some.inj (hasId.symm.trans named)
    exact ⟨category, decoded, data, same ▸ stored, decoded⟩
  have before := items.mono hasCategory
  refine ⟨?_, (screens.step steps kept).mono keepsCategory⟩
  refine steps.market_of (Market.Categorized next.market.shop.store.HasCategory) ?_ before ?_
  · exact fun _ _ held => ⟨held.screens, held.publications, held.documents, held.stored⟩
  · intro given after hands taken
    refine before.step ?_ taken
    rintro device category rfl
    cases hands with
    | market direct => cases direct
    | addItem shown ofCategory =>
        obtain ⟨other, has, data, stored, _⟩ := screens.tables _ (List.mem_of_getElem? shown)
        obtain rfl := Option.some.inj (ofCategory.symm.trans has)
        exact hasCategory _ ⟨data, stored⟩

/-- In every run the items and the screens are in the stored categories. -/
theorem categorized_of_run {events : List AppEvent} (ran : App.start.run double link events = some next) :
    next.market.Categorized next.market.shop.store.HasCategory ∧
      next.Categorized next.market.shop.store.KeepsCategory := by
  have held : next.Sound ∧ next.market.Categorized next.market.shop.store.HasCategory ∧
      next.Categorized next.market.shop.store.KeepsCategory := by
    refine Transition.run_invariant (fun app => app.Sound ∧ app.market.Categorized app.market.shop.store.HasCategory ∧
      app.Categorized app.market.shop.store.KeepsCategory) ?_ ⟨.start, ⟨?_, ?_, ?_, ?_⟩, ?_, ?_, ?_⟩
      (.of_all (fun _ _ => trivial) App.start events) ran
    · rintro app event next ⟨sound, items, screens⟩ _ taken
      exact ⟨sound.step taken, sound.categorized_step items screens taken⟩
    · exact fun screen member => absurd member List.not_mem_nil
    · exact fun publication member => absurd member List.not_mem_nil
    · exact fun document member => absurd member List.not_mem_nil
    · exact fun name data stored => by cases stored
    · exact fun screen member => absurd member List.not_mem_nil
    · exact fun table member => absurd member List.not_mem_nil
    · exact fun flight member => absurd member List.not_mem_nil
  exact held.2

end App

/-- In every run, each published item is in a stored category, and each category on a screen is the stored one. -/
theorem items_are_in_stored_categories (double : String → Option Double) (link : StoragePath → String) {final : App}
    {events : List AppEvent} (ran : App.start.run double link events = some final) :
    final.market.Categorized final.market.shop.store.HasCategory ∧
      final.Categorized final.market.shop.store.KeepsCategory := App.categorized_of_run ran

/-- The published item is in the saved category. -/
theorem items_are_in_stored_categories_first :
    ∃ final data categoryId, App.start.run sellerDouble sellerLink firstVisit = some final ∧
      final.market.shop.store.data .items "B" = some data ∧ (Item.ofDictionary data).categoryId = some categoryId ∧
      final.market.shop.store.HasCategory categoryId := by
  have categorized := items_are_in_stored_categories sellerDouble sellerLink
    (rfl : App.start.run sellerDouble sellerLink firstVisit = some _)
  obtain ⟨categoryId, has, stored⟩ := categorized.1.stored "B" _ rfl
  exact ⟨_, _, categoryId, rfl, rfl, has, stored⟩

end ShoppingApp
