import ShoppingApp.Library.Moments
import ShoppingApp.Proof.StoredImages

namespace ShoppingApp

/-- The stored item of a form has its texts, the price that its text gives or the default, and these links. -/
def AddItemScreen.stored (double : String → Option Double) (name : String) (imageLinks : List String)
    (screen : AddItemScreen) : Item where
  id := name
  categoryId := screen.category.id
  name := screen.titleTextField
  description := screen.descriptionTextView
  price := (double screen.priceTextField).getD .zero
  imageLinks := imageLinks

/-- The publication has the texts, the price, and the images of the form, and this is its folder. -/
structure Publication.FromForm (publication : Publication) (double : String → Option Double) (itemId : String)
    (screen : AddItemScreen) : Prop where
  folder : publication.itemId = itemId
  images : publication.images = screen.itemImages
  item : ∃ id imageLinks, publication.item =
    { id := id, categoryId := screen.category.id, name := screen.titleTextField,
      description := screen.descriptionTextView, price := double screen.priceTextField, imageLinks := imageLinks }

variable {double : String → Option Double} {link : StoragePath → String}

/-- The Done tap publishes the form as it stands. -/
theorem AddItemScreen.saveToFireStore_fromForm (connected : Bool) (uuids : String × String) (own number : Nat)
    (screen : AddItemScreen) :
    (screen.saveToFireStore double connected uuids own number).publication.FromForm double uuids.1 screen := by
  obtain ⟨itemId, images, _, _⟩ := screen.saveToFireStore_cases double connected uuids own number
  refine ⟨itemId, images, ?_⟩
  unfold saveToFireStore
  dsimp only
  split
  · split <;> exact ⟨_, _, rfl⟩
  · exact ⟨_, _, rfl⟩

/-- A reported image changes the identifier and the links alone. -/
theorem Publication.FromForm.imageSaved {publication : Publication} {itemId : String} {screen : AddItemScreen}
    (fromForm : publication.FromForm double itemId screen) (number : Nat) (uuid : String) (imageLink : Option String)
    (shown : AddItemScreen) :
    (publication.imageSaved number uuid imageLink shown).publication.FromForm double itemId screen := by
  obtain ⟨folder, images, id, imageLinks, typed⟩ := fromForm
  have album := (publication.imageSaved_album number uuid imageLink shown).1
  refine ⟨(congrArg Prod.fst album).trans folder, (congrArg Prod.snd album).trans images, ?_⟩
  unfold Publication.imageSaved
  cases imageLink with
  | none => exact ⟨id, imageLinks, typed⟩
  | some imageLink =>
      dsimp only
      split
      · exact ⟨some uuid, _, by rw [finish_eq, typed]⟩
      · exact ⟨id, imageLinks, typed⟩

namespace Market

variable {market next : Market} {event : MarketEvent}

/-- A Done tap starts a publication of its completed form, and the other steps leave what the publications have. -/
theorem publications_of_step (taken : market.step double link event = some next) :
    (∃ own connected uuids screen publication, event = .doneButtonWasTapped own connected uuids ∧
      market.screens[own]? = some screen ∧ screen.fieldsAreCompleted = true ∧
      publication.FromForm double uuids.1 screen ∧ next.publications = market.publications ++ [publication]) ∨
    ∀ after ∈ next.publications, ∃ before ∈ market.publications, ∀ itemId screen,
      before.FromForm double itemId screen → after.FromForm double itemId screen := by
  have same {publications : List Publication} (kept : publications = market.publications) :
      ∀ after ∈ publications, ∃ before ∈ market.publications, ∀ itemId screen,
        before.FromForm double itemId screen → after.FromForm double itemId screen :=
    fun after member => ⟨after, kept ▸ member, fun _ _ => id⟩
  by_cases tapped : ∃ own connected uuids, event = .doneButtonWasTapped own connected uuids
  · obtain ⟨own, connected, uuids, rfl⟩ := tapped
    obtain ⟨screen, shown, _, ⟨_, rfl⟩ | ⟨completed, _, _, _, rfl⟩⟩ := step_doneButtonWasTapped taken
    · exact .inr (same rfl)
    · refine .inl ⟨own, connected, uuids, screen, _, rfl, shown, completed,
        screen.saveToFireStore_fromForm connected uuids own market.publications.length, ?_⟩
      rw [perform, List.set_append_right _ _ (Nat.le_refl _), Nat.sub_self, List.set_cons_zero]
  · right
    rcases step_documents taken with ⟨_, publications, _⟩ | ⟨own, connected, uuids, screen, outcome, _, _, texts, _⟩ |
      ⟨number, publication, screen, uuid, imageLink, outcome, present, _, rfl, _, publications, _⟩
    · exact same publications
    · have silent : market.priceTexts event = [] := by
        cases event with
        | doneButtonWasTapped own connected uuids => exact absurd ⟨own, connected, uuids, rfl⟩ tapped
        | _ => rfl
      rw [silent] at texts
      cases texts
    · rw [publications]
      exact Pool.forall_set (same rfl) ⟨publication, List.mem_of_getElem? present, fun itemId form fromForm =>
        fromForm.imageSaved number uuid imageLink screen⟩

end Market

namespace App

variable {app : App} {events before : List AppEvent} {publication : Publication}

/-- The Done tap after the first events of the run has sent the publication from a completed form. -/
def Sent (double : String → Option Double) (link : StoragePath → String) (events before : List AppEvent)
    (publication : Publication) : Prop :=
  ∃ own connected uuids after tapped screen,
    events = before ++ .market (.doneButtonWasTapped own connected uuids) :: after ∧
    App.start.run double link before = some tapped ∧ tapped.market.screens[own]? = some screen ∧
    screen.fieldsAreCompleted = true ∧ publication.FromForm double uuids.1 screen

/-- Each publication of a run was sent by a Done tap. -/
theorem sent_of_run (ran : App.start.run double link events = some app) :
    ∀ publication ∈ app.market.publications, ∃ before, Sent double link events before publication := by
  refine Transition.run_prefix (fun events app => ∀ publication ∈ app.market.publications,
    ∃ before, Sent double link events before publication) (fun publication member => by cases member) ?_ ran
  intro events app event next ran sent taken
  have earlier : ∀ publication ∈ app.market.publications,
      ∃ before, Sent double link (events ++ [event]) before publication := by
    intro publication member
    obtain ⟨before, own, connected, uuids, after, tapped, screen, rfl, form⟩ := sent publication member
    exact ⟨before, own, connected, uuids, after ++ [event], tapped, screen, List.append_assoc .., form⟩
  refine (steps_of_step taken).market_of (fun market => ∀ publication ∈ market.publications,
    ∃ before, Sent double link (events ++ [event]) before publication) (fun _ _ => id) earlier ?_
  intro given after hands stepped publication member
  rcases Market.publications_of_step stepped with
    ⟨own, connected, uuids, screen, started, rfl, shown, completed, form, publications⟩ | kept
  · rw [publications] at member
    rcases List.mem_append.mp member with old | new
    · exact earlier publication old
    · obtain rfl := List.mem_singleton.mp new
      cases hands with
      | market direct => exact ⟨events, own, connected, uuids, [], app, screen, rfl, ran, shown, completed, form⟩
  · obtain ⟨old, present, keeps⟩ := kept publication member
    obtain ⟨before, own, connected, uuids, rest, tapped, screen, whole, ranBefore, shown, completed, form⟩ :=
      earlier old present
    exact ⟨before, own, connected, uuids, rest, tapped, screen, whole, ranBefore, shown, completed,
      keeps uuids.1 screen form⟩

/-- One Done tap sends to one folder. -/
theorem Sent.folder {other : Publication} (sent : Sent double link events before publication)
    (also : Sent double link events before other) : publication.itemId = other.itemId := by
  obtain ⟨own, connected, uuids, after, tapped, screen, rfl, _, _, _, form⟩ := sent
  obtain ⟨_, _, _, _, _, _, whole, _, _, _, same⟩ := also
  have event := (List.cons.inj (List.append_cancel_left whole)).1
  simp only [AppEvent.market.injEq, MarketEvent.doneButtonWasTapped.injEq] at event
  obtain ⟨_, _, rfl⟩ := event
  exact form.folder.trans same.folder.symm

end App

/-- In every run, each stored item has what was typed and chosen on a completed form at the moment of a Done tap, and
different items come from different taps. -/
theorem stored_items_were_typed (double : String → Option Double) (link : StoragePath → String) {final : App}
    {events : List AppEvent} (ran : App.start.run double link events = some final) :
    ∃ sentAfter : String → List AppEvent,
      (∀ name data, final.market.shop.store.data .items name = some data →
        ∃ own connected uuids after tapped screen, ∃ files : List StoragePath,
          events = sentAfter name ++ .market (.doneButtonWasTapped own connected uuids) :: after ∧
          App.start.run double link (sentAfter name) = some tapped ∧ tapped.market.screens[own]? = some screen ∧
          screen.fieldsAreCompleted = true ∧
          files.Perm ((List.range screen.itemImages.length).map (imageFileName uuids.1)) ∧
          Item.ofDictionary data = screen.stored double name (files.map link)) ∧
      ∀ name other data content, final.market.shop.store.data .items name = some data →
        final.market.shop.store.data .items other = some content → sentAfter name = sentAfter other → name = other := by
  obtain ⟨past, illustrated⟩ := App.illustrated_of_run ran
  have saves := (App.Sound.start.run ran).saves
  have each (name : String) : ∃ before, ∀ data, final.market.shop.store.data .items name = some data →
      ∃ publication ∈ final.market.publications, App.Sent double link events before publication ∧
        data = itemDictionaryFrom publication.item ∧ ∃ files : List StoragePath,
          files.Perm publication.fileNames ∧ (Item.ofDictionary data).imageLinks = some (files.map link) := by
    cases stored : final.market.shop.store.data .items name with
    | none => exact ⟨[], fun data impossible => by cases impossible⟩
    | some data =>
        obtain ⟨publication, member, files, written, perm, links, _⟩ := illustrated.item stored
        obtain ⟨before, sent⟩ := App.sent_of_run ran publication member
        refine ⟨before, fun found same => ?_⟩
        obtain rfl := Option.some.inj same
        exact ⟨publication, member, sent, written, files, perm, links⟩
  choose sentAfter holds using each
  refine ⟨sentAfter, fun name data stored => ?_, fun name other data content stored also same => ?_⟩
  · obtain ⟨publication, _, sent, rfl, files, perm, links⟩ := holds name data stored
    obtain ⟨own, connected, uuids, after, tapped, screen, whole, ranBefore, shown, completed, form⟩ := sent
    refine ⟨own, connected, uuids, after, tapped, screen, files, whole, ranBefore, shown, completed, ?_, ?_⟩
    · rw [← form.folder, ← form.images]
      exact perm
    · obtain ⟨id, imageLinks, typed⟩ := form.item
      rw [typed] at stored links ⊢
      have named : some (id.getD "") = some name := (saves.items name _ stored).1
      have linked : some (imageLinks.getD []) = some (files.map link) := links
      rw [Item.ofDictionary_itemDictionaryFrom, named, linked]
      rfl
  · obtain ⟨publication, member, sent, rfl, _⟩ := holds name data stored
    obtain ⟨twin, present, again, rfl, _⟩ := holds other content also
    obtain rfl := illustrated.pictured.folder_unique member present (sent.folder (same ▸ again))
    exact Option.some.inj ((saves.items name _ stored).1.symm.trans (saves.items other _ also).1)

/-- The item with two images has the title of the form that was sent before its uploads. -/
theorem stored_items_were_typed_first :
    ∃ final data before own connected uuids after tapped screen,
      App.start.run sellerDouble sellerLink firstImages = some final ∧
      final.market.shop.store.data .items "G" = some data ∧
      firstImages = before ++ .market (.doneButtonWasTapped own connected uuids) :: after ∧
      App.start.run sellerDouble sellerLink before = some tapped ∧ tapped.market.screens[own]? = some screen ∧
      screen.titleTextField = "Shirt" ∧ (Item.ofDictionary data).name = some screen.titleTextField := by
  obtain ⟨final, data, ran, stored, title⟩ : ∃ final data,
      App.start.run sellerDouble sellerLink firstImages = some final ∧
        final.market.shop.store.data .items "G" = some data ∧ (Item.ofDictionary data).name = some "Shirt" :=
    ⟨_, _, rfl, rfl, rfl⟩
  obtain ⟨sentAfter, typed, _⟩ := stored_items_were_typed sellerDouble sellerLink ran
  obtain ⟨own, connected, uuids, after, tapped, screen, files, whole, ranBefore, shown, _, _, item⟩ :=
    typed "G" data stored
  have named : (Item.ofDictionary data).name = some screen.titleTextField := by
    rw [item]
    rfl
  exact ⟨final, data, sentAfter "G", own, connected, uuids, after, tapped, screen, ran, stored, whole, ranBefore, shown,
    Option.some.inj (named.symm.trans title), named⟩

end ShoppingApp
