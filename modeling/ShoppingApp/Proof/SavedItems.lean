import ShoppingApp.Library.Projection
import ShoppingApp.Proof.Uploads

namespace ShoppingApp

/-- The document that the request writes for a publication. -/
def PublishRequest.document : PublishRequest → Option (Nat × Dictionary)
  | .setItem number _ data => some (number, data)
  | .putData _ _ _ | .downloadURL _ _ | .addObject _ _ _ | .setCategory _ _ => none

namespace Market

/-- The documents that are on their way. -/
def documents (market : Market) : List (Nat × Dictionary) :=
  market.flights.filterMap fun flight => flight.request.document

/-- The price text of the publication that the Done tap starts. -/
def priceTexts (market : Market) : MarketEvent → List String
  | .doneButtonWasTapped own _ _ =>
      (market.screens[own]?.filter AddItemScreen.fieldsAreCompleted).toList.map AddItemScreen.priceTextField
  | _ => []

variable {market next : Market} {double : String → Option Double} {link : StoragePath → String}

/-- A handler adds its documents to the documents on their way. -/
theorem documents_perform (market : Market) (number : Nat) (outcome : PublishOutcome) :
    (market.perform number outcome).documents =
      market.documents ++ outcome.issued.filterMap PublishRequest.document := by
  unfold documents perform
  rw [List.filterMap_append, List.filterMap_map]
  rfl

/-- A step starts a publication, reports an image of one, or leaves the publications and adds no document. -/
theorem step_documents {event : MarketEvent} (taken : market.step double link event = some next) :
    (market.priceTexts event = [] ∧ next.publications = market.publications ∧ next.documents ⊆ market.documents) ∨
    (∃ own connected uuids, ∃ screen : AddItemScreen, ∃ outcome, market.screens[own]? = some screen ∧
      screen.saveToFireStore double connected uuids own market.publications.length = outcome ∧
      market.priceTexts event = [screen.priceTextField] ∧
      next.publications = market.publications ++ [outcome.publication] ∧
      next.documents = market.documents ++ outcome.issued.filterMap PublishRequest.document) ∨
    ∃ number, ∃ publication : Publication, ∃ screen uuid imageLink outcome,
      market.publications[number]? = some publication ∧ market.awaitedFiles number ≠ [] ∧
      publication.imageSaved number uuid imageLink screen = outcome ∧
      market.priceTexts event = [] ∧ next.publications = market.publications.set number outcome.publication ∧
      next.documents ⊆ market.documents ++ outcome.issued.filterMap PublishRequest.document := by
  have edited {own : Nat} {change : AddItemScreen → AddItemScreen} (taken : market.edit own change = some next) :
      next.publications = market.publications ∧ next.documents ⊆ market.documents := by
    obtain ⟨screens, rfl⟩ := edit_screens taken
    exact ⟨rfl, List.Subset.refl _⟩
  cases event with
  | shop event =>
      obtain ⟨_, shop, _, rfl⟩ := step_shop taken
      exact .inl ⟨rfl, rfl, List.Subset.refl _⟩
  | openAddItem device category =>
      obtain rfl := Option.some.inj taken
      exact .inl ⟨rfl, rfl, List.Subset.refl _⟩
  | editFields own title price description => exact .inl ⟨rfl, edited taken⟩
  | cameraButtonWasTapped own => exact .inl ⟨rfl, edited taken⟩
  | didSelectImages own resolvedImages => exact .inl ⟨rfl, edited taken⟩
  | doneButtonWasTapped own connected uuids =>
      obtain ⟨screen, shown, _, ⟨incomplete, rfl⟩ | ⟨completed, _, _, _, rfl⟩⟩ := step_doneButtonWasTapped taken
      · refine .inl ⟨?_, rfl, List.Subset.refl _⟩
        simp [priceTexts, shown, Option.filter, incomplete]
      · refine .inr (.inl ⟨own, connected, uuids, screen, _, shown, rfl, ?_, ?_, documents_perform ..⟩)
        · simp [priceTexts, shown, Option.filter, completed]
        · rw [perform, List.set_append_right _ _ (Nat.le_refl _), Nat.sub_self, List.set_cons_zero]
  | saveCategoryToFireStore category uuid =>
      obtain ⟨_, rfl⟩ := step_saveCategoryToFireStore taken
      refine .inl ⟨rfl, rfl, List.Perm.subset (.of_eq ?_)⟩
      exact Pool.filterMap_append_silent _ fun flight member => by
        rw [List.mem_singleton.mp member]
        rfl
  | serve index succeeds =>
      obtain ⟨request, found, ⟨_, rfl⟩ | ⟨_, rfl⟩⟩ := step_serve taken
      · obtain ⟨publications, flights, _⟩ := apply_keeps link market request
        refine .inl ⟨rfl, publications, List.Perm.subset (.of_eq ?_)⟩
        rw [documents, flights]
        exact Pool.filterMap_set_same _ found rfl
      · exact .inl ⟨rfl, rfl, List.Perm.subset (.of_eq (Pool.filterMap_set_same _ found rfl))⟩
  | callback index uuid =>
      obtain ⟨request, reply, found, _, ⟨_, rfl⟩ | ⟨_, rfl⟩⟩ := step_callback taken
      · exact .inl ⟨rfl, rfl, (List.Sublist.filterMap _ (List.eraseIdx_sublist ..)).subset⟩
      · have fewer : documents { market with flights := market.flights.eraseIdx index, used := uuid :: market.used } ⊆
            market.documents := (List.Sublist.filterMap _ (List.eraseIdx_sublist ..)).subset
        generalize erased : { market with flights := market.flights.eraseIdx index, used := uuid :: market.used } =
          waiting at fewer
        have kept : waiting.publications = market.publications := by rw [← erased]
        rcases complete_cases uuid waiting request reply with
          ⟨number, fileName, imageLink, _, uploads, _, same⟩ | ⟨_, ⟨number, fileName, imageData, _, _, same⟩ | same⟩
        · rw [same]
          rcases imageSaved_cases uuid number imageLink waiting with same | ⟨publication, screen, present, _, same⟩
          · rw [same]
            exact .inl ⟨rfl, kept, fewer⟩
          · have awaited : fileName ∈ market.awaitedFiles number :=
              List.mem_filterMap.mpr ⟨_, List.mem_of_getElem? found, (uploads number).trans (if_pos rfl)⟩
            rw [same]
            refine .inr (.inr ⟨number, publication, screen, uuid, imageLink, _, kept ▸ present,
              List.ne_nil_of_mem awaited, rfl, rfl, ?_, ?_⟩)
            · rw [perform, kept]
            · rw [documents_perform]
              exact List.append_subset.mpr
                ⟨List.Subset.trans fewer (List.subset_append_left _ _), List.subset_append_right _ _⟩
        · rw [same]
          refine .inl ⟨rfl, kept, List.Subset.trans (List.Perm.subset (.of_eq ?_)) fewer⟩
          exact Pool.filterMap_append_silent _ fun flight member => by
            rw [List.mem_singleton.mp member]
            rfl
        · rw [same]
          exact .inl ⟨rfl, kept, fewer⟩

end Market

/-- All images are counted, and the item has their links. -/
structure Publication.Complete (publication : Publication) : Prop where
  counted : publication.uploadedImageCount = publication.images.length
  links : publication.item.imageLinks.getD [] = publication.imageLinkArray

/-- The Done tap reads the price, and it writes a document at once when the form has no images. -/
theorem AddItemScreen.saveToFireStore_saves {double : String → Option Double} {connected : Bool}
    {uuids : String × String} {own number : Nat} {screen : AddItemScreen} {outcome : PublishOutcome}
    (handled : screen.saveToFireStore double connected uuids own number = outcome) :
    outcome.publication.item.price = double screen.priceTextField ∧
      ∀ document ∈ outcome.issued.filterMap PublishRequest.document,
        document = (number, itemDictionaryFrom outcome.publication.item) ∧ outcome.publication.Complete := by
  have read : outcome.publication.item.price = double screen.priceTextField ∧
      outcome.publication.item.imageLinks = Option.none := by
    rw [← handled]
    unfold saveToFireStore
    dsimp only
    split
    · split <;> exact ⟨rfl, rfl⟩
    · exact ⟨rfl, rfl⟩
  refine ⟨read.1, fun document member => ?_⟩
  obtain ⟨request, issued, shown⟩ := List.mem_filterMap.mp member
  have array := (screen.saveToFireStore_starts double connected uuids own number).2
  have kinds := screen.saveToFireStore_cases double connected uuids own number
  rw [handled] at array kinds
  obtain ⟨_, images, counted, ⟨_, none⟩ | ⟨_, _, uploads⟩ | ⟨_, plain, saved⟩⟩ := kinds
  · rw [none] at issued
    cases issued
  · rw [uploads] at issued
    obtain ⟨_, _, rfl⟩ := (uploadImages_stores number uuids.1 0 screen.itemImages).2 request issued
    cases shown
  · rw [saved] at issued
    rcases List.mem_pair.mp issued with rfl | rfl
    · refine ⟨(Option.some.inj shown).symm, counted.trans ?_, ?_⟩
      · rw [images, plain]
        rfl
      · rw [read.2, array]
        rfl
    · cases shown

/-- A reported image leaves the price, and the document that it writes carries all links. -/
theorem Publication.imageSaved_saves {number : Nat} {uuid : String} {imageLink : Option String}
    {screen : AddItemScreen} {publication : Publication} {outcome : PublishOutcome}
    (handled : publication.imageSaved number uuid imageLink screen = outcome) :
    outcome.publication.item.price = publication.item.price ∧
      ∀ document ∈ outcome.issued.filterMap PublishRequest.document,
        document = (number, itemDictionaryFrom outcome.publication.item) ∧ outcome.publication.Complete := by
  rw [← handled]
  unfold imageSaved
  cases imageLink with
  | none => exact ⟨rfl, fun document member => absurd member List.not_mem_nil⟩
  | some imageLink =>
      dsimp only
      split
      · rename_i last
        refine ⟨rfl, fun document member => ?_⟩
        obtain rfl := List.mem_singleton.mp member
        exact ⟨rfl, ⟨last, rfl⟩⟩
      · exact ⟨rfl, fun document member => absurd member List.not_mem_nil⟩

namespace Market

/-- A document on its way carries all links of its publication. -/
def CarriesLinks (market : Market) : Prop :=
  ∀ document ∈ market.documents, ∃ publication, market.publications[document.1]? = some publication ∧
    publication.uploadedImageCount = publication.images.length ∧
    (Item.ofDictionary document.2).imageLinks = some publication.imageLinkArray

/-- A document on its way has the price that the text of its publication gives, or the default. -/
structure Priced (double : String → Option Double) (past : List String) (market : Market) : Prop where
  typed : past.length = market.publications.length
  price : ∀ (number : Nat) (publication : Publication), market.publications[number]? = some publication →
    ∃ text, past[number]? = some text ∧ publication.item.price = double text
  documents : ∀ document ∈ market.documents, ∃ text, past[document.1]? = some text ∧
    (Item.ofDictionary document.2).price = some ((double text).getD .zero)

variable {market next : Market} {double : String → Option Double} {link : StoragePath → String}
  {event : MarketEvent}

/-- A written document was on its way. -/
theorem document_of_written {number : Nat} {name : String} {data : Dictionary}
    (written : .document number name data ∈ market.written event) : (number, data) ∈ market.documents := by
  unfold Market.written at written
  split at written
  · split at written
    · rename_i request found
      refine List.mem_filterMap.mpr ⟨_, List.mem_of_getElem? found, ?_⟩
      cases request with
      | setItem owner other content =>
          obtain ⟨rfl, rfl, rfl⟩ := Written.document.inj (List.mem_singleton.mp written)
          rfl
      | putData owner fileName imageData => cases List.mem_singleton.mp written
      | addObject owner object withID => cases List.mem_singleton.mp written
      | downloadURL owner fileName => cases written
      | setCategory other content => cases written
    · cases written
  · cases written

/-- The links of a publication with a document on its way do not change any more. -/
theorem CarriesLinks.step {past : List UploadEntry} (carries : market.CarriesLinks)
    (uploading : market.Uploading link past) (taken : market.step double link event = some next) :
    next.CarriesLinks := by
  rcases step_documents taken with ⟨_, publications, fewer⟩ |
    ⟨own, connected, uuids, screen, outcome, _, saved, _, publications, documents⟩ |
    ⟨number, publication, screen, uuid, imageLink, outcome, present, awaited, saved, _, publications, fewer⟩
  · intro document member
    rw [publications]
    exact carries document (fewer member)
  · intro document member
    rw [documents] at member
    rw [publications]
    rcases List.mem_append.mp member with old | new
    · obtain ⟨publication, present, links⟩ := carries document old
      refine ⟨publication, ?_, links⟩
      rw [List.getElem?_append_left (List.getElem?_eq_some_iff.mp present).1]
      exact present
    · obtain ⟨rfl, counted, links⟩ := (AddItemScreen.saveToFireStore_saves saved).2 document new
      refine ⟨_, List.getElem?_concat_length, counted, ?_⟩
      rw [Item.ofDictionary_itemDictionaryFrom, links]
  · intro document member
    rw [publications]
    rcases List.mem_append.mp (fewer member) with old | new
    · obtain ⟨other, found, links⟩ := carries document old
      have different : number ≠ document.1 := by
        intro same
        subst same
        obtain rfl := Option.some.inj (present.symm.trans found)
        -- A publication that still awaits an image has not saved its item.
        exact absurd links.1 (uploading.unfinished present awaited).ne
      exact ⟨other, (List.getElem?_set_ne different).trans found, links⟩
    · obtain ⟨rfl, counted, links⟩ := (Publication.imageSaved_saves saved).2 document new
      refine ⟨_, List.getElem?_set_self (List.getElem?_eq_some_iff.mp present).1, counted, ?_⟩
      rw [Item.ofDictionary_itemDictionaryFrom, links]

theorem Priced.initial (unpublished : market.publications = []) (idle : market.flights = []) :
    market.Priced double [] := by
  refine ⟨(congrArg List.length unpublished).symm, fun number publication present => ?_, fun document member => ?_⟩
  · rw [unpublished] at present
    cases present
  · rw [Market.documents, idle] at member
    cases member

/-- The price of a publication does not change after the Done tap. -/
theorem Priced.step {past : List String} (priced : market.Priced double past)
    (taken : market.step double link event = some next) :
    next.Priced double (past ++ market.priceTexts event) := by
  obtain ⟨typed, price, onTheirWay⟩ := priced
  rcases step_documents taken with ⟨texts, publications, fewer⟩ |
    ⟨own, connected, uuids, screen, outcome, _, saved, texts, publications, documents⟩ |
    ⟨number, publication, screen, uuid, imageLink, outcome, present, _, saved, texts, publications, fewer⟩
  · rw [texts, List.append_nil]
    refine ⟨typed.trans (congrArg List.length publications.symm), ?_, fun document member => ?_⟩
    · rw [publications]
      exact price
    · exact onTheirWay document (fewer member)
  · obtain ⟨same, written⟩ := AddItemScreen.saveToFireStore_saves saved
    have old {number : Nat} {text : String} (found : past[number]? = some text) :
        (past ++ [screen.priceTextField])[number]? = some text := by
      rw [List.getElem?_append_left (List.getElem?_eq_some_iff.mp found).1]
      exact found
    have new : (past ++ [screen.priceTextField])[market.publications.length]? = some screen.priceTextField :=
      typed ▸ List.getElem?_concat_length
    rw [texts]
    refine ⟨?_, fun number publication present => ?_, fun document member => ?_⟩
    · rw [publications, List.length_append, List.length_append, typed]
      rfl
    · rw [publications] at present
      by_cases inside : number < market.publications.length
      · rw [List.getElem?_append_left inside] at present
        obtain ⟨text, found, read⟩ := price number publication present
        exact ⟨text, old found, read⟩
      · have bound := (List.getElem?_eq_some_iff.mp present).1
        rw [List.length_append, List.length_singleton] at bound
        obtain rfl : number = market.publications.length := by omega
        obtain rfl := Option.some.inj (List.getElem?_concat_length.symm.trans present)
        exact ⟨_, new, same⟩
    · rw [documents] at member
      rcases List.mem_append.mp member with before | now
      · obtain ⟨text, found, read⟩ := onTheirWay document before
        exact ⟨text, old found, read⟩
      · obtain ⟨rfl, _⟩ := written document now
        refine ⟨_, new, ?_⟩
        rw [Item.ofDictionary_itemDictionaryFrom, same]
  · obtain ⟨same, written⟩ := Publication.imageSaved_saves saved
    rw [texts, List.append_nil]
    refine ⟨?_, fun other after found => ?_, fun document member => ?_⟩
    · rw [publications, List.length_set]
      exact typed
    · rw [publications] at found
      by_cases own : number = other
      · subst own
        have here := List.getElem?_set_self (a := outcome.publication) (List.getElem?_eq_some_iff.mp present).1
        obtain rfl := Option.some.inj (here.symm.trans found)
        obtain ⟨text, known, read⟩ := price number publication present
        exact ⟨text, known, same.trans read⟩
      · exact price other after ((List.getElem?_set_ne own).symm.trans found)
    · rcases List.mem_append.mp (fewer member) with before | now
      · exact onTheirWay document before
      · obtain ⟨rfl, _⟩ := written document now
        obtain ⟨text, known, read⟩ := price number publication present
        refine ⟨text, known, ?_⟩
        rw [Item.ofDictionary_itemDictionaryFrom, same, read]

end Market

/-- The delivered and the saved links are the links of all images in the order in which their completions ran. -/
theorem links_in_completion_order (double : String → Option Double) (link : StoragePath → String)
    {market reached next : Market} {events : List MarketEvent} {event : MarketEvent}
    (unpublished : market.publications = []) (idle : market.flights = [])
    (ran : market.run double link events = some reached) (taken : reached.step double link event = some next) :
    (∀ number imagesLinks, .delivered number imagesLinks ∈ reached.uploadEntries event →
      ∃ publication files, next.publications[number]? = some publication ∧
        files = (Transition.log (Market.step double link) Market.uploadEntries market (events ++ [event])).filterMap
          (UploadEntry.linkedFile number) ∧
        files.Perm publication.fileNames ∧ imagesLinks = files.map link ∧
        publication.item.imageLinks = some imagesLinks) ∧
    ∀ number name data, .document number name data ∈ reached.written event →
      ∃ publication files, reached.publications[number]? = some publication ∧
        files = (Transition.log (Market.step double link) Market.uploadEntries market events).filterMap
          (UploadEntry.linkedFile number) ∧
        files.Perm publication.fileNames ∧ (Item.ofDictionary data).imageLinks = some (files.map link) := by
  have nothing : market.CarriesLinks := by
    intro document member
    rw [Market.documents, idle] at member
    cases member
  have held := Transition.run_log (fun reached past => reached.Uploading link past ∧ reached.CarriesLinks)
    (fun _ _ _ _ held _ taken => ⟨held.1.step taken, held.2.step held.1 taken⟩)
    ⟨Market.Uploading.initial unpublished idle, nothing⟩
    (Transition.Along.of_all (fun _ _ => trivial) market events) ran
  rw [List.nil_append] at held
  obtain ⟨uploading, carries⟩ := held
  refine ⟨fun number imagesLinks delivered => ?_, fun number name data written => ?_⟩
  · obtain ⟨publication, present, all, links, saved⟩ := uploading.delivers taken delivered
    obtain ⟨complete, array, _⟩ := (uploading.step taken).finished present all
    have whole : Transition.log (Market.step double link) Market.uploadEntries market (events ++ [event]) =
        Transition.log (Market.step double link) Market.uploadEntries market events ++ reached.uploadEntries event := by
      simp [Transition.log_append ran, Transition.log, taken]
    rw [whole]
    exact ⟨publication, _, present, rfl, complete, links.symm.trans array, saved⟩
  · obtain ⟨publication, present, all, links⟩ := carries _ (Market.document_of_written written)
    obtain ⟨complete, array, _⟩ := uploading.finished present all
    exact ⟨publication, _, present, rfl, complete, links.trans (congrArg some array)⟩

theorem links_in_completion_order_pair :
    ∃ reached next imagesLinks publication files,
      sellerMarket.run sellerDouble sellerLink (pairPublication.take 11) = some reached ∧
      reached.step sellerDouble sellerLink (.callback 0 "F") = some next ∧
      next.publications[0]? = some publication ∧
      files = (Transition.log (Market.step sellerDouble sellerLink) Market.uploadEntries sellerMarket
        (pairPublication.take 11 ++ [.callback 0 "F"])).filterMap (UploadEntry.linkedFile 0) ∧
      files.Perm publication.fileNames ∧ imagesLinks = files.map sellerLink := by
  obtain ⟨reached, next, ran, taken, entries⟩ := pairPublication_delivers
  have delivered := entries ▸ List.mem_cons_of_mem _ (List.mem_singleton.mpr rfl)
  obtain ⟨publication, files, present, reported, complete, links, _⟩ :=
    (links_in_completion_order sellerDouble sellerLink rfl rfl ran taken).1 0 _ delivered
  exact ⟨reached, next, _, publication, files, ran, taken, present, reported, complete, links⟩

/-- Both uploads succeed, and the saved item has the link of the second image first. -/
theorem first_link_of_second_image :
    ∃ final data, sellerMarket.run sellerDouble sellerLink pairPublication = some final ∧
      .document 0 "F" data ∈ Transition.log (Market.step sellerDouble sellerLink) Market.written sellerMarket
        pairPublication ∧
      (Item.ofDictionary data).imageLinks =
        some [sellerLink ["ItemImages", "A", "1.jpg"], sellerLink ["ItemImages", "A", "0.jpg"]] ∧
      (Item.ofDictionary data).imageLinks ≠
        some ([0, 1].map fun nameSuffix => sellerLink (imageFileName "A" nameSuffix)) := by
  have stored : Transition.log (Market.step sellerDouble sellerLink) Market.written sellerMarket pairPublication =
      [.file 0 ["ItemImages", "A", "0.jpg"], .file 0 ["ItemImages", "A", "1.jpg"],
        .document 0 "F" (itemDictionaryFrom
          { id := "F", name := "Shirt", categoryId := "c", description := "A shirt", price := sellerDouble "1",
            imageLinks := some [sellerLink ["ItemImages", "A", "1.jpg"], sellerLink ["ItemImages", "A", "0.jpg"]] }),
        .record 0 "F"] := rfl
  rw [stored]
  refine ⟨_, _, rfl, List.mem_cons_of_mem _ (List.mem_cons_of_mem _ List.mem_cons_self), rfl, ?_⟩
  decide

/-- A written document has the price of the accepted text, and zero only for zero, exactly if the text is a number. -/
theorem published_price_iff (double : String → Option Double) (link : StoragePath → String) {market reached : Market}
    {events : List MarketEvent} {event : MarketEvent} {number : Nat} {name : String} {data : Dictionary}
    (unpublished : market.publications = []) (idle : market.flights = [])
    (ran : market.run double link events = some reached)
    (written : .document number name data ∈ reached.written event) :
    ∃ text, (Transition.log (Market.step double link) Market.priceTexts market events)[number]? = some text ∧
      (((∃ price, double text = some price ∧ (Item.ofDictionary data).price = some price) ∧
          ((Item.ofDictionary data).price = some .zero → double text = some .zero)) ↔
        (double text).isSome = true) := by
  have priced := Transition.run_log (fun reached past => reached.Priced double past)
    (fun _ _ _ _ priced _ taken => priced.step taken)
    (Market.Priced.initial unpublished idle) (Transition.Along.of_all (fun _ _ => trivial) market events) ran
  rw [List.nil_append] at priced
  obtain ⟨text, typed, read⟩ := priced.documents _ (Market.document_of_written written)
  refine ⟨text, typed, fun ⟨⟨price, number, _⟩, _⟩ => Option.isSome_of_eq_some number, fun number => ?_⟩
  obtain ⟨price, number⟩ := Option.isSome_iff_exists.mp number
  rw [number, Option.getD_some] at read
  refine ⟨⟨price, number, read⟩, fun free => ?_⟩
  rw [number, ← read, free]

/-- The form is completed by a price text that is no number. -/
def unpricedPublication : List MarketEvent :=
  [.openAddItem 0 sellerCategory, .editFields 0 "Shirt" "abc" "A shirt", .doneButtonWasTapped 0 true ("A", "B"),
    .serve 0 true]

theorem published_price_of_one :
    ∃ reached number name data, sellerMarket.run sellerDouble sellerLink (plainPublication.take 3) = some reached ∧
      .document number name data ∈ reached.written (.serve 0 true) ∧
      ∃ text, (Transition.log (Market.step sellerDouble sellerLink) Market.priceTexts sellerMarket
          (plainPublication.take 3))[number]? = some text ∧
        (((∃ price, sellerDouble text = some price ∧ (Item.ofDictionary data).price = some price) ∧
            ((Item.ofDictionary data).price = some .zero → sellerDouble text = some .zero)) ↔
          (sellerDouble text).isSome = true) := by
  obtain ⟨reached, data, ran, written⟩ : ∃ reached data,
      sellerMarket.run sellerDouble sellerLink (plainPublication.take 3) = some reached ∧
        .document 0 "B" data ∈ reached.written (.serve 0 true) := ⟨_, _, rfl, List.mem_singleton.mpr rfl⟩
  exact ⟨reached, 0, "B", data, ran, written, published_price_iff sellerDouble sellerLink rfl rfl ran written⟩

/-- The text is no number, and the item is published for nothing. -/
theorem unpriced_item_is_free :
    ∃ final data, sellerMarket.run sellerDouble sellerLink unpricedPublication = some final ∧
      .document 0 "B" data ∈ Transition.log (Market.step sellerDouble sellerLink) Market.written sellerMarket
        unpricedPublication ∧
      Transition.log (Market.step sellerDouble sellerLink) Market.priceTexts sellerMarket unpricedPublication =
        ["abc"] ∧
      sellerDouble "abc" = none ∧ (Item.ofDictionary data).price = some .zero := by
  exact ⟨_, _, rfl, List.mem_singleton.mpr rfl, rfl, rfl, rfl⟩

end ShoppingApp
