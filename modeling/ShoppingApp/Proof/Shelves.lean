import ShoppingApp.Library.WriteOnce
import ShoppingApp.Proof.SavedItems
import ShoppingApp.Proof.WellFormedStore

namespace ShoppingApp

/-- Publications and new categories write to two collections and to the search index. -/
inductive Shelf where
  | items | categories | index
  deriving DecidableEq

/-- The document or the record that the request writes. -/
def PublishRequest.shelved : PublishRequest → Option ((Shelf × String) × Dictionary)
  | .setItem _ name data => some ((.items, name), data)
  | .addObject _ object withID => some ((.index, withID), object)
  | .setCategory name data => some ((.categories, name), data)
  | .putData _ _ _ | .downloadURL _ _ => none

/-- The write that waits for its service. -/
def PublishFlight.waitingWrite (flight : PublishFlight) : Option ((Shelf × String) × Dictionary) :=
  match flight.reply with
  | none => flight.request.shelved
  | some _ => none

namespace Market

def shelf (market : Market) : Shelf × String → Option Dictionary
  | (.items, name) => market.shop.store.data .items name
  | (.categories, name) => market.shop.store.data .category name
  | (.index, name) => market.algolia.get? name

def writes (market : Market) : List ((Shelf × String) × Dictionary) :=
  market.flights.filterMap PublishFlight.waitingWrite

/-- A step draws one new name for a category or for an item with its search record, or it writes nothing new. -/
inductive Draws (market next : Market) : List ((Shelf × String) × Dictionary) → Prop where
  | nothing : Draws market next []
  | category {uuid : String} {data : Dictionary} (unused : uuid ∉ market.used) (drawn : uuid ∈ next.used) :
      Draws market next [((.categories, uuid), data)]
  | item {uuid : String} {data : Dictionary} (unused : uuid ∉ market.used) (drawn : uuid ∈ next.used) :
      Draws market next [((.items, uuid), data), ((.index, uuid), data)]

/-- A step of the market issues writes, loses one, or stores one. -/
inductive Writes (market next : Market) : Prop where
  | issue (entries : List ((Shelf × String) × Dictionary)) (draws : market.Draws next entries)
      (kept : next.shelf = market.shelf) (waiting : next.writes = market.writes ++ entries)
      (used : market.used ⊆ next.used)
  | fail (entry : (Shelf × String) × Dictionary) (kept : next.shelf = market.shelf)
      (waiting : market.writes.Perm (entry :: next.writes)) (used : next.used = market.used)
  | store (key : Shelf × String) (data : Dictionary)
      (stored : next.shelf = Function.update market.shelf key (some data))
      (waiting : market.writes.Perm ((key, data) :: next.writes)) (used : next.used = market.used)

/-- The abstract store has the documents, the records, and the waiting writes of the market, and the search record of an
item is its document. -/
structure Shelved (store : WriteOnce (Shelf × String) Dictionary) (market : Market) : Prop where
  stored : store.stored = market.shelf
  waiting : store.waiting.Perm market.writes
  used : ∀ key ∈ store.used, key.2 ∈ market.used
  agrees : ∀ name record data, store.Known (.index, name) record → store.Known (.items, name) data → record = data

end Market

/-- A finished publication writes its item and its search record under the new identifier. -/
theorem Publication.finish_writes (number : Nat) (uuid : String) (screen : AddItemScreen) (publication : Publication) :
    (publication.finish number uuid screen).issued.filterMap PublishRequest.shelved =
      [((.items, uuid), itemDictionaryFrom { publication.item with id := some uuid }),
        ((.index, uuid), itemDictionaryFrom { publication.item with id := some uuid })] := rfl

theorem Publication.imageSaved_writes (number : Nat) (uuid : String) (imageLink : Option String)
    (screen : AddItemScreen) (publication : Publication) :
    (publication.imageSaved number uuid imageLink screen).issued.filterMap PublishRequest.shelved = [] ∨
      ∃ data, (publication.imageSaved number uuid imageLink screen).issued.filterMap PublishRequest.shelved =
        [((.items, uuid), data), ((.index, uuid), data)] := by
  unfold imageSaved
  cases imageLink with
  | none => exact .inl rfl
  | some imageLink =>
      dsimp only
      split
      · exact .inr ⟨_, finish_writes _ _ _ _⟩
      · exact .inl rfl

theorem AddItemScreen.saveToFireStore_writes (double : String → Option Double) (connected : Bool)
    (uuids : String × String) (own number : Nat) (screen : AddItemScreen) :
    (screen.saveToFireStore double connected uuids own number).issued.filterMap PublishRequest.shelved = [] ∨
      ∃ data, (screen.saveToFireStore double connected uuids own number).issued.filterMap PublishRequest.shelved =
        [((.items, uuids.2), data), ((.index, uuids.2), data)] := by
  obtain ⟨_, _, _, ⟨_, issued⟩ | ⟨_, _, issued⟩ | ⟨_, _, issued⟩⟩ :=
    saveToFireStore_cases double connected uuids own number screen
  · rw [issued]
    exact .inl rfl
  · rw [issued]
    refine .inl (List.filterMap_eq_nil_iff.mpr fun request member => ?_)
    obtain ⟨suffix, imageData, rfl⟩ := (uploadImages_stores number uuids.1 0 screen.itemImages).2 request member
    rfl
  · rw [issued]
    exact .inr ⟨_, rfl⟩

namespace Market

variable {market next : Market} {store : WriteOnce (Shelf × String) Dictionary} {double : String → Option Double}
  {link : StoragePath → String}

/-- The shelves depend on two collections and on the search index. -/
theorem shelf_congr (items : next.shop.store.data .items = market.shop.store.data .items)
    (categories : next.shop.store.data .category = market.shop.store.data .category)
    (algolia : next.algolia = market.algolia) : next.shelf = market.shelf := by
  funext ⟨shelf, name⟩
  cases shelf with
  | items => exact congrFun items name
  | categories => exact congrFun categories name
  | index => exact congrArg (Documents.get? · name) algolia

theorem shelf_perform (market : Market) (number : Nat) (outcome : PublishOutcome) :
    (market.perform number outcome).shelf = market.shelf := by
  refine shelf_congr ?_ ?_ rfl <;>
  · unfold perform
    dsimp only
    split <;> rfl

/-- A handler adds its writes to the waiting ones. -/
theorem writes_perform (market : Market) (number : Nat) (outcome : PublishOutcome) :
    (market.perform number outcome).writes = market.writes ++ outcome.issued.filterMap PublishRequest.shelved := by
  unfold writes perform
  rw [List.filterMap_append, List.filterMap_map]
  rfl

/-- A request that a service applies stores its write. -/
theorem apply_shelf (link : StoragePath → String) (market : Market) (request : PublishRequest) :
    (market.apply link request).1.shelf =
      request.shelved.elim market.shelf fun entry => Function.update market.shelf entry.1 (some entry.2) := by
  have write (written : Shelf) (name : String) (data : Dictionary) (changed : Market)
      (here : changed.shelf (written, name) = some data)
      (others : ∀ other found, (other, found) ≠ (written, name) →
        changed.shelf (other, found) = market.shelf (other, found)) :
      changed.shelf = Function.update market.shelf (written, name) (some data) := by
    funext ⟨other, found⟩
    by_cases same : (other, found) = (written, name)
    · rw [same, here, Function.update_self]
    · rw [others other found same, Function.update_of_ne same]
  cases request with
  | putData number fileName imageData => rfl
  | downloadURL number fileName => rfl
  | setItem number name data =>
      refine write .items name data _ (Store.data_setData_same ..) fun other found different => ?_
      cases other with
      | items => exact Store.data_setData_other _ data (.inr fun same => different (by rw [same]))
      | categories => exact Store.data_setData_other _ data (.inl (by decide))
      | index => rfl
  | setCategory name data =>
      refine write .categories name data _ (Store.data_setData_same ..) fun other found different => ?_
      cases other with
      | items => exact Store.data_setData_other _ data (.inl (by decide))
      | categories => exact Store.data_setData_other _ data (.inr fun same => different (by rw [same]))
      | index => rfl
  | addObject number object withID =>
      refine write .index withID object _ Documents.get?_set_same fun other found different => ?_
      cases other with
      | items => rfl
      | categories => rfl
      | index => exact Documents.get?_set_other fun same => different (by rw [same])

/-- The completion of an image issues the item, or it writes nothing. -/
theorem complete_writes (uuid : String) (market : Market) (request : PublishRequest) (reply : PublishReply) :
    (market.complete uuid request reply).shelf = market.shelf ∧
      (market.complete uuid request reply).used = market.used ∧
      ((market.complete uuid request reply).writes = market.writes ∨
        ∃ data, (market.complete uuid request reply).writes =
          market.writes ++ [((.items, uuid), data), ((.index, uuid), data)]) := by
  rcases complete_cases uuid market request reply with
    ⟨number, fileName, imageLink, _, _, _, same⟩ | ⟨_, ⟨number, fileName, imageData, _, _, same⟩ | same⟩
  · rw [same]
    rcases imageSaved_cases uuid number imageLink market with same | ⟨publication, screen, _, _, same⟩
    · rw [same]
      exact ⟨rfl, rfl, .inl rfl⟩
    · rw [same]
      refine ⟨shelf_perform .., rfl, ?_⟩
      rw [writes_perform]
      rcases publication.imageSaved_writes number uuid imageLink screen with silent | ⟨data, written⟩
      · exact .inl (by rw [silent, List.append_nil])
      · exact .inr ⟨data, by rw [written]⟩
  · rw [same]
    refine ⟨rfl, rfl, .inl (Pool.filterMap_append_silent _ fun flight member => ?_)⟩
    rw [List.mem_singleton.mp member]
    rfl
  · rw [same]
    exact ⟨rfl, rfl, .inl rfl⟩

/-- Each step issues writes under new names, loses a waiting one, or stores it. -/
theorem writes_of_step {event : MarketEvent} (taken : market.step double link event = some next) :
    market.Writes next := by
  have edited {own : Nat} {change : AddItemScreen → AddItemScreen} (taken : market.edit own change = some next) :
      market.Writes next := by
    obtain ⟨screens, rfl⟩ := edit_screens taken
    exact .issue [] .nothing rfl (List.append_nil _).symm (List.Subset.refl _)
  cases event with
  | shop event =>
      obtain ⟨_, shop, stepped, rfl⟩ := step_shop taken
      exact .issue [] .nothing (shelf_congr (World.step_items stepped)
        (World.step_other stepped (by decide) (by decide)) rfl) (List.append_nil _).symm (List.subset_append_right _ _)
  | openAddItem device category =>
      obtain rfl := Option.some.inj taken
      exact .issue [] .nothing rfl (List.append_nil _).symm (List.Subset.refl _)
  | editFields own title price description => exact edited taken
  | cameraButtonWasTapped own => exact edited taken
  | didSelectImages own resolvedImages => exact edited taken
  | doneButtonWasTapped own connected uuids =>
      obtain ⟨screen, _, _, ⟨_, rfl⟩ | ⟨_, _, unused, _, rfl⟩⟩ := step_doneButtonWasTapped taken
      · exact .issue [] .nothing rfl (List.append_nil _).symm (List.Subset.refl _)
      · have drawn : uuids.2 ∈ uuids.1 :: uuids.2 :: market.used := List.mem_cons_of_mem _ List.mem_cons_self
        have grows : market.used ⊆ uuids.1 :: uuids.2 :: market.used :=
          fun uuid member => List.mem_cons_of_mem _ (List.mem_cons_of_mem _ member)
        rcases screen.saveToFireStore_writes double connected uuids own market.publications.length with
          silent | ⟨data, written⟩
        · refine .issue [] .nothing (shelf_perform ..) ?_ grows
          rw [writes_perform, silent]
          rfl
        · refine .issue [((.items, uuids.2), data), ((.index, uuids.2), data)] (.item unused drawn)
            (shelf_perform ..) ?_ grows
          rw [writes_perform, written]
          rfl
  | saveCategoryToFireStore category uuid =>
      obtain ⟨unused, rfl⟩ := step_saveCategoryToFireStore taken
      refine .issue [((.categories, uuid), categoryDictionaryFrom { category with id := uuid })]
        (.category unused List.mem_cons_self) rfl ?_ (List.subset_cons_self _ _)
      exact List.filterMap_append
  | serve index succeeds =>
      obtain ⟨request, found, served⟩ := step_serve taken
      obtain ⟨_, flights, used⟩ := apply_keeps link market request
      have answered (reply : PublishReply) : market.writes.Perm (request.shelved.toList ++
          (market.flights.set index ⟨request, some reply⟩).filterMap PublishFlight.waitingWrite) := by
        refine (Pool.filterMap_perm PublishFlight.waitingWrite found).trans (List.Perm.append_left _ ?_)
        exact (Pool.filterMap_set_perm PublishFlight.waitingWrite found ⟨request, some reply⟩).symm
      have silent (written : request.shelved = none) (reply : PublishReply) :
          (market.flights.set index ⟨request, some reply⟩).filterMap PublishFlight.waitingWrite =
            market.writes ++ [] := by
        rw [List.append_nil]
        exact Pool.filterMap_set_same _ found written.symm
      have stored := apply_shelf link market request
      rcases served with ⟨_, rfl⟩ | ⟨_, rfl⟩
      · cases written : request.shelved with
        | none =>
            rw [written] at stored
            refine .issue [] .nothing stored ?_ (List.Perm.subset (.of_eq used.symm))
            exact flights ▸ silent written _
        | some entry =>
            rw [written] at stored
            refine .store entry.1 entry.2 stored ?_ used
            have perm := answered (market.apply link request).2
            rw [written] at perm
            exact flights ▸ perm
      · cases written : request.shelved with
        | none => exact .issue [] .nothing rfl (silent written _) (List.Subset.refl _)
        | some entry =>
            have perm := answered .failed
            rw [written] at perm
            exact .fail entry rfl perm rfl
  | callback index uuid =>
      obtain ⟨request, reply, found, unused, ⟨_, rfl⟩ | ⟨_, rfl⟩⟩ := step_callback taken
      · refine .issue [] .nothing rfl ?_ (List.subset_cons_self _ _)
        exact (Pool.filterMap_eraseIdx_silent _ found rfl).trans (List.append_nil _).symm
      · have erased : writes { market with flights := market.flights.eraseIdx index, used := uuid :: market.used } =
            market.writes := Pool.filterMap_eraseIdx_silent _ found rfl
        obtain ⟨kept, used, written⟩ := complete_writes uuid
          { market with flights := market.flights.eraseIdx index, used := uuid :: market.used } request reply
        rw [erased] at written
        rcases written with silent | ⟨data, written⟩
        · exact .issue [] .nothing kept (silent.trans (List.append_nil _).symm)
            (used ▸ List.subset_cons_self _ _)
        · exact .issue [((.items, uuid), data), ((.index, uuid), data)] (.item unused (used ▸ List.mem_cons_self)) kept
            written (used ▸ List.subset_cons_self _ _)

/-- A stored item was stored before, or its document was on its way. -/
theorem stored_of_step {event : MarketEvent} (taken : market.step double link event = some next)
    {name : String} {data : Dictionary}
    (stored : next.shop.store.data .items name = some data) :
    market.shop.store.data .items name = some data ∨ ∃ number, (number, data) ∈ market.documents := by
  have onShelf : next.shelf (.items, name) = some data := stored
  cases writes_of_step taken with
  | issue entries draws kept waiting used => exact .inl ((congrFun kept _).symm.trans onShelf)
  | fail entry kept waiting used => exact .inl ((congrFun kept _).symm.trans onShelf)
  | store key content changed waiting used =>
      rw [changed] at onShelf
      by_cases same : (.items, name) = key
      · subst same
        rw [Function.update_self] at onShelf
        obtain rfl := Option.some.inj onShelf
        have waits := waiting.mem_iff.mpr List.mem_cons_self
        obtain ⟨⟨request, reply⟩, member, shown⟩ := List.mem_filterMap.mp waits
        refine .inr ?_
        cases reply with
        | some reply => cases shown
        | none =>
            cases request with
            | setItem number other document =>
                cases shown
                exact ⟨number, List.mem_filterMap.mpr ⟨_, member, rfl⟩⟩
            | _ => cases shown
      · rw [Function.update_of_ne same] at onShelf
        exact .inl onShelf

/-- Drawn entries have new names, and the record of an item is its document. -/
theorem Draws.facts {entries : List ((Shelf × String) × Dictionary)} (draws : market.Draws next entries) :
    (∀ entry ∈ entries, entry.1.2 ∉ market.used ∧ entry.1.2 ∈ next.used) ∧ (entries.map Prod.fst).Nodup ∧
      ∀ name record data, ((.index, name), record) ∈ entries → ((.items, name), data) ∈ entries → record = data := by
  cases draws with
  | nothing => simp
  | category unused drawn => simp [unused, drawn]
  | item unused drawn =>
      refine ⟨by simp [unused, drawn], by simp, fun name record data first second => ?_⟩
      simp only [List.mem_cons, List.not_mem_nil, or_false, Prod.mk.injEq, reduceCtorEq, false_and, false_or]
        at first second
      exact first.2.trans second.2.symm

/-- The abstract store follows each step of the market. -/
theorem Shelved.step (shelved : market.Shelved store) {event : MarketEvent}
    (taken : market.step double link event = some next) : ∃ later, store.Moves later ∧ next.Shelved later := by
  cases writes_of_step taken with
  | issue entries draws kept waiting used =>
      obtain ⟨fresh, distinct, agree⟩ := draws.facts
      have new : store.New entries { key | key ∈ store.used ∨ ∃ entry ∈ entries, entry.1 = key } := by
        refine ⟨fun key old => .inl old, fun entry member old => ?_, fun entry member => .inr ⟨entry, member, rfl⟩,
          distinct⟩
        exact (fresh entry member).1 (shelved.used _ old)
      refine ⟨_, .issue entries _ new, ⟨shelved.stored.trans kept.symm, ?_, ?_, ?_⟩⟩
      · rw [waiting]
        exact shelved.waiting.append_right entries
      · rintro key (old | ⟨entry, member, rfl⟩)
        · exact used (shelved.used key old)
        · exact (fresh entry member).2
      · -- A new name has no older document or record.
        have parts {key : Shelf × String} {data : Dictionary} (known : (store.issue entries _ new).Known key data) :
            store.Known key data ∨ (key, data) ∈ entries := by
          rcases known with found | waits
          · exact .inl (.inl found)
          · exact (List.mem_append.mp waits).imp .inr id
        intro name record data first second
        rcases parts first with old | added <;> rcases parts second with earlier | now
        · exact shelved.agrees name record data old earlier
        · exact absurd (shelved.used _ old.used) (fresh _ now).1
        · exact absurd (shelved.used _ earlier.used) (fresh _ added).1
        · exact agree name record data added now
  | fail entry kept waiting used =>
      have fewer : next.writes.Subperm store.waiting :=
        (List.sublist_cons_self entry _).subperm.trans (shelved.waiting.trans waiting).symm.subperm
      refine ⟨_, .drop next.writes fewer, ⟨shelved.stored.trans kept.symm, .refl _, used ▸ shelved.used, ?_⟩⟩
      have before {key : Shelf × String} {data : Dictionary} (known : (store.drop next.writes fewer).Known key data) :
          store.Known key data := known.imp id fun waits => fewer.subset waits
      exact fun name record data first second => shelved.agrees name record data (before first) (before second)
  | store key data stored waiting used =>
      have found : store.waiting.Perm ((key, data) :: next.writes) := shelved.waiting.trans waiting
      have moves : store.Moves (store.apply key data next.writes found) := .apply key data next.writes found
      refine ⟨_, moves, ⟨?_, .refl _, used ▸ shelved.used, fun name record document first second => ?_⟩⟩
      · rw [stored, ← shelved.stored]
        rfl
      · -- The stored write was known before.
        have before {key : Shelf × String} {data : Dictionary}
            (known : (store.apply _ _ next.writes found).Known key data) : store.Known key data :=
          (moves.known known).resolve_right fun fresh => fresh known.used
        exact shelved.agrees name record document (before first) (before second)

theorem Empty.shelved (empty : market.Empty) (unindexed : market.algolia = Documents.empty) :
    market.Shelved WriteOnce.empty := by
  refine ⟨?_, ?_, fun key impossible => impossible.elim, fun name record data first second => first.used.elim⟩
  · funext ⟨shelf, name⟩
    cases shelf with
    | items => exact (empty.store .items name).symm
    | categories => exact (empty.store .category name).symm
    | index =>
        unfold shelf
        rw [unindexed]
        rfl
  · unfold writes
    rw [empty.flights]
    exact .refl _

/-- A run of the market is a run of the abstract store, which keeps what is stored. -/
theorem Shelved.run (shelved : market.Shelved store) {events : List MarketEvent}
    (ran : market.run double link events = some next) : ∃ later, next.Shelved later ∧
      ∀ key data, market.shelf key = some data → next.shelf key = some data := by
  refine Transition.run_invariant
    (fun reached => ∃ later, Shelved later reached ∧ ∀ key data, market.shelf key = some data →
      reached.shelf key = some data) ?_
    ⟨store, shelved, fun _ _ found => found⟩ (.of_all (fun _ _ => trivial) market events) ran
  rintro state event after ⟨earlier, held, keeps⟩ _ taken
  obtain ⟨later, moves, heldAfter⟩ := held.step taken
  refine ⟨later, heldAfter, fun key data found => ?_⟩
  have before : earlier.stored key = some data := held.stored ▸ keeps key data found
  exact heldAfter.stored ▸ moves.keeps before

end Market

/-- An item, a category, or a search record never changes and never goes away once it is stored, and the search record
of an item is its document. -/
theorem published_documents_last (double : String → Option Double) (link : StoragePath → String)
    {market middle final : Market} {before after : List MarketEvent} (empty : market.Empty)
    (unindexed : market.algolia = Documents.empty) (ran : market.run double link before = some middle)
    (continued : middle.run double link after = some final) :
    (∀ key data, middle.shelf key = some data → final.shelf key = some data) ∧
      ∀ name record data, final.shelf (.index, name) = some record → final.shelf (.items, name) = some data →
        record = data := by
  obtain ⟨store, shelved, _⟩ := (empty.shelved unindexed).run ran
  obtain ⟨later, shelvedFinal, keeps⟩ := shelved.run continued
  refine ⟨keeps, fun name record data indexed stored => ?_⟩
  rw [← shelvedFinal.stored] at indexed stored
  exact shelvedFinal.agrees name record data (.inl indexed) (.inl stored)

/-- Another form is completed and published after the first one. -/
def secondPublication : List MarketEvent :=
  [.openAddItem 0 sellerCategory, .editFields 1 "Hat" "1" "A hat", .doneButtonWasTapped 1 true ("C", "D"),
    .serve 2 true, .serve 3 true]

/-- The first item stays when the second one is published. -/
theorem published_documents_last_second :
    ∃ middle final data, sellerMarket.run sellerDouble sellerLink plainPublication = some middle ∧
      middle.run sellerDouble sellerLink secondPublication = some final ∧
      middle.shelf (.items, "B") = some data ∧ final.shelf (.items, "B") = some data ∧
      final.shelf (.index, "D") = final.shelf (.items, "D") := by
  have empty : sellerMarket.Empty := ⟨fun _ _ => rfl, fun _ => rfl, fun _ => rfl, rfl, rfl⟩
  obtain ⟨keeps, agrees⟩ := published_documents_last sellerDouble sellerLink empty rfl
    (rfl : sellerMarket.run sellerDouble sellerLink plainPublication = some _)
    (rfl : Market.run sellerDouble sellerLink _ secondPublication = some _)
  exact ⟨_, _, _, rfl, rfl, rfl, keeps _ _ rfl, congrArg some (agrees "D" _ _ rfl rfl)⟩

end ShoppingApp
