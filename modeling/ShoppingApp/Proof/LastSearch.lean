import ShoppingApp.Library.Pool
import ShoppingApp.Model.Search

namespace ShoppingApp

/-- The item of a document that exists. -/
def Store.item (store : Store) (itemId : String) : Option Item := (store.data .items itemId).map Item.ofDictionary

/-- The download has collected the items of its identifiers but the pending ones. -/
structure ItemDownload.Gathers (store : Store) (pending : List String) (download : ItemDownload) : Prop where
  counter : download.counter = download.itemArray.length
  items : (download.itemArray.map some ++ pending.map store.item).Perm (download.withIds.map store.item)

/-- The text of the request when this search asks Algolia. -/
def SearchFlight.asks (search : Nat) (flight : SearchFlight) : Option String :=
  match flight.request with
  | .searchAlgolia searchString => if flight.search = search then some searchString else none
  | .getItem _ => none

/-- The identifier of the document that this search reads. -/
def SearchFlight.reads (search : Nat) (flight : SearchFlight) : Option String :=
  match flight.request with
  | .searchAlgolia _ => none
  | .getItem name => if flight.search = search then some name else none

/-- Algolia serves the hits of a search, or the callback of a document runs that a search reads. -/
inductive SearchEntry where
  | served (search : Nat) (objectIds : List (Option String))
  | received (search : Nat)

/-- The object identifiers that Algolia has served to the search. -/
def SearchEntry.hits (search : Nat) : SearchEntry → Option (List (Option String))
  | .served owner objectIds => if owner = search then some objectIds else none
  | .received _ => none

/-- The search whose document callback has run. -/
def SearchEntry.receiver : SearchEntry → Option Nat
  | .received search => some search
  | .served _ _ => none

/-- A reply of Algolia lists the hits that it has served, and their documents exist. The reply of a read is its
document. -/
def SearchFlight.Finds (store : Store) (past : List SearchEntry) (flight : SearchFlight) : Prop :=
  match flight.request with
  | .searchAlgolia _ => (flight.reply = none → past.filterMap (SearchEntry.hits flight.search) = []) ∧
      ∀ reply ∈ flight.reply, ∃ resultIds, resultIds ≠ [] ∧ reply = .hits (resultIds.map some) ∧
        past.filterMap (SearchEntry.hits flight.search) = [resultIds.map some] ∧
        ∀ itemId ∈ resultIds, store.item itemId ≠ none
  | .getItem name => store.item name ≠ none ∧ ∀ reply ∈ flight.reply, reply = .document (store.readItem name)

namespace SearchWorld

def asking (world : SearchWorld) (search : Nat) : List String := world.flights.filterMap (SearchFlight.asks search)

def pending (world : SearchWorld) (search : Nat) : List String := world.flights.filterMap (SearchFlight.reads search)

/-- The results are exactly the items of these hits. -/
def Shows (world : SearchWorld) (objectIds : List (Option String)) : Prop :=
  (world.screen.searchResults.map some).Perm (objectIds.map fun objectId => objectId.bind world.store.item)

/-- Algolia lists at least one hit, the documents of its hits exist, and no request fails. -/
def Finds (world : SearchWorld) : SearchEvent → Prop
  | .serve _ (.hits objectIds) => objectIds ≠ [] ∧ ∀ objectId ∈ objectIds, (objectId.bind world.store.item).isSome
  | .serve _ .failure => False
  | _ => True

/-- What Algolia serves to a search, and the search whose document callback runs. -/
def entries (world : SearchWorld) : SearchEvent → List SearchEntry
  | .serve index (.hits objectIds) =>
      match world.flights[index]? with
      | some ⟨search, .searchAlgolia _, none⟩ => [.served search objectIds]
      | _ => []
  | .callback index =>
      match world.flights[index]? with
      | some ⟨search, .getItem _, some _⟩ => [.received search]
      | _ => []
  | _ => []

/-- The search waits for Algolia once it is submitted, and then it reads the documents of its hits. -/
inductive Stage (past : List SearchEntry) (world : SearchWorld) (search : Nat) : Prop where
  | waiting (download : world.screen.downloads search = none) (pending : world.pending search = [])
      (asking : (world.asking search).length = if search < world.screen.submitted then 1 else 0)
      (unserved : world.screen.submitted ≤ search → past.filterMap (SearchEntry.hits search) = [])
  | reading {shared : ItemDownload} (download : world.screen.downloads search = some shared)
      (submitted : search < world.screen.submitted) (asking : world.asking search = []) (some : shared.withIds ≠ [])
      (served : past.filterMap (SearchEntry.hits search) = [shared.withIds.map Option.some])
      (gathers : shared.Gathers world.store (world.pending search))
      (received : (world.pending search).length < shared.withIds.length → .received search ∈ past)

/-- Every search is at its stage, and the search of the last document callback shows its items once it is done. -/
structure Searching (past : List SearchEntry) (world : SearchWorld) : Prop where
  running : world.screen.trapped = false
  flights : ∀ flight ∈ world.flights, flight.Finds world.store past
  stage : ∀ search, world.Stage past search
  last : ∀ search ∈ (past.filterMap SearchEntry.receiver).getLast?, world.screen.downloads search ≠ none ∧
    (world.pending search = [] → ∃ objectIds, past.filterMap (SearchEntry.hits search) = [objectIds] ∧
      world.Shows objectIds)

end SearchWorld

namespace ItemDownload.Gathers

variable {store : Store} {rest other : List String} {itemId : String} {download : ItemDownload}

theorem perm (gathers : download.Gathers store rest) (same : rest.Perm other) : download.Gathers store other :=
  ⟨gathers.counter, ((same.symm.map store.item).append_left _).trans gathers.items⟩

/-- A found document is collected, and the array is delivered exactly when nothing is pending. -/
theorem receive (gathers : download.Gathers store (itemId :: rest)) {data : Dictionary}
    (stored : store.data .items itemId = some data) :
    (download.receive (.found data)).1.Gathers store rest ∧
      (download.receive (.found data)).2 =
        if rest = [] then [(download.receive (.found data)).1.itemArray] else [] := by
  have total := gathers.items.length_eq
  simp only [List.length_append, List.length_map, List.length_cons] at total
  refine ⟨⟨?_, ?_⟩, ?_⟩
  · simp [ItemDownload.receive, gathers.counter]
  · have own : store.item itemId = some (Item.ofDictionary data) := by simp [Store.item, stored]
    simpa [ItemDownload.receive, own] using gathers.items
  · simp only [ItemDownload.receive, gathers.counter]
    by_cases last : rest = []
    · subst last
      rw [if_pos rfl, if_pos (by simpa using total)]
    · have waiting : 0 < rest.length := List.length_pos_iff.mpr last
      rw [if_neg last, if_neg (by omega)]

end ItemDownload.Gathers

/-- Object identifiers that are all present survive the forced cast. -/
theorem exists_map_some {objectIds : List (Option String)} (present : none ∉ objectIds) :
    ∃ resultIds : List String, objectIds = resultIds.map some := by
  refine ⟨objectIds.filterMap id, ?_⟩
  rw [List.map_filterMap_some_eq_filter_map_isSome, List.map_id, List.filter_eq_self.mpr]
  intro objectId member
  exact Option.isSome_iff_ne_none.mpr fun absent => present (absent ▸ member)

/-- Object identifiers of existing documents survive the forced cast. -/
theorem Store.hits_cast {store : Store} {objectIds : List (Option String)}
    (exist : ∀ objectId ∈ objectIds, (objectId.bind store.item).isSome) :
    ∃ resultIds, objectIds = List.map some resultIds ∧ ∀ itemId ∈ resultIds, store.item itemId ≠ none := by
  obtain ⟨resultIds, rfl⟩ := exists_map_some fun absent => Bool.false_ne_true (exist none absent)
  refine ⟨resultIds, rfl, fun itemId member => ?_⟩
  exact Option.isSome_iff_ne_none.mp (exist (some itemId) (List.mem_map_of_mem member))

/-- A flight depends on the hits that were served to its search alone. -/
theorem SearchFlight.Finds.congr {store : Store} {past later : List SearchEntry} {flight : SearchFlight}
    (finds : flight.Finds store past)
    (hits : later.filterMap (SearchEntry.hits flight.search) = past.filterMap (SearchEntry.hits flight.search)) :
    flight.Finds store later := by
  obtain ⟨search, request, reply⟩ := flight
  cases request with
  | searchAlgolia searchString =>
      unfold SearchFlight.Finds at finds ⊢
      rw [hits]
      exact finds
  | getItem name => exact finds

namespace SearchEntry

variable {past : List SearchEntry} {search other : Nat} {objectIds : List (Option String)}

theorem hits_served : (past ++ [served search objectIds]).filterMap (hits search) =
    past.filterMap (hits search) ++ [objectIds] := by
  simp [hits]

theorem hits_other (different : search ≠ other) :
    (past ++ [served search objectIds]).filterMap (hits other) = past.filterMap (hits other) := by
  simp [hits, different]

theorem receiver_served :
    (past ++ [served search objectIds]).filterMap receiver = past.filterMap receiver := by
  simp [receiver]

theorem hits_received : (past ++ [received search]).filterMap (hits other) = past.filterMap (hits other) := by
  simp [hits]

theorem receiver_received :
    (past ++ [received search]).filterMap receiver = past.filterMap receiver ++ [search] := by
  simp [receiver]

end SearchEntry

namespace SearchWorld

variable {world next : SearchWorld} {past : List SearchEntry}

/-- An answer leaves what the searches wait for. -/
theorem serve_views {index search : Nat} {request : SearchRequest} (reply : SearchReply)
    (found : world.flights[index]? = some ⟨search, request, none⟩) (other : Nat) :
    asking { world with flights := world.flights.set index ⟨search, request, some reply⟩ } other = world.asking other ∧
      pending { world with flights := world.flights.set index ⟨search, request, some reply⟩ } other =
        world.pending other :=
  ⟨Pool.filterMap_set_same _ found rfl, Pool.filterMap_set_same _ found rfl⟩

/-- A stage depends on the views of its search alone. -/
theorem Stage.congr {search : Nat} (stage : world.Stage past search) (store : next.store = world.store)
    (downloads : next.screen.downloads search = world.screen.downloads search)
    (asking : (world.asking search).Perm (next.asking search)) (pending : next.pending search = world.pending search)
    (submitted : search < next.screen.submitted ↔ search < world.screen.submitted) : next.Stage past search := by
  cases stage with
  | waiting download none asked unserved =>
      refine .waiting (downloads.trans download) (pending.trans none) ?_ fun later => unserved ?_
      · rw [← asking.length_eq, asked]
        simp only [submitted]
      · exact Nat.le_of_not_lt fun inside => absurd (submitted.mpr inside) (Nat.not_lt.mpr later)
  | reading download isSubmitted silent some served gathers received =>
      refine .reading (downloads.trans download) (submitted.mpr isSubmitted) ?_ some served ?_ ?_
      · rw [silent] at asking
        exact asking.symm.eq_nil
      · rw [store, pending]
        exact gathers
      · rw [pending]
        exact received

theorem Stage.mono {search : Nat} {later : List SearchEntry} (stage : world.Stage past search) (grows : past ⊆ later)
    (hits : later.filterMap (SearchEntry.hits search) = past.filterMap (SearchEntry.hits search)) :
    world.Stage later search := by
  cases stage with
  | waiting download none asked unserved =>
      exact .waiting download none asked fun beyond => hits.trans (unserved beyond)
  | reading download submitted silent some served gathers received =>
      exact .reading download submitted silent some (hits.trans served) gathers fun fewer => grows (received fewer)

/-- A search that asks Algolia has been submitted, it asks once, and it reads nothing yet. -/
theorem Stage.waits {search : Nat} (stage : world.Stage past search) (asks : world.asking search ≠ []) :
    world.screen.downloads search = none ∧ world.pending search = [] ∧ search < world.screen.submitted ∧
      (world.asking search).length = 1 := by
  cases stage with
  | waiting download none once _ =>
      by_cases submitted : search < world.screen.submitted
      · rw [if_pos submitted] at once
        exact ⟨download, none, submitted, once⟩
      · rw [if_neg submitted] at once
        exact absurd (List.eq_nil_of_length_eq_zero once) asks
  | reading _ _ silent _ _ _ _ => exact absurd silent asks

/-- A text starts one search, which asks Algolia and reads nothing yet. -/
theorem submit_views (world : SearchWorld) {text : String} (some : text ≠ "") :
    (world.perform (world.screen.searchButtonPressed text)).screen =
        { world.screen with indicator := true, submitted := world.screen.submitted + 1 } ∧
      (world.perform (world.screen.searchButtonPressed text)).flights =
        world.flights ++ [⟨world.screen.submitted, .searchAlgolia text, none⟩] ∧
      (∀ search, asking (world.perform (world.screen.searchButtonPressed text)) search =
        world.asking search ++ if world.screen.submitted = search then [text] else []) ∧
      ∀ search, pending (world.perform (world.screen.searchButtonPressed text)) search = world.pending search := by
  have pressed : world.screen.searchButtonPressed text =
      ({ world.screen with indicator := true, submitted := world.screen.submitted + 1 },
        [⟨world.screen.submitted, .searchAlgolia text, none⟩]) := if_pos some
  rw [pressed]
  refine ⟨rfl, rfl, fun search => ?_, fun search => ?_⟩
  · unfold asking perform
    rw [List.filterMap_append]
    congr 1
    simp only [SearchFlight.asks, List.filterMap_cons, List.filterMap_nil]
    split <;> simp_all
  · refine Pool.filterMap_append_silent _ fun flight member => ?_
    rw [List.mem_singleton.mp member]
    rfl

/-- Nothing happens without a text. -/
theorem submit_empty (world : SearchWorld) : world.perform (world.screen.searchButtonPressed "") = world := by
  simp [perform, SearchScreen.searchButtonPressed]

/-- A submitted search asks Algolia. -/
theorem Searching.submit (searching : Searching past world) (text : String) :
    Searching past (world.perform (world.screen.searchButtonPressed text)) := by
  by_cases empty : text = ""
  · rw [empty, submit_empty]
    exact searching
  · obtain ⟨screen, flights, askingNow, pendingSame⟩ := world.submit_views empty
    refine ⟨?_, ?_, fun search => ?_, fun search isLast => ?_⟩
    · rw [screen]
      exact searching.running
    · rw [flights]
      refine Pool.forall_append searching.flights fun flight member => ?_
      rw [List.mem_singleton.mp member]
      refine ⟨fun _ => ?_, fun reply absent => by cases absent⟩
      cases searching.stage world.screen.submitted with
      | waiting _ _ _ unserved => exact unserved (Nat.le_refl _)
      | reading _ submitted => exact absurd submitted (Nat.lt_irrefl _)
    · by_cases own : world.screen.submitted = search
      · subst own
        cases searching.stage world.screen.submitted with
        | waiting download none asked unserved =>
            refine .waiting ?_ ((pendingSame _).trans none) ?_ fun _ => unserved (Nat.le_refl _)
            · rw [screen]
              exact download
            · rw [askingNow, List.length_append, asked, screen]
              simp
        | reading download submitted => exact absurd submitted (Nat.lt_irrefl _)
      · refine (searching.stage search).congr rfl (by rw [screen]) ?_ (pendingSame search) ?_
        · rw [askingNow, if_neg own, List.append_nil]
        · rw [screen]
          change search < world.screen.submitted + 1 ↔ search < world.screen.submitted
          omega
    · obtain ⟨present, shows⟩ := searching.last search isLast
      unfold Shows
      rw [screen]
      refine ⟨present, fun done => shows ?_⟩
      rwa [pendingSame] at done

/-- The document of a read comes back. -/
theorem Searching.serveDocument (searching : Searching past world) {index search : Nat} {name : String}
    (found : world.flights[index]? = some ⟨search, .getItem name, none⟩) :
    Searching past { world with
      flights := world.flights.set index ⟨search, .getItem name, some (.document (world.store.readItem name))⟩ } := by
  have views := fun other => serve_views (.document (world.store.readItem name)) found other
  refine ⟨searching.running, ?_, fun other => ?_, fun other isLast => ?_⟩
  · refine Pool.forall_set searching.flights ⟨(searching.flights _ (List.mem_of_getElem? found)).1, ?_⟩
    exact fun other same => (Option.some.inj same).symm
  · exact (searching.stage other).congr rfl rfl (.of_eq (views other).1.symm) (views other).2 Iff.rfl
  · obtain ⟨present, shows⟩ := searching.last other isLast
    refine ⟨present, fun done => shows ?_⟩
    rwa [(views other).2] at done

/-- Algolia serves its hits to the one flight that asks for them. -/
theorem Searching.serveHits (searching : Searching past world) {index search : Nat} {searchString : String}
    {resultIds : List String} (found : world.flights[index]? = some ⟨search, .searchAlgolia searchString, none⟩)
    (some : resultIds ≠ []) (exist : ∀ itemId ∈ resultIds, world.store.item itemId ≠ none) :
    Searching (past ++ [.served search (resultIds.map Option.some)]) { world with
      flights := world.flights.set index
        ⟨search, .searchAlgolia searchString, Option.some (.hits (resultIds.map Option.some))⟩ } := by
  have views := fun other => serve_views (.hits (resultIds.map Option.some)) found other
  have asks : searchString ∈ world.asking search :=
    List.mem_filterMap.mpr ⟨_, List.mem_of_getElem? found, if_pos rfl⟩
  obtain ⟨absent, none, submitted, once⟩ := (searching.stage search).waits (List.ne_nil_of_mem asks)
  have unserved := (searching.flights _ (List.mem_of_getElem? found)).1 rfl
  have alone : (world.flights.eraseIdx index).filterMap (SearchFlight.asks search) = [] := by
    have split := (Pool.filterMap_perm (SearchFlight.asks search) found).length_eq
    have own : SearchFlight.asks search ⟨search, .searchAlgolia searchString, Option.none⟩ = Option.some searchString :=
      if_pos rfl
    rw [own, Option.toList_some, List.length_append, List.length_singleton] at split
    refine List.eq_nil_of_length_eq_zero ?_
    change (world.asking search).length = _ at split
    omega
  refine ⟨searching.running, fun flight member => ?_, fun other => ?_, fun other isLast => ?_⟩
  · rcases List.mem_cons.mp ((Pool.perm_set found _).mem_iff.mp member) with rfl | rest
    · refine ⟨fun impossible => (by cases impossible), fun reply same => ⟨resultIds, some, ?_, ?_, exist⟩⟩
      · exact (Option.some.inj same).symm
      · rw [SearchEntry.hits_served, unserved, List.nil_append]
    · have before := searching.flights flight (List.mem_of_mem_eraseIdx rest)
      obtain ⟨owner, request, reply⟩ := flight
      by_cases own : search = owner
      · subst own
        cases request with
        | searchAlgolia other =>
            have silent := List.filterMap_eq_nil_iff.mp alone _ rest
            cases (if_pos rfl).symm.trans silent
        | getItem name => exact before
      · exact before.congr (SearchEntry.hits_other own)
  · by_cases own : search = other
    · subst own
      refine .waiting absent ((views search).2.trans none) ?_ fun beyond => absurd submitted (Nat.not_lt.mpr beyond)
      rw [(views search).1, once]
      exact (if_pos submitted).symm
    · refine Stage.mono ?_ (List.subset_append_left _ _) (SearchEntry.hits_other own)
      exact (searching.stage other).congr rfl rfl (.of_eq (views other).1.symm) (views other).2 Iff.rfl
  · rw [SearchEntry.receiver_served] at isLast
    obtain ⟨present, shows⟩ := searching.last other isLast
    have different : search ≠ other := by
      rintro rfl
      exact present absent
    refine ⟨present, fun done => ?_⟩
    rw [SearchEntry.hits_other different]
    exact shows ((views other).2.symm.trans done)

/-- An answer brings the hits of a search or the document of a read. -/
theorem Searching.serve (searching : Searching past world) {index search : Nat} {request : SearchRequest}
    {answer : SearchAnswer} {reply : SearchReply} (found : world.flights[index]? = some ⟨search, request, none⟩)
    (finds : world.Finds (.serve index answer)) (replied : answer.reply world.store request = some reply) :
    Searching (past ++ world.entries (.serve index answer))
      { world with flights := world.flights.set index ⟨search, request, some reply⟩ } := by
  cases request with
  | searchAlgolia searchString =>
      cases answer with
      | failure => cases finds
      | success => cases replied
      | hits objectIds =>
          obtain rfl := Option.some.inj replied
          obtain ⟨some, exist⟩ := finds
          obtain ⟨resultIds, rfl, present⟩ := Store.hits_cast exist
          simp only [entries, found]
          exact searching.serveHits found (fun empty => some (congrArg _ empty)) present
  | getItem name =>
      cases answer with
      | failure => cases finds
      | hits objectIds => cases replied
      | success =>
          obtain rfl := Option.some.inj replied
          simp only [entries, List.append_nil]
          exact searching.serveDocument found

/-- The forced cast of present identifiers gives all of them. -/
theorem mapM_map_some (resultIds : List String) : (resultIds.map some).mapM id = some resultIds := by
  induction resultIds with
  | nil => rfl
  | cons itemId rest ih => simp [List.mapM_cons, ih]

/-- The world once the reads of the hits have taken the place of the request to Algolia. -/
def startReads (world : SearchWorld) (index search : Nat) (screen : SearchScreen) (resultIds : List String) :
    SearchWorld :=
  perform { world with flights := world.flights.eraseIdx index }
    (screen, resultIds.map fun itemId => ⟨search, .getItem itemId, none⟩)

theorem asking_startReads {index search : Nat} {searchString : String} {reply : Option SearchReply}
    (found : world.flights[index]? = some ⟨search, .searchAlgolia searchString, reply⟩) (screen : SearchScreen)
    (resultIds : List String) (other : Nat) :
    (world.asking other).Perm ((if search = other then [searchString] else []) ++
      (world.startReads index search screen resultIds).asking other) := by
  have silent : (world.startReads index search screen resultIds).asking other =
      (world.flights.eraseIdx index).filterMap (SearchFlight.asks other) :=
    Pool.filterMap_append_silent _ fun flight member => by
      obtain ⟨itemId, _, rfl⟩ := List.mem_map.mp member
      rfl
  rw [silent]
  refine (Pool.filterMap_perm (SearchFlight.asks other) found).trans (List.Perm.of_eq ?_)
  congr 1
  simp only [SearchFlight.asks]
  split <;> rfl

theorem pending_startReads {index search : Nat} {searchString : String} {reply : Option SearchReply}
    (found : world.flights[index]? = some ⟨search, .searchAlgolia searchString, reply⟩) (screen : SearchScreen)
    (resultIds : List String) (other : Nat) :
    (world.startReads index search screen resultIds).pending other =
      world.pending other ++ if search = other then resultIds else [] := by
  have before : (world.flights.eraseIdx index).filterMap (SearchFlight.reads other) = world.pending other :=
    Pool.filterMap_eraseIdx_silent _ found rfl
  unfold pending startReads perform
  rw [List.filterMap_append, before]
  congr 1
  rw [List.filterMap_map]
  by_cases own : search = other
  · rw [if_pos own]
    simp [SearchFlight.reads, own]
  · rw [if_neg own]
    simp [SearchFlight.reads, own]

/-- The callback of Algolia starts the reads of its hits. -/
theorem Searching.searched (searching : Searching past world) {index search : Nat} {searchString : String}
    {reply : SearchReply} (found : world.flights[index]? = some ⟨search, .searchAlgolia searchString, some reply⟩) :
    Searching past (perform { world with flights := world.flights.eraseIdx index }
      (complete world.screen search (.searchAlgolia searchString) reply)) := by
  obtain ⟨resultIds, some, rfl, served, exist⟩ := (searching.flights _ (List.mem_of_getElem? found)).2 reply rfl
  let screen : SearchScreen := { world.screen with
    downloads := Function.update world.screen.downloads search (Option.some { withIds := resultIds }) }
  have completed : perform { world with flights := world.flights.eraseIdx index }
      (complete world.screen search (.searchAlgolia searchString) (.hits (resultIds.map Option.some))) =
        world.startReads index search screen resultIds := by
    simp only [complete, SearchScreen.searchCompletion, mapM_map_some, SearchScreen.downloadItemsFromFirebase]
    rw [if_pos (List.length_pos_iff.mpr some)]
    rfl
  rw [completed]
  have asked := asking_startReads found screen resultIds
  have pendingNow := pending_startReads found screen resultIds
  have single := asked search
  rw [if_pos rfl] at single
  obtain ⟨absent, none, submitted, once⟩ := (searching.stage search).waits fun silent =>
    List.cons_ne_nil _ _ (silent ▸ single.symm).eq_nil
  refine ⟨searching.running, ?_, fun other => ?_, fun other isLast => ?_⟩
  · refine Pool.forall_append (Pool.forall_eraseIdx searching.flights) fun flight member => ?_
    obtain ⟨itemId, inside, rfl⟩ := List.mem_map.mp member
    exact ⟨exist itemId inside, fun reply absent => by cases absent⟩
  · by_cases own : search = other
    · subst own
      have total := single.length_eq
      rw [once] at total
      refine .reading (Function.update_self ..) submitted (List.eq_nil_of_length_eq_zero ?_) some served ⟨rfl, ?_⟩ ?_
      · simpa using total.symm
      · rw [pendingNow, none, if_pos rfl]
        exact List.Perm.refl _
      · rw [pendingNow, none, if_pos rfl]
        exact fun fewer => absurd fewer (Nat.lt_irrefl _)
    · have askedOther := asked other
      rw [if_neg own, List.nil_append] at askedOther
      refine (searching.stage other).congr rfl (Function.update_of_ne (Ne.symm own) ..) askedOther ?_ Iff.rfl
      rw [pendingNow, if_neg own, List.append_nil]
  · obtain ⟨present, shows⟩ := searching.last other isLast
    have different : other ≠ search := by
      rintro rfl
      exact present absent
    have kept : (world.startReads index search screen resultIds).screen.downloads other =
        world.screen.downloads other := Function.update_of_ne different ..
    refine ⟨kept ▸ present, fun done => ?_⟩
    rw [pendingNow, if_neg different.symm, List.append_nil] at done
    exact shows done

/-- The delivered arrays change nothing but the results and the indicator. -/
theorem deliver_keeps (delivered : List (List Item)) (screen : SearchScreen) :
    (screen.deliver delivered).downloads = screen.downloads ∧
      (screen.deliver delivered).submitted = screen.submitted ∧
      (screen.deliver delivered).trapped = screen.trapped := by
  induction delivered generalizing screen with
  | nil => exact ⟨rfl, rfl, rfl⟩
  | cons items rest ih => exact ih (screen.showResults items)

/-- The callback of a read takes its identifier away from the search, and nothing from another one. -/
theorem read_views {index search : Nat} {name : String} {reply : Option SearchReply}
    (found : world.flights[index]? = some ⟨search, .getItem name, reply⟩) :
    (∀ other, asking { world with flights := world.flights.eraseIdx index } other = world.asking other) ∧
      (world.pending search).Perm (name :: pending { world with flights := world.flights.eraseIdx index } search) ∧
      ∀ other, other ≠ search →
        pending { world with flights := world.flights.eraseIdx index } other = world.pending other := by
  refine ⟨fun other => Pool.filterMap_eraseIdx_silent _ found rfl, ?_, fun other different => ?_⟩
  · refine (Pool.filterMap_perm (SearchFlight.reads search) found).trans (List.Perm.of_eq ?_)
    simp [SearchFlight.reads, pending]
  · exact Pool.filterMap_eraseIdx_silent _ found (if_neg (Ne.symm different))

/-- The callback of a read collects its document, and the last one of a search shows all of its items. -/
theorem Searching.read (searching : Searching past world) {index search : Nat} {name : String}
    {reply : SearchReply} (found : world.flights[index]? = some ⟨search, .getItem name, some reply⟩) :
    Searching (past ++ [.received search]) (perform { world with flights := world.flights.eraseIdx index }
      (complete world.screen search (.getItem name) reply)) := by
  obtain ⟨exist, same⟩ := searching.flights _ (List.mem_of_getElem? found)
  obtain rfl := same reply rfl
  obtain ⟨data, stored⟩ : ∃ data, world.store.data .items name = some data := by
    cases stored : world.store.data .items name with
    | none => simp [Store.item, stored] at exist
    | some data => exact ⟨data, rfl⟩
  let erased : SearchWorld := { world with flights := world.flights.eraseIdx index }
  obtain ⟨asked, own, others⟩ := read_views found
  cases searching.stage search with
  | waiting _ none _ _ =>
      rw [none] at own
      exact absurd own.symm.eq_nil (List.cons_ne_nil _ _)
  | @reading shared download submitted silent some served gathers _ =>
      obtain ⟨received, delivered⟩ := (gathers.perm own).receive stored
      let collected : SearchScreen := { world.screen with
        downloads := Function.update world.screen.downloads search (Option.some (shared.receive (.found data)).1) }
      have completed : complete world.screen search (.getItem name) (.document (world.store.readItem name)) =
          (collected.deliver (shared.receive (.found data)).2, []) := by
        simp only [complete, SearchScreen.itemCompletion, Store.readItem, stored, download]
        rfl
      have after : perform erased (complete world.screen search (.getItem name)
          (.document (world.store.readItem name))) =
          { erased with screen := collected.deliver (shared.receive (.found data)).2 } := by
        rw [completed]
        simp [perform]
      rw [after]
      obtain ⟨downloads, sameSubmitted, sameTrapped⟩ := deliver_keeps (shared.receive (.found data)).2 collected
      have ownDownload : (collected.deliver (shared.receive (.found data)).2).downloads search =
          Option.some (shared.receive (.found data)).1 := by
        rw [downloads]
        exact Function.update_self ..
      have withIds : (shared.receive (.found data)).1.withIds = shared.withIds := rfl
      refine ⟨sameTrapped.trans searching.running, fun flight member => ?_, fun other => ?_, ?_⟩
      · exact (searching.flights flight (List.mem_of_mem_eraseIdx member)).congr SearchEntry.hits_received
      · by_cases same : other = search
        · subst same
          refine .reading ownDownload (sameSubmitted ▸ submitted) ((asked other).trans silent) (withIds ▸ some)
            (SearchEntry.hits_received.trans (withIds ▸ served)) received fun _ => ?_
          exact List.mem_append_right _ List.mem_cons_self
        · refine ((searching.stage other).mono (List.subset_append_left _ _) SearchEntry.hits_received).congr rfl ?_
            (.of_eq (asked other).symm) (others other same) (Iff.of_eq (congrArg _ sameSubmitted))
          have kept : (collected.deliver (shared.receive (.found data)).2).downloads other =
              collected.downloads other := congrFun downloads other
          exact kept.trans (Function.update_of_ne same ..)
      · intro other isLast
        rw [SearchEntry.receiver_received, List.getLast?_concat] at isLast
        obtain rfl := Option.some.inj isLast
        refine ⟨fun absent => ?_, fun done => ?_⟩
        · rw [show _ = Option.some _ from ownDownload] at absent
          cases absent
        · rw [if_pos (show erased.pending search = [] from done)] at delivered
          have rest : erased.pending search = [] := done
          have items := received.items
          rw [rest, List.map_nil, List.append_nil] at items
          refine ⟨_, SearchEntry.hits_received.trans served, ?_⟩
          unfold Shows
          rw [delivered, List.map_map]
          exact items

/-- Every step of a run keeps the searches at their stages. -/
theorem Searching.step (searching : Searching past world) {event : SearchEvent} (finds : world.Finds event)
    (taken : world.step event = some next) : Searching (past ++ world.entries event) next := by
  cases event with
  | searchButtonPressed text =>
      obtain ⟨_, rfl⟩ := step_searchButtonPressed.mp taken
      simp only [entries, List.append_nil]
      exact searching.submit text
  | serve index answer =>
      obtain ⟨search, request, reply, found, replied, rfl⟩ := step_serve.mp taken
      exact searching.serve found finds replied
  | callback index =>
      obtain ⟨search, request, reply, found, rfl⟩ := step_callback.mp taken
      rw [searching.running, if_neg Bool.false_ne_true]
      cases request with
      | searchAlgolia searchString =>
          simp only [entries, found, List.append_nil]
          exact searching.searched found
      | getItem name =>
          simp only [entries, found]
          exact searching.read found

end SearchWorld

/-- Once every callback of a run has run, Algolia has served hits once to the search whose last document callback ran
last, and the results are exactly the items of these hits. -/
theorem last_completed_search_shows {world final : SearchWorld} {events : List SearchEvent}
    (fresh : world.screen = {}) (quiet : world.flights = [])
    (finds : Transition.Along SearchWorld.step SearchWorld.Finds world events) (ran : world.run events = some final)
    (done : final.flights = []) (submitted : 0 < final.screen.submitted) :
    let past := Transition.log SearchWorld.step SearchWorld.entries world events
    ∃ search ∈ (past.filterMap SearchEntry.receiver).getLast?, search < final.screen.submitted ∧
      ∃ objectIds, past.filterMap (SearchEntry.hits search) = [objectIds] ∧ final.Shows objectIds := by
  intro past
  have initial : world.Searching [] := by
    refine ⟨by rw [fresh], fun flight member => ?_, fun search => ?_, nofun⟩
    · rw [quiet] at member
      cases member
    · refine .waiting (by rw [fresh]) (by simp [SearchWorld.pending, quiet]) ?_ fun _ => rfl
      simp [SearchWorld.asking, quiet, fresh]
  have searching : final.Searching past := Transition.run_log (fun state past => SearchWorld.Searching past state)
    (fun state event next past searching finds taken => searching.step finds taken) initial finds ran
  have noneAsking (search : Nat) : final.asking search = [] := by simp [SearchWorld.asking, done]
  have nonePending (search : Nat) : final.pending search = [] := by simp [SearchWorld.pending, done]
  have finished : past.filterMap SearchEntry.receiver ≠ [] := by
    cases searching.stage 0 with
    | waiting _ _ asking _ =>
        rw [noneAsking, if_pos submitted] at asking
        cases asking
    | reading _ _ _ some _ _ received =>
        refine List.ne_nil_of_mem (List.mem_filterMap.mpr ⟨_, received ?_, rfl⟩)
        rw [nonePending]
        exact List.length_pos_iff.mpr some
  obtain ⟨search, isLast⟩ := Option.ne_none_iff_exists'.mp fun absent => finished (List.getLast?_eq_none_iff.mp absent)
  obtain ⟨present, shows⟩ := searching.last search isLast
  refine ⟨search, isLast, ?_, shows (nonePending search)⟩
  cases searching.stage search with
  | waiting download _ _ _ => exact absurd download present
  | reading _ submitted _ _ _ _ _ => exact submitted

instance (world : SearchWorld) : ∀ event, Decidable (world.Finds event)
  | .serve _ (.hits _) => inferInstanceAs (Decidable (_ ∧ _))
  | .serve _ .failure => inferInstanceAs (Decidable False)
  | .searchButtonPressed _ | .serve _ .success | .callback _ => inferInstanceAs (Decidable True)

instance (world : SearchWorld) (objectIds : List (Option String)) : Decidable (world.Shows objectIds) :=
  inferInstanceAs (Decidable (List.Perm _ _))

/-- The shop sells three items, and nothing has been searched. -/
def searchShop : SearchWorld where
  store := Store.ofEntries [] [("a", itemDictionaryFrom { id := "a" }), ("b", itemDictionaryFrom { id := "b" }),
    ("c", itemDictionaryFrom { id := "c" })] []
  screen := {}
  flights := []

/-- Two searches find two items each, and all documents are read. -/
def twoSearches : List SearchEvent :=
  [.searchButtonPressed "first", .searchButtonPressed "second", .serve 0 (.hits [some "a", some "b"]),
    .serve 1 (.hits [some "b", some "c"]), .callback 0, .callback 0, .serve 0 .success, .serve 1 .success,
    .serve 2 .success, .serve 3 .success]

/-- The callbacks in the order of the searches show both items of the second one. -/
theorem last_completed_search_shows_second :
    ∃ final, searchShop.run (twoSearches ++ [.callback 0, .callback 1, .callback 0, .callback 0]) = some final ∧
      final.Shows [some "b", some "c"] := by
  have finds : Transition.Along SearchWorld.step SearchWorld.Finds searchShop
      (twoSearches ++ [.callback 0, .callback 1, .callback 0, .callback 0]) := by decide
  have logged : Transition.log SearchWorld.step SearchWorld.entries searchShop
      (twoSearches ++ [.callback 0, .callback 1, .callback 0, .callback 0]) =
        [.served 0 [some "a", some "b"], .served 1 [some "b", some "c"], .received 0, .received 1, .received 0,
          .received 1] := rfl
  obtain ⟨search, isLast, _, objectIds, served, shows⟩ :=
    last_completed_search_shows rfl rfl finds rfl rfl (by decide)
  rw [logged] at isLast served
  obtain rfl : 1 = search := Option.some.inj isLast
  obtain rfl : [some "b", some "c"] = objectIds := List.singleton_inj.mp served
  exact ⟨_, rfl, shows⟩

/-- The documents of the first search come back last, and the hits of the second search, which is the last one
submitted, are not shown. -/
theorem first_search_shown :
    searchShop.screen = {} ∧ searchShop.flights = [] ∧
      Transition.Along SearchWorld.step SearchWorld.Finds searchShop
        (twoSearches ++ [.callback 2, .callback 2, .callback 0, .callback 0]) ∧
      ∃ final, searchShop.run (twoSearches ++ [.callback 2, .callback 2, .callback 0, .callback 0]) = some final ∧
        final.flights = [] ∧ final.screen.submitted = 2 ∧
        (Transition.log SearchWorld.step SearchWorld.entries searchShop
          (twoSearches ++ [.callback 2, .callback 2, .callback 0, .callback 0])).filterMap
            (SearchEntry.hits (final.screen.submitted - 1)) = [[some "b", some "c"]] ∧
        final.Shows [some "a", some "b"] ∧ ¬ final.Shows [some "b", some "c"] :=
  ⟨rfl, rfl, by decide, _, rfl, rfl, rfl, rfl, by decide, by decide⟩

end ShoppingApp
