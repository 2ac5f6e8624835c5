import ShoppingApp.Library.Moments
import ShoppingApp.Proof.AppStops
import ShoppingApp.Proof.SearchIndicator

namespace ShoppingApp

/-- A download has each of its identifiers as a collected item, as a pending read, or as a lost one. -/
structure ItemDownload.Gathered (lossless : Prop) (pending : List String) (download : ItemDownload) : Prop where
  counter : download.counter = download.itemArray.length
  parts : ∃ lost, (download.itemArray.map (fun item => item.id) ++ (pending ++ lost).map some).Perm
    (download.withIds.map some) ∧ (lossless → lost = [])

namespace ItemDownload.Gathered

variable {lossless strict : Prop} {pending rest : List String} {download : ItemDownload} {name : String}

theorem fresh (withIds : List String) : Gathered lossless withIds { withIds := withIds } :=
  ⟨rfl, [], by simp, fun _ => rfl⟩

theorem weaken (gathered : download.Gathered lossless pending) (implies : strict → lossless)
    (same : pending.Perm rest) : download.Gathered strict rest := by
  obtain ⟨counter, lost, parts, none⟩ := gathered
  refine ⟨counter, lost, ?_, fun holds => none (implies holds)⟩
  exact (((same.symm.append_right lost).map some).append_left _).trans parts

/-- A read that nobody receives is lost. -/
theorem lose (gathered : download.Gathered lossless (name :: rest)) (lossy : ¬ strict) :
    download.Gathered strict rest := by
  obtain ⟨counter, lost, parts, _⟩ := gathered
  refine ⟨counter, name :: lost, ?_, fun holds => absurd holds lossy⟩
  exact ((List.perm_middle.map some).append_left _).trans parts

/-- A received read collects its item, or it is lost. -/
theorem receive (gathered : download.Gathered lossless (name :: rest)) {read : DocumentRead}
    (finds : ∀ data, read = .found data → (Item.ofDictionary data).id = some name)
    (found : lossless → ∃ data, read = .found data) : (download.receive read).1.Gathered lossless rest := by
  cases read with
  | found data =>
      obtain ⟨counter, lost, parts, none⟩ := gathered
      refine ⟨?_, lost, ?_, none⟩
      · simp [ItemDownload.receive, counter]
      · have named := finds data rfl
        simpa [ItemDownload.receive, named] using parts
  | missing => exact gathered.lose fun holds => by obtain ⟨_, same⟩ := found holds; cases same
  | failed => exact gathered.lose fun holds => by obtain ⟨_, same⟩ := found holds; cases same

/-- The collected items are some of the listed ones. -/
theorem subperm (gathered : download.Gathered lossless pending) :
    (download.itemArray.map fun item => item.id).Subperm (download.withIds.map some) := by
  obtain ⟨_, lost, parts, _⟩ := gathered
  exact (List.sublist_append_left _ _).subperm.trans parts.subperm

theorem counter_le (gathered : download.Gathered lossless pending) : download.counter ≤ download.withIds.length := by
  have fewer := gathered.subperm.length_le
  rwa [List.length_map, List.length_map, ← gathered.counter] at fewer

/-- A download that waits for nothing and has lost nothing is complete. -/
theorem complete (gathered : download.Gathered lossless []) (holds : lossless) :
    download.counter = download.withIds.length := by
  obtain ⟨counter, lost, parts, none⟩ := gathered
  have all := parts.length_eq
  rw [none holds, List.append_nil, List.map_nil, List.append_nil, List.length_map, List.length_map] at all
  exact counter.trans all

/-- A delivered array has some of the listed items, and it has all of them when nothing is lost. -/
theorem delivers {read : DocumentRead} (received : (download.receive read).1.Gathered lossless rest)
    (found : lossless → ∃ data, read = .found data) {delivered : List Item}
    (member : delivered ∈ (download.receive read).2) :
    (delivered.map fun item => item.id).Subperm (download.withIds.map some) ∧
      (lossless → (delivered.map fun item => item.id).Perm (download.withIds.map some)) := by
  have part := received.subperm
  rw [← ItemDownload.receive_delivers member, download.receive_withIds] at part
  refine ⟨part, fun holds => part.perm_of_length_le ?_⟩
  obtain ⟨data, rfl⟩ := found holds
  have counter := received.counter
  rw [← ItemDownload.receive_delivers member] at counter
  simp only [ItemDownload.receive] at member counter
  split at member
  · rename_i all
    rw [List.length_map, List.length_map, ← counter, all]
  · cases member

end ItemDownload.Gathered

/-- The item that the request reads for this download. -/
def BrowseFlight.readsFor (own download : Nat) (flight : BrowseFlight) : Option String :=
  match flight.request with
  | .getItem history found name => if history = own ∧ found = download then some name else none
  | .getCategories _ | .getItems _ _ => none

/-- The server does not fail a request of a browsing screen. -/
def AppEvent.answers : AppEvent → Bool
  | .serve _ succeeds => succeeds
  | _ => true

def Answered (events : List AppEvent) : Prop := ∀ event ∈ events, event.answers = true

theorem Answered.before {events later : List AppEvent} (answered : Answered (events ++ later)) : Answered events :=
  fun event member => answered event (List.mem_append_left _ member)

/-- The answer to an item read is its document, or the read has failed. -/
def BrowseFlight.Reports (lossless : Prop) (flight : BrowseFlight) : Prop :=
  ∀ own download name, flight.request = .getItem own download name → ∀ reply ∈ flight.reply,
    reply = .failed ∧ ¬ lossless ∨ ∃ data, reply = .document (.found data) ∧ (Item.ofDictionary data).id = some name

namespace App

def pendingReads (own download : Nat) (flights : List BrowseFlight) : List String :=
  flights.filterMap (BrowseFlight.readsFor own download)

section Purchases

variable (double : String → Option Double) (link : StoragePath → String) (events : List AppEvent)

/-- The history screen has appeared when the record of the current user listed these purchases. -/
def Bought (own : Nat) (withIds : List String) : Prop :=
  ∃ asked number served tab user, Transition.Passes (App.step double link) App.start events asked
      (.historyDidAppear number) served ∧ asked.tab number = some tab ∧ tab.page = .purchasedHistory own ∧
    (asked.device number).currentUser = some (some user) ∧ withIds = user.purchasedItemIds

/-- The history has received no whole list yet, or its rows are items that were listed when it appeared. -/
def Rows (lossless : Prop) (own : Nat) (history : PurchasedHistory) : Prop :=
  history.itemArray = [] ∧ (lossless → ∀ shared ∈ history.downloads, shared.counter < shared.withIds.length) ∨
    ∃ withIds, Bought double link events own withIds ∧
      (history.itemArray.map fun item => item.id).Subperm (withIds.map some) ∧
      (Answered events → (history.itemArray.map fun item => item.id).Perm (withIds.map some))

/-- The history loses no read: the server answers, and the application runs. -/
def Receives (app : App) (history : PurchasedHistory) : Prop :=
  Answered events ∧ (app.device history.device).trapped = false

/-- The downloads and the rows of a history are those of purchases that were listed when it appeared. -/
structure Purchases (app : App) : Prop where
  downloads : ∀ (own : Nat) (history : PurchasedHistory), app.histories[own]? = some history →
    ∀ (download : Nat) (shared : ItemDownload), history.downloads[download]? = some shared →
      Bought double link events own shared.withIds ∧
      shared.Gathered (Receives events app history) (pendingReads own download app.flights)
  beyond : ∀ own download, (∀ history, app.histories[own]? = some history → history.downloads.length ≤ download) →
    pendingReads own download app.flights = []
  rows : ∀ own history, app.histories[own]? = some history →
    Rows double link events (Receives events app history) own history
  reports : ∀ flight ∈ app.flights, flight.Reports (Answered events)

end Purchases

variable {app next : App} {double : String → Option Double} {link : StoragePath → String} {event : AppEvent}
  {events : List AppEvent}

theorem Bought.append {own : Nat} {withIds : List String} (bought : Bought double link events own withIds)
    (later : List AppEvent) : Bought double link (events ++ later) own withIds := by
  obtain ⟨asked, number, served, tab, user, passes, facts⟩ := bought
  exact ⟨asked, number, served, tab, user, passes.append later, facts⟩

/-- The rows stay when less is lossless. -/
theorem Rows.weaken {lossless strict : Prop} {own : Nat} {history : PurchasedHistory}
    (rows : Rows double link events lossless own history) (implies : strict → lossless) :
    Rows double link events strict own history :=
  rows.imp (fun waits => ⟨waits.1, fun holds => waits.2 (implies holds)⟩) id

namespace Purchases

theorem append (purchases : app.Purchases double link events) (later : List AppEvent) :
    app.Purchases double link (events ++ later) := by
  have receives {history : PurchasedHistory} (both : Receives (events ++ later) app history) :
      Receives events app history := ⟨both.1.before, both.2⟩
  refine ⟨fun own history present download shared listed => ?_, purchases.beyond, fun own history present => ?_,
    fun flight member own download name asked reply replied => ?_⟩
  · obtain ⟨bought, gathered⟩ := purchases.downloads own history present download shared listed
    exact ⟨bought.append later, gathered.weaken receives (List.Perm.refl _)⟩
  · refine ((purchases.rows own history present).weaken receives).imp id ?_
    rintro ⟨withIds, bought, part, whole⟩
    exact ⟨withIds, bought.append later, part, fun answered => whole answered.before⟩
  · exact (purchases.reports flight member own download name asked reply replied).imp
      (fun failed => ⟨failed.1, fun answered => failed.2 answered.before⟩) id

/-- A change that leaves the histories and their reads can only stop devices. -/
theorem congr (purchases : app.Purchases double link events)
    (alive : ∀ number, (app.device number).trapped = true → (next.device number).trapped = true)
    (histories : next.histories = app.histories) (flights : next.flights = app.flights) :
    next.Purchases double link events := by
  have receives {history : PurchasedHistory} (both : Receives events next history) :
      Receives events app history := by
    refine ⟨both.1, Bool.eq_false_iff.mpr fun stopped => ?_⟩
    exact Bool.eq_false_iff.mp both.2 (alive _ stopped)
  refine ⟨fun own history present download shared listed => ?_, fun own download unlisted => ?_,
    fun own history present => (purchases.rows own history (histories ▸ present)).weaken receives,
    flights ▸ purchases.reports⟩
  · obtain ⟨bought, gathered⟩ := purchases.downloads own history (histories ▸ present) download shared listed
    rw [flights]
    exact ⟨bought, gathered.weaken receives (List.Perm.refl _)⟩
  · rw [flights]
    exact purchases.beyond own download (histories ▸ unlisted)

/-- New requests that read no item change no purchase. -/
theorem issue (purchases : app.Purchases double link events) {added : List BrowseFlight}
    (silent : ∀ flight ∈ added, flight.reply = none ∧ ∀ own download, flight.readsFor own download = none) :
    App.Purchases double link events { app with flights := app.flights ++ added } := by
  have reads (own download : Nat) : pendingReads own download (app.flights ++ added) =
      pendingReads own download app.flights :=
    Pool.filterMap_append_silent _ fun flight member => (silent flight member).2 own download
  refine ⟨fun own history present download shared listed => ?_, fun own download unlisted => ?_, purchases.rows,
    Pool.forall_append purchases.reports fun flight member own download name asked reply replied => ?_⟩
  · rw [reads]
    exact purchases.downloads own history present download shared listed
  · rw [reads]
    exact purchases.beyond own download unlisted
  · rw [(silent flight member).1] at replied
    cases replied

/-- A new history screen reads nothing yet. -/
theorem openHistory (purchases : app.Purchases double link events) (number : Nat) :
    App.Purchases double link events { app with histories := app.histories ++ [{ device := number }] } := by
  refine ⟨Pool.forall_places_concat purchases.downloads fun download shared listed => (by cases listed),
    fun own download unlisted => purchases.beyond own download fun history present => unlisted history ?_,
    Pool.forall_places_concat purchases.rows (.inl ⟨rfl, fun _ shared listed => by cases listed⟩), purchases.reports⟩
  exact (List.getElem?_append_left (List.getElem?_eq_some_iff.mp present).1).trans present

/-- A request in flight belongs to a download of its history. -/
theorem opened (purchases : app.Purchases double link events) {own download : Nat} {name : String}
    {reply : Option BrowseReply} (member : ⟨.getItem own download name, reply⟩ ∈ app.flights) :
    ∃ history shared, app.histories[own]? = some history ∧ history.downloads[download]? = some shared := by
  by_contra none
  have silent : pendingReads own download app.flights = [] := by
    refine purchases.beyond own download fun history present => ?_
    by_contra inside
    exact none ⟨history, _, present, List.getElem?_eq_getElem (Nat.lt_of_not_le inside)⟩
  have waits : name ∈ pendingReads own download app.flights :=
    List.mem_filterMap.mpr ⟨_, member, by simp [BrowseFlight.readsFor]⟩
  rw [silent] at waits
  cases waits

/-- The purchases of the current user are read. -/
theorem load (purchases : app.Purchases double link events) {own : Nat} {history : PurchasedHistory}
    (present : app.histories[own]? = some history) {withIds : List String}
    (bought : Bought double link events own withIds) :
    App.Purchases double link events { app with
      histories := app.histories.set own (history.downloadItemsFromFirebase own withIds).1
      flights := app.flights ++ (history.downloadItemsFromFirebase own withIds).2.map fun request =>
        ⟨request, none⟩ } := by
  have only {download : Nat} (outside : history.downloads.length ≤ download) :
      ∀ found, app.histories[own]? = some found → found.downloads.length ≤ download :=
    fun found shows => Option.some.inj (present.symm.trans shows) ▸ outside
  unfold PurchasedHistory.downloadItemsFromFirebase
  split
  · rename_i some
    have issued (other download : Nat) : pendingReads other download (app.flights ++ (withIds.map fun itemId =>
        BrowseRequest.getItem own history.downloads.length itemId).map fun request => ⟨request, none⟩) =
        pendingReads other download app.flights ++
          if own = other ∧ history.downloads.length = download then withIds else [] := by
      rw [pendingReads, List.filterMap_append, List.map_map, List.filterMap_map]
      congr 1
      split
      · rename_i here
        simp [Function.comp_def, BrowseFlight.readsFor, here.1, here.2]
      · rename_i apart
        simp [Function.comp_def, BrowseFlight.readsFor, apart]
    refine ⟨fun other found shows download shared listed => ?_, fun other download unlisted => ?_,
      Pool.forall_places_set purchases.rows ((purchases.rows own history present).imp (fun waits => ?_) id),
      Pool.forall_append purchases.reports fun flight member other download name asked reply replied => ?_⟩
    · dsimp only at shows ⊢
      rw [issued]
      by_cases mine : own = other
      · subst mine
        rw [List.getElem?_set_self (List.getElem?_eq_some_iff.mp present).1] at shows
        obtain rfl := Option.some.inj shows
        dsimp only at listed
        rcases Nat.lt_or_ge download history.downloads.length with inside | outside
        · rw [List.getElem?_append_left inside] at listed
          obtain ⟨paid, gathered⟩ := purchases.downloads own history present download shared listed
          rw [if_neg fun both => absurd both.2 (Nat.ne_of_gt inside), List.append_nil]
          exact ⟨paid, gathered⟩
        · rw [List.getElem?_append_right outside, List.getElem?_singleton] at listed
          split at listed
          · obtain rfl : download = history.downloads.length := by omega
            obtain rfl := Option.some.inj listed
            rw [purchases.beyond own _ (only (le_refl _)), if_pos ⟨rfl, rfl⟩, List.nil_append]
            exact ⟨bought, .fresh withIds⟩
          · cases listed
      · rw [List.getElem?_set_ne mine] at shows
        rw [if_neg fun both => mine both.1, List.append_nil]
        exact purchases.downloads other found shows download shared listed
    · dsimp only at unlisted ⊢
      rw [issued]
      by_cases mine : own = other
      · subst mine
        have length := unlisted _ (List.getElem?_set_self (List.getElem?_eq_some_iff.mp present).1)
        simp only [List.length_append, List.length_singleton] at length
        rw [purchases.beyond own download (only (by omega)), if_neg fun both => absurd both.2 (by omega),
          List.append_nil]
      · rw [if_neg fun both => mine both.1, List.append_nil]
        exact purchases.beyond other download fun found shows =>
          unlisted found ((List.getElem?_set_ne mine).trans shows)
    · refine ⟨waits.1, fun receives => Pool.forall_append (waits.2 receives) fun shared listed => ?_⟩
      rw [List.mem_singleton.mp listed]
      exact some
    · obtain ⟨request, _, rfl⟩ := List.mem_map.mp member
      cases replied
  · rename_i none
    obtain rfl : withIds = [] := List.length_eq_zero_iff.mp (Nat.eq_zero_of_not_pos none)
    rw [List.map_nil, List.append_nil]
    refine ⟨Pool.forall_places_set purchases.downloads (purchases.downloads own history present),
      fun other download unlisted => purchases.beyond other download fun found shows => ?_,
      Pool.forall_places_set purchases.rows (.inr ⟨[], bought, List.nil_subperm, fun _ => List.Perm.refl _⟩),
      purchases.reports⟩
    by_cases mine : own = other
    · subst mine
      obtain rfl := Option.some.inj (present.symm.trans shows)
      have length := unlisted _ (List.getElem?_set_self (List.getElem?_eq_some_iff.mp present).1)
      exact length
    · exact unlisted found ((List.getElem?_set_ne mine).trans shows)

/-- The answer to a read is received, or it is lost. -/
theorem advance (purchases : app.Purchases double link events) {index own download : Nat} {name : String}
    {reply : Option BrowseReply} (found : app.flights[index]? = some ⟨.getItem own download name, reply⟩)
    {history : PurchasedHistory} (present : app.histories[own]? = some history) {shared later : ItemDownload}
    (listed : history.downloads[download]? = some shared) (same : later.withIds = shared.withIds)
    (gathers : ∀ rest, shared.Gathered (Receives events app history) (name :: rest) →
      later.Gathered (Receives events app history) rest)
    {rows : List Item} (shown : ∀ rest, later.Gathered (Receives events app history) rest →
      rows = history.itemArray ∧ (Receives events app history → later.counter < later.withIds.length) ∨
      (rows.map fun item => item.id).Subperm (shared.withIds.map some) ∧
        (Answered events → (rows.map fun item => item.id).Perm (shared.withIds.map some))) :
    App.Purchases double link events { app with
      flights := app.flights.eraseIdx index
      histories := app.histories.set own
        { history with downloads := history.downloads.set download later, itemArray := rows } } := by
  have reads (other place : Nat) : (pendingReads other place app.flights).Perm
      ((BrowseFlight.readsFor other place ⟨.getItem own download name, reply⟩).toList ++
        pendingReads other place (app.flights.eraseIdx index)) :=
    Pool.filterMap_perm (BrowseFlight.readsFor other place) found
  have apart {other place : Nat} (differs : ¬ (own = other ∧ download = place)) :
      (pendingReads other place app.flights).Perm (pendingReads other place (app.flights.eraseIdx index)) := by
    have perm := reads other place
    simpa [BrowseFlight.readsFor, differs] using perm
  have here : (pendingReads own download app.flights).Perm
      (name :: pendingReads own download (app.flights.eraseIdx index)) := by
    have perm := reads own download
    simpa [BrowseFlight.readsFor] using perm
  obtain ⟨bought, before⟩ := purchases.downloads own history present download shared listed
  have gathered := gathers _ (before.weaken id here)
  refine ⟨fun other found shows place current lists => ?_, fun other place unlisted => ?_,
    Pool.forall_places_set purchases.rows ?_, Pool.forall_eraseIdx purchases.reports⟩
  · by_cases mine : own = other
    · subst mine
      rw [List.getElem?_set_self (List.getElem?_eq_some_iff.mp present).1] at shows
      obtain rfl := Option.some.inj shows
      by_cases placed : download = place
      · subst placed
        rw [List.getElem?_set_self (List.getElem?_eq_some_iff.mp listed).1] at lists
        obtain rfl := Option.some.inj lists
        exact ⟨same ▸ bought, gathered⟩
      · rw [List.getElem?_set_ne placed] at lists
        obtain ⟨bought, gathered⟩ := purchases.downloads own history present place current lists
        exact ⟨bought, gathered.weaken id (apart fun both => placed both.2)⟩
    · rw [List.getElem?_set_ne mine] at shows
      obtain ⟨bought, gathered⟩ := purchases.downloads other found shows place current lists
      exact ⟨bought, gathered.weaken id (apart fun both => mine both.1)⟩
  · have before : pendingReads other place app.flights = [] := by
      refine purchases.beyond other place fun listing shows => ?_
      by_cases mine : own = other
      · subst mine
        obtain rfl := Option.some.inj (present.symm.trans shows)
        have length := unlisted _ (List.getElem?_set_self (List.getElem?_eq_some_iff.mp present).1)
        rwa [List.length_set] at length
      · exact unlisted listing ((List.getElem?_set_ne mine).trans shows)
    have perm := reads other place
    rw [before] at perm
    exact (List.append_eq_nil_iff.mp perm.nil_eq.symm).2
  · rcases shown _ gathered with ⟨rfl, fewer⟩ | ⟨part, whole⟩
    · refine (purchases.rows own history present).imp (fun waits => ⟨waits.1, fun receives => ?_⟩) id
      exact Pool.forall_set (waits.2 receives) (fewer receives)
    · exact .inr ⟨shared.withIds, bought, part, whole⟩

/-- An answered read changes no purchase. -/
theorem serve (purchases : app.Purchases double link events) {index : Nat} {request : BrowseRequest}
    {reply : BrowseReply} (found : app.flights[index]? = some ⟨request, none⟩)
    (reports : BrowseFlight.Reports (Answered events) ⟨request, some reply⟩) :
    App.Purchases double link events { app with flights := app.flights.set index ⟨request, some reply⟩ } := by
  have reads (own download : Nat) : pendingReads own download (app.flights.set index ⟨request, some reply⟩) =
      pendingReads own download app.flights := Pool.filterMap_set_same _ found rfl
  refine ⟨fun own history present download shared listed => ?_, fun own download unlisted => ?_, purchases.rows,
    Pool.forall_set purchases.reports reports⟩
  · rw [reads]
    exact purchases.downloads own history present download shared listed
  · rw [reads]
    exact purchases.beyond own download unlisted

/-- The removal of a request that reads no item changes no purchase. -/
theorem erase (purchases : app.Purchases double link events) {index : Nat} {flight : BrowseFlight}
    (found : app.flights[index]? = some flight) (silent : ∀ own download, flight.readsFor own download = none) :
    App.Purchases double link events { app with flights := app.flights.eraseIdx index } := by
  have reads (own download : Nat) : pendingReads own download (app.flights.eraseIdx index) =
      pendingReads own download app.flights := Pool.filterMap_eraseIdx_silent _ found (silent own download)
  refine ⟨fun own history present download shared listed => ?_, fun own download unlisted => ?_, purchases.rows,
    Pool.forall_eraseIdx purchases.reports⟩
  · rw [reads]
    exact purchases.downloads own history present download shared listed
  · rw [reads]
    exact purchases.beyond own download unlisted

/-- A callback receives the read for its history, or nobody receives it. -/
theorem callback (purchases : app.Purchases double link events) {index : Nat} {request : BrowseRequest}
    {reply : BrowseReply} (found : app.flights[index]? = some ⟨request, some reply⟩) :
    App.Purchases double link events (if app.stopped request then { app with flights := app.flights.eraseIdx index }
      else App.complete { app with flights := app.flights.eraseIdx index } request reply) := by
  cases request with
  | getItem own download name =>
      obtain ⟨history, shared, present, listed⟩ := purchases.opened (List.mem_of_getElem? found)
      have owner : app.stopped (.getItem own download name) = (app.device history.device).trapped := by
        simp [stopped, App.owner, present]
      split
      · rename_i stops
        rw [owner] at stops
        have unchanged : app.histories.set own { history with
            downloads := history.downloads.set download shared, itemArray := history.itemArray } = app.histories := by
          obtain ⟨_, rfl⟩ := List.getElem?_eq_some_iff.mp present
          obtain ⟨_, rfl⟩ := List.getElem?_eq_some_iff.mp listed
          rw [List.set_getElem_self, List.set_getElem_self]
        have lossy : ¬ Receives events app history := fun receives => by
          rw [receives.2] at stops
          cases stops
        have lost := purchases.advance found present listed rfl (fun rest gathered => gathered.lose lossy)
          fun rest _ => .inl ⟨rfl, fun receives => absurd receives lossy⟩
        rwa [unchanged] at lost
      · rename_i running
        rw [owner, Bool.not_eq_true] at running
        have received (read : DocumentRead)
            (finds : ∀ data, read = .found data → (Item.ofDictionary data).id = some name)
            (answered : Answered events → ∃ data, read = .found data) :
            App.Purchases double link events { app with
              flights := app.flights.eraseIdx index
              histories := app.histories.set own (history.itemCompletion download read) } := by
          have completed : history.itemCompletion download read = { history with
              downloads := history.downloads.set download (shared.receive read).1
              itemArray := (shared.receive read).2.getLast?.getD history.itemArray } := by
            unfold PurchasedHistory.itemCompletion
            rw [listed]
            exact PurchasedHistory.deliver_eq _ _
          rw [completed]
          have withIds := shared.receive_withIds read
          refine purchases.advance found present listed withIds
            (fun rest gathered => gathered.receive finds fun both => answered both.1) fun rest gathered => ?_
          cases delivered : (shared.receive read).2.getLast? with
          | none =>
              obtain ⟨counter, fewer⟩ := ItemDownload.receive_silent (List.getLast?_eq_none_iff.mp delivered)
              refine .inl ⟨rfl, fun receives => Nat.lt_of_le_of_ne gathered.counter_le ?_⟩
              rwa [counter, withIds]
          | some rows =>
              obtain ⟨part, whole⟩ := gathered.delivers (fun both => answered both.1) (List.mem_of_getLast? delivered)
              exact .inr ⟨part, fun all => whole ⟨all, running⟩⟩
        rcases purchases.reports _ (List.mem_of_getElem? found) own download name rfl _ rfl with
          ⟨rfl, lossy⟩ | ⟨data, rfl, named⟩
        · unfold complete
          simp only [present]
          exact received .failed (fun data same => by cases same) fun all => absurd all lossy
        · unfold complete
          simp only [present]
          refine received (.found data) (fun other same => ?_) fun _ => ⟨data, rfl⟩
          obtain rfl := DocumentRead.found.inj same
          exact named
  | getCategories own =>
      have erased := purchases.erase found fun _ _ => rfl
      split
      · exact erased
      · unfold complete
        dsimp only
        split
        · exact erased
        · rename_i screen _
          split
          · refine erased.congr (fun number stopped => ?_) rfl rfl
            exact (World.stop_trapped_iff app.market.shop screen.device number).mpr (.inl stopped)
          · exact erased.congr (fun number stopped => stopped) rfl rfl
  | getItems own categoryId =>
      have erased := purchases.erase found fun _ _ => rfl
      split
      · exact erased
      · unfold complete
        dsimp only
        split
        · exact erased
        · exact erased.congr (fun number stopped => stopped) rfl rfl

/-- A step of a run keeps the purchases. -/
theorem step (before : app.Purchases double link events) (sound : app.Sound)
    (ran : App.start.run double link events = some app) (taken : app.step double link event = some next) :
    next.Purchases double link (events ++ [event]) := by
  have passes := Transition.Passes.last ran taken
  have purchases := before.append [event]
  have steps := steps_of_step taken
  have alive (number : Nat) (stopped : (app.device number).trapped = true) : (next.device number).trapped = true :=
    steps.stopped stopped
  have same := steps.sameLists
  cases steps with
  | openCategories => exact purchases.congr alive rfl rfl
  | categoriesDidAppear shown active =>
      refine purchases.issue fun flight member => ?_
      obtain rfl := List.mem_singleton.mp member
      exact ⟨rfl, fun _ _ => rfl⟩
  | didSelectCategory shown selected => exact purchases.congr alive rfl rfl
  | itemsDidAppear shown active =>
      refine purchases.issue fun flight member => ?_
      obtain ⟨category, _, rfl⟩ := List.mem_map.mp member
      exact ⟨rfl, fun _ _ => rfl⟩
  | @historyDidAppear number own tab shown page =>
      unfold loadHistory at passes ⊢
      split at passes
      · rename_i user history current present
        exact purchases.load present ⟨app, number, _, tab, user, passes, shown, page, current, rfl⟩
      · exact purchases
      · refine purchases.congr (fun other stopped => ?_) rfl rfl
        exact (World.stop_trapped_iff app.market.shop number other).mpr (.inl stopped)
  | @serve index request succeeds found =>
      refine purchases.serve found ?_
      rintro own download name rfl reply ⟨⟩
      cases succeeds with
      | true =>
          obtain ⟨data, stored⟩ := sound.refers.reads _ (List.mem_of_getElem? found)
          refine .inr ⟨data, ?_, (sound.saves.items name data stored).1⟩
          simp [Store.browse, Store.readItem, stored]
      | false =>
          refine .inl ⟨rfl, fun all => ?_⟩
          have answered := all (.serve index false) (List.mem_append_right _ List.mem_cons_self)
          cases answered
  | @callback index request reply found => exact purchases.callback found
  | @purchaseHistoryTapped number tab shown page enabled =>
      exact (purchases.openHistory number).congr alive rfl rfl
  | _ => exact purchases.congr alive (same rfl).histories (same rfl).flights

/-- Every run keeps the purchases. -/
theorem run (ran : App.start.run double link events = some app) : app.Purchases double link events := by
  refine Transition.run_prefix (App.Purchases double link) ⟨?_, ?_, ?_, ?_⟩ ?_ ran
  · exact fun own history present => by cases present
  · exact fun own download unlisted => rfl
  · exact fun own history present => by cases present
  · exact fun flight member => absurd member List.not_mem_nil
  · exact fun events app event next ran purchases taken => purchases.step (Sound.start.run ran) ran taken

end Purchases

end App

/-- A step keeps the downloads of a history and adds new ones at the end. -/
theorem App.Steps.downloads_grow {app next : App} {double : String → Option Double} {link : StoragePath → String}
    {event : AppEvent} (steps : app.Steps double link event next) {own : Nat} {history : PurchasedHistory}
    (present : app.histories[own]? = some history) :
    ∃ later, next.histories[own]? = some later ∧ history.downloads.length ≤ later.downloads.length := by
  have kept (same : next.histories = app.histories) :
      ∃ later, next.histories[own]? = some later ∧ history.downloads.length ≤ later.downloads.length :=
    ⟨history, same ▸ present, Nat.le_refl _⟩
  have changed {place : Nat} {before after : PurchasedHistory} (placed : app.histories[place]? = some before)
      (grows : before.downloads.length ≤ after.downloads.length) :
      ∃ later, (app.histories.set place after)[own]? = some later ∧
        history.downloads.length ≤ later.downloads.length := by
    by_cases here : place = own
    · subst here
      obtain rfl := Option.some.inj (present.symm.trans placed)
      exact ⟨after, List.getElem?_set_self (List.getElem?_eq_some_iff.mp present).1, grows⟩
    · exact ⟨history, (List.getElem?_set_ne here).trans present, Nat.le_refl _⟩
  have same := steps.sameLists
  cases steps with
  | purchaseHistoryTapped shown page enabled =>
      refine ⟨history, ?_, Nat.le_refl _⟩
      exact (List.getElem?_append_left (List.getElem?_eq_some_iff.mp present).1).trans present
  | @historyDidAppear number place tab shown page =>
      unfold loadHistory
      split
      · rename_i user before current placed
        refine changed placed ?_
        unfold PurchasedHistory.downloadItemsFromFirebase
        split
        · exact (List.length_append ▸ Nat.le_add_right _ _)
        · exact Nat.le_refl _
      · exact ⟨history, present, Nat.le_refl _⟩
      · exact ⟨history, present, Nat.le_refl _⟩
  | @callback index request reply found =>
      split
      · exact ⟨history, present, Nat.le_refl _⟩
      · cases request with
        | getItem place download name =>
            have received (before : PurchasedHistory) (read : DocumentRead) :
                before.downloads.length ≤ (before.itemCompletion download read).downloads.length := by
              unfold PurchasedHistory.itemCompletion
              split
              · exact Nat.le_refl _
              · rw [PurchasedHistory.deliver_eq, List.length_set]
            unfold complete
            dsimp only
            split
            · rename_i before read placed
              exact changed placed (received before read)
            · rename_i before placed
              exact changed placed (received before .failed)
            · exact ⟨history, present, Nat.le_refl _⟩
        | getCategories place =>
            unfold complete
            dsimp only
            split
            · exact ⟨history, present, Nat.le_refl _⟩
            · split <;> exact ⟨history, present, Nat.le_refl _⟩
        | getItems place categoryId =>
            unfold complete
            dsimp only
            split <;> exact ⟨history, present, Nat.le_refl _⟩
  | openCategories => exact kept rfl
  | categoriesDidAppear shown active => exact kept rfl
  | didSelectCategory shown selected => exact kept rfl
  | itemsDidAppear shown active => exact kept rfl
  | serve found => exact kept rfl
  | _ => exact kept (same rfl).histories

/-- The opened histories exist in every run. -/
theorem App.Tabs.run {app : App} {double : String → Option Double} {link : StoragePath → String}
    {events : List AppEvent} (ran : App.start.run double link events = some app) : app.Tabs :=
  Transition.run_invariant App.Tabs (fun _ _ _ tabs _ taken => tabs.step (App.steps_of_step taken)) .start
    (.of_all (fun _ _ => trivial) App.start events) ran

/-- A history without downloads has appeared with no purchases alone. -/
theorem App.Bought.nothing {final : App} {double : String → Option Double} {link : StoragePath → String}
    {events : List AppEvent} {own : Nat} {withIds : List String} {history : PurchasedHistory}
    (bought : App.Bought double link events own withIds) (ran : App.start.run double link events = some final)
    (present : final.histories[own]? = some history) (none : history.downloads = []) : withIds = [] := by
  obtain ⟨asked, number, served, tab, user, ⟨before, middle, after, rfl, first, _⟩, shown, page, current, rfl⟩ := bought
  rw [App.run, List.append_assoc, Transition.run_append first] at ran
  obtain ⟨next, taken, rest⟩ := Transition.run_cons.mp ran
  have opened := (App.Tabs.run first).histories number tab (App.tab_profiles shown) own page
  obtain ⟨early, placed⟩ : ∃ early, asked.histories[own]? = some early := ⟨_, List.getElem?_eq_getElem opened⟩
  cases App.steps_of_step taken with
  | historyDidAppear again here =>
      obtain rfl := Option.some.inj (shown.symm.trans again)
      obtain rfl := ProfilePage.purchasedHistory.inj (page.symm.trans here)
      have loaded : (asked.loadHistory number own).histories[own]? =
          some (early.downloadItemsFromFirebase own user.purchasedItemIds).1 := by
        simp only [App.loadHistory, current, placed]
        exact List.getElem?_set_self opened
      obtain ⟨later, shows, grown⟩ := Transition.run_invariant (fun app => ∃ later, app.histories[own]? = some later ∧
        (early.downloadItemsFromFirebase own user.purchasedItemIds).1.downloads.length ≤ later.downloads.length)
        (by
          rintro app event next ⟨later, shows, grown⟩ _ taken
          obtain ⟨last, shown, longer⟩ := (App.steps_of_step taken).downloads_grow shows
          exact ⟨last, shown, grown.trans longer⟩)
        ⟨_, loaded, Nat.le_refl _⟩ (.of_all (fun _ _ => trivial) _ (middle ++ after)) rest
      obtain rfl := Option.some.inj (present.symm.trans shows)
      rw [none, PurchasedHistory.downloadItemsFromFirebase] at grown
      by_contra some
      rw [if_pos (List.length_pos_iff.mpr some)] at grown
      simp at grown

/-- In every run, a purchase history is empty, or its rows are items that the record of the current user listed at a
moment when the screen appeared, each at most as often as it was listed. When no read fails, they are all of them, and
no history that has appeared on a running application stays empty for another reason once all reads are answered. -/
theorem history_shows_purchases (double : String → Option Double) (link : StoragePath → String) {final : App}
    {events : List AppEvent} (ran : App.start.run double link events = some final) {own : Nat}
    {history : PurchasedHistory} (present : final.histories[own]? = some history) :
    let shown := history.itemArray.map fun item => item.id
    (history.itemArray = [] ∨ ∃ withIds, App.Bought double link events own withIds ∧
      shown.Subperm (withIds.map some) ∧ (Answered events → shown.Perm (withIds.map some))) ∧
    (Answered events → final.flights = [] → (final.device history.device).trapped = false →
      ∀ listed, App.Bought double link events own listed →
        ∃ withIds, App.Bought double link events own withIds ∧ shown.Perm (withIds.map some)) := by
  have purchases := App.Purchases.run ran
  have rows := purchases.rows own history present
  refine ⟨rows.imp (fun waits => waits.1) id, fun answered drained running listed bought => ?_⟩
  rcases rows with ⟨empty, waits⟩ | ⟨withIds, bought, _, whole⟩
  · have none : history.downloads = [] := by
      refine List.eq_nil_iff_forall_not_mem.mpr fun shared member => ?_
      obtain ⟨download, inside⟩ := List.mem_iff_getElem?.mp member
      obtain ⟨_, gathered⟩ := purchases.downloads own history present download shared inside
      rw [drained] at gathered
      exact Nat.ne_of_lt (waits ⟨answered, running⟩ shared member) (gathered.complete ⟨answered, running⟩)
    obtain rfl := bought.nothing ran present none
    exact ⟨[], bought, by rw [empty]; exact List.Perm.refl _⟩
  · exact ⟨withIds, bought, whole answered⟩

/-- An onboarded user pays the item of the first visit, and the purchase history appears after that. -/
def paidVisit : List AppEvent :=
  firstVisit ++ [.market (.shop (.callback 0 "n4")), .profileDidAppear 0, .finishRegistrationTapped 0,
    .textFieldDidChange 0 "Ann" "Lee" "Here", .doneButtonPressed 0, .market (.shop (.serve 0 .success)),
    .market (.shop (.callback 0 "n5")), .market (.shop (.gesture 0 .viewDidAppear)),
    .market (.shop (.serve 0 .success)), .market (.shop (.callback 0 "n6")), .market (.shop (.serve 0 .success)),
    .market (.shop (.callback 0 "n7")), .market (.shop (.gesture 0 (.checkOut true))),
    .market (.shop (.gesture 0 .completePayment)), .market (.shop (.serve 0 .success)),
    .market (.shop (.callback 0 "n8")), .market (.shop (.serve 0 .success)), .market (.shop (.callback 0 "n9")),
    .back 0, .profileDidAppear 0, .purchaseHistoryTapped 0, .historyDidAppear 0, .serve 0 true, .callback 0]

/-- The history lists the bought item. -/
theorem history_shows_purchases_paid :
    ∃ (final : App) (history : PurchasedHistory) (withIds : List String),
      App.start.run sellerDouble sellerLink paidVisit = some final ∧ final.histories[0]? = some history ∧
      App.Bought sellerDouble sellerLink paidVisit 0 withIds ∧ withIds.length = 1 ∧
      (history.itemArray.map fun item => item.id).Perm (withIds.map some) := by
  obtain ⟨final, ran⟩ : ∃ final, App.start.run sellerDouble sellerLink paidVisit = some final := ⟨_, rfl⟩
  obtain ⟨history, present, rows⟩ : ∃ history, final.histories[0]? = some history ∧
      (history.itemArray.map fun item => item.id) = [some "B"] := by
    obtain rfl := Option.some.inj ((rfl : App.start.run sellerDouble sellerLink paidVisit = some _).symm.trans ran)
    exact ⟨_, rfl, rfl⟩
  have answered : Answered paidVisit := by
    unfold Answered
    decide
  rcases (history_shows_purchases sellerDouble sellerLink ran present).1 with none | ⟨withIds, bought, _, whole⟩
  · rw [none] at rows
    cases rows
  · have listed := whole answered
    refine ⟨final, history, withIds, ran, present, bought, ?_, listed⟩
    have length := listed.length_eq
    rw [rows, List.length_map] at length
    exact length.symm

end ShoppingApp
