import ShoppingApp.Proof.ItemDelivery

namespace ShoppingApp

/-- The reply to a document read is a document. -/
def SearchFlight.Reports (flight : SearchFlight) : Prop :=
  ∀ name, flight.request = .getItem name → ∀ reply ∈ flight.reply, ∃ read, reply = .document read

/-- The search shares a new download with its callbacks. -/
def SearchScreen.reading (search : Nat) (resultIds : List String) (screen : SearchScreen) : SearchScreen :=
  { screen with downloads := Function.update screen.downloads search (some { withIds := resultIds }) }

/-- A search shows no result, or it reads the documents of its hits. -/
inductive SearchScreen.Loads (search : Nat) (screen : SearchScreen) : SearchScreen × List SearchFlight → Prop
  | empty : Loads search screen (screen.showResults [], [])
  | hits {resultIds : List String} (some : resultIds ≠ []) : Loads search screen
      (screen.reading search resultIds, resultIds.map fun itemId => ⟨search, .getItem itemId, none⟩)

theorem ItemDownload.receive_withIds (download : ItemDownload) (read : DocumentRead) :
    (download.receive read).1.withIds = download.withIds := by rw [receive_fst]

namespace SearchScreen

theorem downloadItemsFromFirebase_loads (search : Nat) (withIds : List String) (screen : SearchScreen) :
    Loads search screen (screen.downloadItemsFromFirebase search withIds) := by
  unfold downloadItemsFromFirebase
  split
  · rename_i some
    exact .hits (List.ne_nil_of_length_pos some)
  · exact .empty

/-- A loaded search reads items and stops nothing. -/
theorem Loads.reads {search : Nat} {screen : SearchScreen} {outcome : SearchScreen × List SearchFlight}
    (loads : Loads search screen outcome) : outcome.1.trapped = screen.trapped ∧
      ∀ flight ∈ outcome.2, ∃ itemId, flight = ⟨search, .getItem itemId, none⟩ := by
  cases loads with
  | empty => exact ⟨rfl, fun flight member => absurd member List.not_mem_nil⟩
  | hits some =>
      refine ⟨rfl, fun flight member => ?_⟩
      obtain ⟨itemId, _, rfl⟩ := List.mem_map.mp member
      exact ⟨itemId, rfl⟩

/-- The answer of Algolia loads the search, or a hit without an identifier stops the application. -/
theorem searchCompletion_cases (search : Nat) (reply : SearchReply) (screen : SearchScreen) :
    Loads search screen (screen.searchCompletion search reply) ∨
      (∃ objectIds, reply = .hits objectIds ∧ objectIds.mapM id = none) ∧
        screen.searchCompletion search reply = ({ screen with trapped := true }, []) := by
  unfold searchCompletion
  split
  · split
    · rename_i uncast
      exact .inr ⟨⟨_, rfl, uncast⟩, rfl⟩
    · exact .inl (downloadItemsFromFirebase_loads _ _ _)
  · exact .inl (downloadItemsFromFirebase_loads _ _ _)

/-- A delivered array hides the indicator. -/
theorem deliver_indicator (delivered : List (List Item)) (screen : SearchScreen) :
    (screen.deliver delivered).indicator = if delivered = [] then screen.indicator else false := by
  induction delivered generalizing screen with
  | nil => rfl
  | cons items rest ih =>
      rw [if_neg (List.cons_ne_nil _ _)]
      refine (ih (screen.showResults items)).trans ?_
      split <;> rfl

/-- The indicator stays visible when the read counts a document that is not the last one. -/
theorem itemCompletion_visible {search : Nat} {read : DocumentRead} {screen : SearchScreen}
    (visible : (screen.itemCompletion search read).indicator = true) : screen.indicator = true ∧
      (screen.downloads search = none ∧ screen.itemCompletion search read = screen ∨
        ∃ shared later, screen.downloads search = some shared ∧ later.withIds = shared.withIds ∧
          later.counter = shared.counter + 1 ∧ later.counter ≠ later.withIds.length ∧
          (screen.itemCompletion search read).downloads = Function.update screen.downloads search (some later)) := by
  cases download : screen.downloads search with
  | none =>
      have same : screen.itemCompletion search read = screen := by simp only [itemCompletion, download]
      exact ⟨same ▸ visible, .inl ⟨rfl, same⟩⟩
  | some shared =>
      simp only [itemCompletion, download, deliver_indicator] at visible ⊢
      split at visible
      · rename_i silent
        obtain ⟨counter, fewer⟩ := ItemDownload.receive_silent silent
        have withIds := shared.receive_withIds read
        refine ⟨visible, .inr ⟨shared, (shared.receive read).1, rfl, withIds, counter, ?_, ?_⟩⟩
        · rwa [counter, withIds]
        · exact (SearchWorld.deliver_keeps _ _).1
      · cases visible

end SearchScreen

namespace SearchWorld

/-- The search waits for Algolia, or it waits for documents and has counted the other ones. -/
inductive Awaits (world : SearchWorld) (search : Nat) : Prop
  | hits (asking : (world.asking search).length = 1) (pending : world.pending search = [])
  | documents {shared : ItemDownload} (asking : world.asking search = [])
      (download : world.screen.downloads search = some shared)
      (counted : shared.counter + (world.pending search).length = shared.withIds.length)
      (pending : world.pending search ≠ [])

/-- The indicator is visible only while the last search waits. -/
structure Indicates (world : SearchWorld) : Prop where
  reports : ∀ flight ∈ world.flights, flight.Reports
  fresh : ∀ search, world.screen.submitted ≤ search → world.asking search = [] ∧ world.pending search = []
  last : world.screen.indicator = true → ∃ search, search + 1 = world.screen.submitted ∧ world.Awaits search

variable {world next : SearchWorld} {search : Nat}

/-- A search that waits has a request in flight. -/
theorem Awaits.busy (awaits : world.Awaits search) : world.flights ≠ [] := by
  intro idle
  cases awaits with
  | hits once pending =>
      rw [asking, idle] at once
      cases once
  | documents asking download counted pending =>
      rw [SearchWorld.pending, idle] at pending
      exact pending rfl

theorem Awaits.congr (awaits : world.Awaits search) (asking : (world.asking search).Perm (next.asking search))
    (pending : next.pending search = world.pending search)
    (downloads : next.screen.downloads search = world.screen.downloads search) : next.Awaits search := by
  cases awaits with
  | hits once none => exact .hits (asking.length_eq ▸ once) (pending.trans none)
  | documents silent download counted some =>
      rw [silent] at asking
      exact .documents asking.nil_eq.symm (downloads.trans download) (pending ▸ counted) (pending ▸ some)

theorem Indicates.congr (indicates : world.Indicates) (flights : next.flights = world.flights)
    (downloads : next.screen.downloads = world.screen.downloads)
    (submitted : next.screen.submitted = world.screen.submitted)
    (indicator : next.screen.indicator = world.screen.indicator) : next.Indicates := by
  have views (search : Nat) :
      next.asking search = world.asking search ∧ next.pending search = world.pending search := by
    rw [asking, asking, pending, pending, flights]
    exact ⟨rfl, rfl⟩
  refine ⟨flights ▸ indicates.reports, fun search old => ?_, fun visible => ?_⟩
  · rw [(views search).1, (views search).2]
    exact indicates.fresh search (submitted ▸ old)
  · obtain ⟨search, isLast, awaits⟩ := indicates.last (indicator ▸ visible)
    exact ⟨search, isLast.trans submitted.symm,
      awaits.congr (.of_eq (views search).1.symm) (views search).2 (congrFun downloads search)⟩

/-- The indicator becomes visible with a new search, which waits for Algolia. -/
theorem Indicates.submit (indicates : world.Indicates) (text : String) :
    (world.perform (world.screen.searchButtonPressed text)).Indicates := by
  by_cases empty : text = ""
  · rw [empty, submit_empty]
    exact indicates
  · obtain ⟨screen, flights, asking, pending⟩ := world.submit_views empty
    refine ⟨?_, fun search old => ?_, fun _ => ⟨world.screen.submitted, ?_, ?_⟩⟩
    · rw [flights]
      refine Pool.forall_append indicates.reports fun flight member name asks => ?_
      rw [List.mem_singleton.mp member] at asks
      cases asks
    · rw [screen] at old
      dsimp only at old
      rw [asking, pending, if_neg (by omega), List.append_nil]
      exact indicates.fresh search (by omega)
    · rw [screen]
    · obtain ⟨silent, none⟩ := indicates.fresh world.screen.submitted (Nat.le_refl _)
      refine .hits ?_ ((pending _).trans none)
      rw [asking, silent, if_pos rfl]
      rfl

/-- An answer leaves what the searches wait for. -/
theorem Indicates.serve (indicates : world.Indicates) {index : Nat} {request : SearchRequest} {answer : SearchAnswer}
    {reply : SearchReply} (found : world.flights[index]? = some ⟨search, request, none⟩)
    (replied : answer.reply world.store request = some reply) :
    Indicates { world with flights := world.flights.set index ⟨search, request, some reply⟩ } := by
  have views := serve_views reply found
  refine ⟨Pool.forall_set indicates.reports ?_, fun other old => ?_, fun visible => ?_⟩
  · rintro name rfl later same
    obtain rfl := Option.some.inj same
    cases answer <;> cases replied <;> exact ⟨_, rfl⟩
  · rw [(views other).1, (views other).2]
    exact indicates.fresh other old
  · obtain ⟨last, isLast, awaits⟩ := indicates.last visible
    exact ⟨last, isLast, awaits.congr (.of_eq (views last).1.symm) (views last).2 rfl⟩

/-- The request to Algolia gives way to reads, and the last search still waits when the indicator is visible. -/
theorem Indicates.startReads (indicates : world.Indicates) {index : Nat} {searchString : String} {reply : SearchReply}
    (found : world.flights[index]? = some ⟨search, .searchAlgolia searchString, some reply⟩) {screen : SearchScreen}
    {resultIds : List String} (submitted : screen.submitted = world.screen.submitted)
    (last : screen.indicator = true → ∃ last, last + 1 = screen.submitted ∧
      (world.startReads index search screen resultIds).Awaits last) :
    (world.startReads index search screen resultIds).Indicates := by
  refine ⟨?_, fun other old => ?_, last⟩
  · refine Pool.forall_append (Pool.forall_eraseIdx indicates.reports) fun flight member name asks => ?_
    obtain ⟨itemId, _, rfl⟩ := List.mem_map.mp member
    exact fun reply replied => by cases replied
  · obtain ⟨silent, none⟩ := indicates.fresh other (submitted ▸ old)
    have nothing := asking_startReads found screen resultIds other
    rw [silent] at nothing
    obtain ⟨apart, silentNow⟩ := List.append_eq_nil_iff.mp nothing.nil_eq.symm
    refine ⟨silentNow, ?_⟩
    have different : search ≠ other := fun same => by
      rw [if_pos same] at apart
      cases apart
    rw [pending_startReads found, none, if_neg different, List.append_nil]

/-- The search that Algolia answers shows no result, or it waits for the documents of its hits. -/
theorem Indicates.searched (indicates : world.Indicates) {index : Nat} {searchString : String} {reply : SearchReply}
    (found : world.flights[index]? = some ⟨search, .searchAlgolia searchString, some reply⟩)
    (running : (complete world.screen search (.searchAlgolia searchString) reply).1.trapped = false) :
    (perform { world with flights := world.flights.eraseIdx index }
      (complete world.screen search (.searchAlgolia searchString) reply)).Indicates := by
  have loads : SearchScreen.Loads search world.screen (world.screen.searchCompletion search reply) := by
    rcases SearchScreen.searchCompletion_cases search reply world.screen with loads | ⟨_, stopped⟩
    · exact loads
    · unfold complete at running
      dsimp only at running
      rw [stopped] at running
      cases running
  unfold complete
  dsimp only
  generalize world.screen.searchCompletion search reply = outcome at loads ⊢
  cases loads with
  | empty =>
      have hidden : (world.startReads index search (world.screen.showResults []) []).Indicates :=
        indicates.startReads found rfl fun visible => by cases visible
      exact hidden
  | @hits resultIds some =>
      refine indicates.startReads found rfl fun visible => ?_
      obtain ⟨last, isLast, awaits⟩ := indicates.last visible
      refine ⟨last, isLast, ?_⟩
      have asked := asking_startReads found (world.screen.reading search resultIds) resultIds last
      have pendingNow := pending_startReads found (world.screen.reading search resultIds) resultIds last
      by_cases own : search = last
      · subst own
        rw [if_pos rfl] at asked pendingNow
        cases awaits with
        | hits once none =>
            have total := asked.length_eq
            rw [once, List.length_append, List.length_singleton] at total
            rw [none, List.nil_append] at pendingNow
            refine .documents (List.eq_nil_of_length_eq_zero (Nat.left_eq_add.mp total)) (Function.update_self ..) ?_ ?_
            · rw [pendingNow]
              exact Nat.zero_add _
            · rwa [pendingNow]
        | documents silent download counted pending =>
            rw [silent] at asked
            cases asked.nil_eq
      · rw [if_neg own, List.nil_append] at asked
        rw [if_neg own, List.append_nil] at pendingNow
        exact awaits.congr asked pendingNow (Function.update_of_ne (Ne.symm own) ..)

/-- The document of a read hides the indicator, or the last search waits for another one. -/
theorem Indicates.read (indicates : world.Indicates) {index : Nat} {name : String} {reply : SearchReply}
    (found : world.flights[index]? = some ⟨search, .getItem name, some reply⟩) :
    (perform { world with flights := world.flights.eraseIdx index }
      (complete world.screen search (.getItem name) reply)).Indicates := by
  obtain ⟨read, rfl⟩ := indicates.reports _ (List.mem_of_getElem? found) name rfl reply rfl
  obtain ⟨asked, own, others⟩ := read_views found
  have after : perform { world with flights := world.flights.eraseIdx index }
      (complete world.screen search (.getItem name) (.document read)) = { world with
        flights := world.flights.eraseIdx index, screen := world.screen.itemCompletion search read } := by
    simp [perform, complete]
  rw [after]
  have submitted : (world.screen.itemCompletion search read).submitted = world.screen.submitted := by
    unfold SearchScreen.itemCompletion
    split
    · rfl
    · exact (deliver_keeps _ _).2.1
  refine ⟨Pool.forall_eraseIdx indicates.reports, fun other old => ?_, fun visible => ?_⟩
  · obtain ⟨silent, none⟩ := indicates.fresh other (submitted ▸ old)
    refine ⟨(asked other).trans silent, ?_⟩
    have different : other ≠ search := by
      rintro rfl
      rw [none] at own
      cases own.nil_eq
    exact (others other different).trans none
  · obtain ⟨before, kept⟩ := SearchScreen.itemCompletion_visible visible
    obtain ⟨last, isLast, awaits⟩ := indicates.last before
    refine ⟨last, isLast.trans submitted.symm, ?_⟩
    by_cases here : last = search
    · subst here
      cases awaits with
      | hits once none =>
          rw [none] at own
          cases own.nil_eq
      | @documents shared silent download counted some =>
          have total := own.length_eq
          rw [List.length_cons] at total
          rcases kept with ⟨absent, _⟩ | ⟨collected, later, present, withIds, counter, fewer, downloads⟩
          · rw [download] at absent
            cases absent
          · obtain rfl := Option.some.inj (download.symm.trans present)
            have all : later.counter + (pending { world with flights := world.flights.eraseIdx index } last).length =
                later.withIds.length := by
              rw [withIds, counter, ← counted]
              omega
            refine .documents ((asked last).trans silent) (downloads ▸ Function.update_self ..) all fun done => fewer ?_
            change pending { world with flights := world.flights.eraseIdx index } last = [] at done
            rw [← all, done]
            rfl
    · refine awaits.congr (.of_eq (asked last).symm) (others last here) ?_
      rcases kept with ⟨_, same⟩ | ⟨_, later, _, _, _, _, downloads⟩
      · exact congrArg (fun screen => screen.downloads last) same
      · exact (congrFun downloads last).trans (Function.update_of_ne here ..)

/-- A step of a search tab that keeps running keeps the indicator. -/
theorem Indicates.step (indicates : world.Indicates) {event : SearchEvent} (taken : world.step event = some next)
    (running : next.screen.trapped = false) : next.Indicates := by
  cases event with
  | searchButtonPressed text =>
      obtain ⟨_, rfl⟩ := step_searchButtonPressed.mp taken
      exact indicates.submit text
  | serve index answer =>
      obtain ⟨search, request, reply, found, replied, rfl⟩ := step_serve.mp taken
      exact indicates.serve found replied
  | callback index =>
      obtain ⟨search, request, reply, found, rfl⟩ := step_callback.mp taken
      split at running
      · rename_i stopped
        rw [stopped] at running
        cases running
      · rename_i alive
        rw [if_neg alive]
        cases request with
        | searchAlgolia searchString => exact indicates.searched found running
        | getItem name => exact indicates.read found

end SearchWorld

end ShoppingApp
