import ShoppingApp.Proof.FanIn
import ShoppingApp.Proof.LastSearch

namespace ShoppingApp

namespace ItemDownload

variable {download : ItemDownload} {callbacks first : List (String × DocumentRead)}

/-- A silent callback found its document, and it is not the last one to be counted. -/
theorem receive_silent {read : DocumentRead} (silent : (download.receive read).2 = []) :
    (download.receive read).1.counter = download.counter + 1 ∧ download.counter + 1 ≠ download.withIds.length := by
  cases found : read.item with
  | none =>
      have delivers := download.receive_unfound found
      rw [silent] at delivers
      cases delivers
  | some item =>
      refine ⟨by simp [receive_fst, found], fun last => ?_⟩
      rw [receive_found found, if_pos last] at silent
      exact List.cons_ne_nil _ _ silent

/-- Every delivered array holds the items of the callbacks that ran first. -/
theorem receiveAll_delivers {delivered : List Item} (member : delivered ∈ (download.receiveAll callbacks).2) :
    ∃ ran, ran <+: callbacks ∧ delivered = download.itemArray ++ foundItems ran := by
  induction callbacks generalizing download with
  | nil => exact absurd member List.not_mem_nil
  | cons callback rest ih =>
      rcases List.mem_append.mp member with now | later
      · refine ⟨[callback], List.prefix_cons_inj callback |>.mpr rest.nil_prefix, ?_⟩
        rw [receive_delivers now, receive_fst, foundItems_singleton]
      · obtain ⟨ran, first, rfl⟩ := ih later
        refine ⟨callback :: ran, List.prefix_cons_inj callback |>.mpr first, ?_⟩
        rw [receive_fst, ← List.singleton_append, foundItems_append, foundItems_singleton, List.append_assoc]

/-- The delivered arrays grow. -/
theorem receiveAll_grows : (download.receiveAll callbacks).2.Pairwise (· <+: ·) := by
  induction callbacks generalizing download with
  | nil => exact .nil
  | cons callback rest ih =>
      refine List.pairwise_append.mpr ⟨?_, ih, fun delivered now other later => ?_⟩
      · refine List.pairwise_of_forall_mem_list fun delivered now other again => ?_
        have same : delivered = other := (receive_delivers now).trans (receive_delivers again).symm
        exact same ▸ List.prefix_rfl
      · obtain ⟨ran, _, rfl⟩ := receiveAll_delivers later
        rw [receive_delivers now]
        exact List.prefix_append _ _

/-- The callbacks deliver nothing only as long as all of them find their documents. -/
theorem receiveAll_silent (silent : (download.receiveAll callbacks).2 = []) :
    (foundItems callbacks).length = callbacks.length := by
  induction callbacks generalizing download with
  | nil => rfl
  | cons callback rest ih =>
      obtain ⟨now, later⟩ := List.append_eq_nil_iff.mp silent
      have counted := (receive_silent now).1
      rw [receive_fst] at counted
      rw [← List.singleton_append, foundItems_append, foundItems_singleton, List.length_append,
        Nat.add_left_cancel counted, ih later, List.length_append, List.length_singleton]

/-- The completion has been called once every callback has run. -/
theorem completions_ne_nil {withIds : List String} (total : callbacks.length = withIds.length) :
    completions withIds callbacks ≠ [] := by
  rcases List.eq_nil_or_concat' callbacks with rfl | ⟨first, last, rfl⟩
  · obtain rfl : withIds = [] := List.eq_nil_of_length_eq_zero total.symm
    exact List.cons_ne_nil _ _
  · have some : 0 < withIds.length := by simp [← total]
    rw [completions_concat last some]
    intro silent
    obtain ⟨early, final⟩ := List.append_eq_nil_iff.mp silent
    refine (receive_silent final).2 ?_
    simpa [receiveAll_silent early] using total

/-- Found documents are collected in silence until the last one is counted. -/
theorem receiveAll_found_silent (all : ∀ callback ∈ callbacks, callback.2.item.isSome)
    (waiting : download.counter + callbacks.length < download.withIds.length) :
    (download.receiveAll callbacks).2 = [] := by
  induction callbacks generalizing download with
  | nil => rfl
  | cons callback rest ih =>
      obtain ⟨item, found⟩ := Option.isSome_iff_exists.mp (all callback List.mem_cons_self)
      rw [List.length_cons] at waiting
      have fewer : download.counter + 1 ≠ download.withIds.length := by omega
      refine List.append_eq_nil_iff.mpr ⟨by rw [receive_found found, if_neg fewer], ih ?_ ?_⟩
      · exact fun other member => all other (List.mem_cons_of_mem _ member)
      · rw [receive_fst, found]
        have later : download.counter + 1 + rest.length < download.withIds.length := by omega
        exact later

/-- When every document is found, the completion is called once with all items in the order of the callbacks. -/
theorem completions_found {withIds : List String} (total : callbacks.length = withIds.length)
    (all : ∀ callback ∈ callbacks, callback.2.item.isSome) :
    completions withIds callbacks = [foundItems callbacks] := by
  rcases List.eq_nil_or_concat' callbacks with rfl | ⟨first, last, rfl⟩
  · obtain rfl : withIds = [] := List.eq_nil_of_length_eq_zero total.symm
    rfl
  · have some : 0 < withIds.length := by simp [← total]
    have early : ∀ callback ∈ first, callback.2.item.isSome := fun callback member =>
      all callback (List.mem_append_left _ member)
    obtain ⟨item, found⟩ := Option.isSome_iff_exists.mp (all last (by simp))
    have waiting : 0 + first.length < withIds.length := by simp [← total]
    have counted : (foundItems first).length + 1 = withIds.length := by
      rw [length_foundItems_eq.mpr early]
      simpa using total
    rw [completions_concat last some, receiveAll_found_silent early waiting, receive_found found, if_pos counted,
      foundItems_append, foundItems_singleton, found]
    rfl

end ItemDownload

/-- A part of the callbacks yields at most one item for each request of an identifier. -/
theorem foundItems_requested {withIds : List String} {callbacks ran : List (String × DocumentRead)}
    (requested : (callbacks.map Prod.fst).Perm withIds) (first : ran <+: callbacks) (itemId : String) :
    (foundItems (ran.filter fun callback => callback.1 = itemId)).length ≤ withIds.count itemId := by
  have part : (foundItems (ran.filter fun callback => callback.1 = itemId)).length ≤
      (ran.filter fun callback => callback.1 = itemId).length := List.length_filterMap_le ..
  have counted : (ran.filter fun callback => callback.1 = itemId).length = (ran.map Prod.fst).count itemId := by
    rw [List.count, List.countP_map, List.countP_eq_length_filter]
    congr 1
  rw [← requested.count_eq itemId]
  rw [counted] at part
  exact part.trans ((first.map Prod.fst).sublist.count_le itemId)

/-- The reply to Algolia's request names every hit, and the reply to a read is a document. -/
def SearchFlight.Answered (flight : SearchFlight) : Prop :=
  match flight.request with
  | .searchAlgolia _ => ∀ objectIds, flight.reply = some (.hits objectIds) → none ∉ objectIds
  | .getItem _ => ∀ reply ∈ flight.reply, ∃ read, reply = .document read

/-- Algolia gives an identifier to each of its hits. -/
def SearchEvent.Identified : SearchEvent → Prop
  | .serve _ (.hits objectIds) => none ∉ objectIds
  | _ => True

instance SearchEvent.decidableIdentified : ∀ event : SearchEvent, Decidable event.Identified
  | .serve _ (.hits _) => inferInstanceAs (Decidable (¬ _))
  | .serve _ .failure | .serve _ .success | .searchButtonPressed _ | .callback _ => inferInstanceAs (Decidable True)

namespace SearchWorld

/-- The search asks Algolia, or its download counts the reads that it still waits for. -/
inductive Owes (world : SearchWorld) (search : Nat) : Prop where
  | asks (asking : world.asking search ≠ [])
  | reads {shared : ItemDownload} (download : world.screen.downloads search = some shared)
      (pending : world.pending search ≠ [])
      (counted : shared.counter + (world.pending search).length = shared.withIds.length)

/-- A search asks once before it reads, and a search owes an answer as long as the indicator is shown. -/
structure Answering (world : SearchWorld) : Prop where
  running : world.screen.trapped = false
  replies : ∀ flight ∈ world.flights, flight.Answered
  once : ∀ search, (world.asking search).length ≤ if search < world.screen.submitted then 1 else 0
  apart : ∀ search, world.pending search = [] ∨ world.asking search = [] ∧ search < world.screen.submitted
  shown : world.screen.indicator = true → ∃ search, world.Owes search

variable {world next : SearchWorld}

theorem Owes.congr {search : Nat} (owes : world.Owes search)
    (downloads : next.screen.downloads search = world.screen.downloads search)
    (asking : (next.asking search).length = (world.asking search).length)
    (pending : next.pending search = world.pending search) : next.Owes search := by
  cases owes with
  | asks some =>
      refine .asks fun none => some (List.eq_nil_of_length_eq_zero ?_)
      rw [← asking, none, List.length_nil]
  | reads download some counted =>
      refine .reads (downloads.trans download) ?_ ?_
      · rwa [pending]
      · rwa [pending]

/-- A search that asks Algolia asks once, and it reads nothing yet. -/
theorem Answering.asks {search : Nat} (answering : Answering world) (some : world.asking search ≠ []) :
    (world.asking search).length = 1 ∧ world.pending search = [] ∧ search < world.screen.submitted := by
  have positive := List.length_pos_iff.mpr some
  have bounded := answering.once search
  have reads : world.pending search = [] := by
    rcases answering.apart search with none | ⟨none, _⟩
    · exact none
    · exact absurd none some
  split at bounded
  · rename_i submitted
    exact ⟨Nat.le_antisymm bounded positive, reads, submitted⟩
  · exact absurd bounded (Nat.not_le.mpr positive)

/-- A submitted search owes an answer. -/
theorem Answering.submit (answering : Answering world) (text : String) :
    Answering (world.perform (world.screen.searchButtonPressed text)) := by
  by_cases empty : text = ""
  · rw [empty, submit_empty]
    exact answering
  · obtain ⟨screen, flights, asking, pending⟩ := world.submit_views empty
    refine ⟨?_, ?_, fun search => ?_, fun search => ?_, fun _ => ⟨world.screen.submitted, .asks ?_⟩⟩
    · rw [screen]
      exact answering.running
    · rw [flights]
      refine Pool.forall_append answering.replies fun flight member => ?_
      rw [List.mem_singleton.mp member]
      intro objectIds same
      cases same
    · have bounded := answering.once search
      rw [asking, screen, List.length_append]
      by_cases own : world.screen.submitted = search
      · subst own
        rw [if_neg (Nat.lt_irrefl _)] at bounded
        rw [if_pos rfl, if_pos (Nat.lt_succ_self _), List.length_singleton]
        omega
      · rw [if_neg own, List.length_nil, Nat.add_zero]
        refine bounded.trans ?_
        change _ ≤ if search < world.screen.submitted + 1 then 1 else 0
        split <;> split <;> omega
    · rw [asking, pending, screen]
      by_cases own : world.screen.submitted = search
      · left
        rcases answering.apart search with none | ⟨_, submitted⟩
        · exact none
        · exact absurd (own ▸ submitted) (Nat.lt_irrefl _)
      · rw [if_neg own, List.append_nil]
        exact (answering.apart search).imp_right fun reads => ⟨reads.1, Nat.lt_succ_of_lt reads.2⟩
    · rw [asking, if_pos rfl]
      exact List.append_ne_nil_of_right_ne_nil _ (List.cons_ne_nil _ _)

/-- An answer leaves what the searches owe. -/
theorem Answering.serve (answering : Answering world) {index search : Nat} {request : SearchRequest}
    {answer : SearchAnswer} {reply : SearchReply} (found : world.flights[index]? = some ⟨search, request, none⟩)
    (identified : SearchEvent.Identified (.serve index answer))
    (replied : answer.reply world.store request = some reply) :
    Answering { world with flights := world.flights.set index ⟨search, request, some reply⟩ } := by
  have views := fun other => serve_views reply found other
  refine ⟨answering.running, ?_, fun other => ?_, fun other => ?_, fun shown => ?_⟩
  · refine Pool.forall_set answering.replies ?_
    cases request with
    | searchAlgolia searchString =>
        intro objectIds same
        cases answer with
        | hits hits =>
            cases replied.trans same
            exact identified
        | failure => cases replied.trans same
        | success => cases replied
    | getItem name =>
        intro other same
        obtain rfl := Option.some.inj same
        cases answer with
        | hits hits => cases replied
        | failure => exact ⟨_, (Option.some.inj replied).symm⟩
        | success => exact ⟨_, (Option.some.inj replied).symm⟩
  · rw [(views other).1]
    exact answering.once other
  · rw [(views other).1, (views other).2]
    exact answering.apart other
  · obtain ⟨other, owes⟩ := answering.shown shown
    exact ⟨other, owes.congr rfl (congrArg _ (views other).1) (views other).2⟩

/-- The callback of Algolia dismisses the indicator or starts a download for some identifiers. -/
theorem searchCompletion_reads (screen : SearchScreen) (search : Nat) {reply : SearchReply}
    (identified : ∀ objectIds, reply = .hits objectIds → none ∉ objectIds) :
    ∃ (resultIds : List String) (next : SearchScreen),
      screen.searchCompletion search reply =
        (next, resultIds.map fun itemId => ⟨search, .getItem itemId, none⟩) ∧
      next.trapped = screen.trapped ∧ next.submitted = screen.submitted ∧
      (resultIds = [] → next.indicator = false) ∧
      (resultIds ≠ [] → next.downloads search = some { withIds := resultIds }) := by
  have delivered : screen.downloadItemsFromFirebase search [] = (screen.showResults [], []) := rfl
  cases reply with
  | failed => exact ⟨[], screen.showResults [], delivered, rfl, rfl, fun _ => rfl, fun some => absurd rfl some⟩
  | document read => exact ⟨[], screen.showResults [], delivered, rfl, rfl, fun _ => rfl, fun some => absurd rfl some⟩
  | hits objectIds =>
      obtain ⟨resultIds, rfl⟩ := exists_map_some (identified objectIds rfl)
      simp only [SearchScreen.searchCompletion, mapM_map_some]
      by_cases empty : resultIds = []
      · subst empty
        exact ⟨[], screen.showResults [], delivered, rfl, rfl, fun _ => rfl, fun some => absurd rfl some⟩
      · refine ⟨resultIds, _, if_pos (List.length_pos_iff.mpr empty), rfl, rfl, fun none => absurd none empty, ?_⟩
        exact fun _ => Function.update_self ..

/-- After the callback of Algolia the search owes the reads of its hits. -/
theorem Answering.searched (answering : Answering world) {index search : Nat} {searchString : String}
    {reply : SearchReply} (found : world.flights[index]? = some ⟨search, .searchAlgolia searchString, some reply⟩) :
    Answering (perform { world with flights := world.flights.eraseIdx index }
      (complete world.screen search (.searchAlgolia searchString) reply)) := by
  have identified : ∀ objectIds, reply = .hits objectIds → none ∉ objectIds := fun objectIds same =>
    answering.replies _ (List.mem_of_getElem? found) objectIds (congrArg some same)
  obtain ⟨resultIds, screen, completed, trapped, submitted, silent, downloads⟩ :=
    searchCompletion_reads world.screen search identified
  have started : perform { world with flights := world.flights.eraseIdx index }
      (complete world.screen search (.searchAlgolia searchString) reply) =
        world.startReads index search screen resultIds := by
    rw [complete, completed]
    rfl
  rw [started]
  have asked := asking_startReads found screen resultIds
  have pendingNow := pending_startReads found screen resultIds
  have single := asked search
  rw [if_pos rfl] at single
  obtain ⟨once, none, isSubmitted⟩ := answering.asks fun absent =>
    List.cons_ne_nil _ _ (absent ▸ single.symm).eq_nil
  refine ⟨trapped.trans answering.running, ?_, fun other => ?_, fun other => ?_, fun shown => ⟨search, ?_⟩⟩
  · refine Pool.forall_append (Pool.forall_eraseIdx answering.replies) fun flight member => ?_
    obtain ⟨itemId, _, rfl⟩ := List.mem_map.mp member
    intro reply absent
    cases absent
  · have bounded := answering.once other
    rw [(asked other).length_eq, List.length_append] at bounded
    change _ ≤ if other < screen.submitted then 1 else 0
    rw [submitted]
    omega
  · change _ ∨ _ ∧ other < screen.submitted
    rw [submitted, pendingNow]
    by_cases own : search = other
    · subst own
      have total := single.length_eq
      rw [once] at total
      exact .inr ⟨List.eq_nil_of_length_eq_zero (by simpa using total.symm), isSubmitted⟩
    · have askedOther := asked other
      rw [if_neg own, List.nil_append] at askedOther
      rw [if_neg own, List.append_nil]
      refine (answering.apart other).imp_right fun reads => ⟨?_, reads.2⟩
      rw [reads.1] at askedOther
      exact askedOther.symm.eq_nil
  · have some : resultIds ≠ [] := by
      intro empty
      have hidden : screen.indicator = true := shown
      rw [silent empty] at hidden
      cases hidden
    have reads : (world.startReads index search screen resultIds).pending search = resultIds := by
      rw [pendingNow, none, if_pos rfl, List.nil_append]
    exact .reads (downloads some) (reads.symm ▸ some) (by rw [reads, Nat.zero_add])

/-- Any delivered array dismisses the indicator. -/
theorem deliver_indicator (delivered : List (List Item)) (screen : SearchScreen) :
    (screen.deliver delivered).indicator = (screen.indicator && delivered.isEmpty) := by
  induction delivered generalizing screen with
  | nil => exact (Bool.and_true _).symm
  | cons items rest ih =>
      rw [List.isEmpty_cons, Bool.and_false]
      exact ih (screen.showResults items)

/-- The indicator outlives the callback of a read only if the download counts the document and delivers nothing. -/
theorem itemCompletion_keeps (screen : SearchScreen) (search : Nat) (read : DocumentRead) :
    (screen.itemCompletion search read).submitted = screen.submitted ∧
      (screen.itemCompletion search read).trapped = screen.trapped ∧
      (∀ other, other ≠ search →
        (screen.itemCompletion search read).downloads other = screen.downloads other) ∧
      ((screen.itemCompletion search read).indicator = true → screen.indicator = true ∧
        ∀ shared, screen.downloads search = some shared →
          (screen.itemCompletion search read).downloads search = some (shared.receive read).1 ∧
            (shared.receive read).2 = []) := by
  unfold SearchScreen.itemCompletion
  cases download : screen.downloads search with
  | none =>
      refine ⟨rfl, rfl, fun _ _ => rfl, fun shown => ⟨shown, fun shared present => ?_⟩⟩
      cases present
  | some shared =>
      let collected : SearchScreen := { screen with
        downloads := Function.update screen.downloads search (some (shared.receive read).1) }
      obtain ⟨downloads, submitted, trapped⟩ := deliver_keeps (shared.receive read).2 collected
      have indicator := deliver_indicator (shared.receive read).2 collected
      refine ⟨submitted, trapped, fun other different => ?_, fun shown => ?_⟩
      · exact (congrFun downloads other).trans (Function.update_of_ne different ..)
      · obtain ⟨before, silent⟩ := Bool.and_eq_true_iff.mp (indicator.symm.trans shown)
        refine ⟨before, fun other present => ?_⟩
        obtain rfl := Option.some.inj present
        exact ⟨(congrFun downloads search).trans (Function.update_self ..), List.isEmpty_iff.mp silent⟩

/-- The callback of a read delivers an array, or the search still owes an answer. -/
theorem Answering.read (answering : Answering world) {index search : Nat} {name : String}
    {reply : SearchReply} (found : world.flights[index]? = some ⟨search, .getItem name, some reply⟩) :
    Answering (perform { world with flights := world.flights.eraseIdx index }
      (complete world.screen search (.getItem name) reply)) := by
  obtain ⟨read, rfl⟩ := answering.replies _ (List.mem_of_getElem? found) reply rfl
  obtain ⟨asked, own, others⟩ := read_views found
  let erased : SearchWorld := { world with flights := world.flights.eraseIdx index }
  have idle : world.asking search = [] ∧ search < world.screen.submitted := by
    refine (answering.apart search).resolve_left fun none => ?_
    rw [none] at own
    exact List.cons_ne_nil _ _ own.symm.eq_nil
  have after : perform erased (complete world.screen search (.getItem name) (.document read)) =
      { erased with screen := world.screen.itemCompletion search read } := by
    simp [perform, complete]
  rw [after]
  obtain ⟨submitted, trapped, downloads, indicator⟩ := itemCompletion_keeps world.screen search read
  refine ⟨trapped.trans answering.running, Pool.forall_eraseIdx answering.replies, fun other => ?_, fun other => ?_,
    fun shown => ?_⟩
  · change (erased.asking other).length ≤ if other < (world.screen.itemCompletion search read).submitted then 1 else 0
    rw [asked, submitted]
    exact answering.once other
  · change erased.pending other = [] ∨
      erased.asking other = [] ∧ other < (world.screen.itemCompletion search read).submitted
    rw [asked, submitted]
    by_cases same : other = search
    · exact .inr (same ▸ idle)
    · rw [others other same]
      exact answering.apart other
  · obtain ⟨before, collects⟩ := indicator shown
    obtain ⟨other, owes⟩ := answering.shown before
    by_cases same : other = search
    · subst same
      cases owes with
      | asks some => exact absurd idle.1 some
      | @reads shared download _ counted =>
          obtain ⟨collected, silent⟩ := collects shared download
          obtain ⟨advanced, unfinished⟩ := ItemDownload.receive_silent silent
          rw [own.length_eq, List.length_cons] at counted
          refine ⟨other, .reads collected (fun none => unfinished ?_) ?_⟩
          · have rest : erased.pending other = [] := none
            simpa [erased, rest] using counted
          · change (shared.receive read).1.counter + (erased.pending other).length = _
            rw [advanced, ItemDownload.receive_fst, ← counted]
            exact Nat.add_right_comm ..
    · exact ⟨other, owes.congr (downloads other same) (congrArg _ (asked other)) (others other same)⟩

/-- Every step of a run keeps what the searches owe. -/
theorem Answering.step (answering : Answering world) {event : SearchEvent} (identified : event.Identified)
    (taken : world.step event = some next) : Answering next := by
  cases event with
  | searchButtonPressed text =>
      obtain ⟨_, rfl⟩ := step_searchButtonPressed.mp taken
      exact answering.submit text
  | serve index answer =>
      obtain ⟨search, request, reply, found, replied, rfl⟩ := step_serve.mp taken
      exact answering.serve found identified replied
  | callback index =>
      obtain ⟨search, request, reply, found, rfl⟩ := step_callback.mp taken
      rw [answering.running, if_neg Bool.false_ne_true]
      cases request with
      | searchAlgolia searchString => exact answering.searched found
      | getItem name => exact answering.read found

/-- The indicator is dismissed once every callback of a run has run. -/
theorem indicator_dismissed {world final : SearchWorld} {events : List SearchEvent} (fresh : world.screen = {})
    (quiet : world.flights = []) (identified : ∀ event ∈ events, event.Identified)
    (ran : world.run events = some final) (done : final.flights = []) :
    final.screen.trapped = false ∧ final.screen.indicator = false := by
  have initial : world.Answering := by
    refine ⟨by rw [fresh], fun flight member => ?_, fun search => ?_, fun search => .inl ?_, fun shown => ?_⟩
    · rw [quiet] at member
      cases member
    · simp [asking, quiet]
    · simp [pending, quiet]
    · rw [fresh] at shown
      cases shown
  have met : Transition.Along step (fun _ event => event.Identified) world events := .of_forall identified
  have answering := Transition.run_invariant Answering
    (fun state event next answering identified taken => answering.step identified taken) initial met ran
  refine ⟨answering.running, Bool.eq_false_iff.mpr fun shown => ?_⟩
  obtain ⟨search, owes⟩ := answering.shown shown
  cases owes with
  | asks some => exact some (by simp [asking, done])
  | reads _ some _ => exact some (by simp [pending, done])

end SearchWorld

/-- A call of `downloadItemsFromFirebase(withIds:)` always delivers, its arrays only grow and hold no item more often
than it was requested, and the indicator of the searches is dismissed at the end. -/
theorem item_deliveries_grow :
    (∀ (withIds : List String) (callbacks : List (String × DocumentRead)),
      (callbacks.map Prod.fst).Perm withIds →
        ItemDownload.completions withIds callbacks ≠ [] ∧
        (ItemDownload.completions withIds callbacks).Pairwise (· <+: ·) ∧
        ∀ delivered ∈ ItemDownload.completions withIds callbacks, ∃ ran, ran <+: callbacks ∧
          delivered = foundItems ran ∧
          ∀ itemId, (foundItems (ran.filter fun callback => callback.1 = itemId)).length ≤ withIds.count itemId) ∧
    ∀ (world final : SearchWorld) (events : List SearchEvent), world.screen = {} → world.flights = [] →
      (∀ event ∈ events, event.Identified) → world.run events = some final → final.flights = [] →
        final.screen.trapped = false ∧ final.screen.indicator = false := by
  refine ⟨fun withIds callbacks requested => ?_, fun world final events fresh quiet identified ran done =>
    SearchWorld.indicator_dismissed fresh quiet identified ran done⟩
  have total : callbacks.length = withIds.length := by simpa using requested.length_eq
  refine ⟨ItemDownload.completions_ne_nil total, ?_, fun delivered member => ?_⟩
  · unfold ItemDownload.completions
    split
    · exact ItemDownload.receiveAll_grows
    · exact List.pairwise_singleton ..
  · unfold ItemDownload.completions at member
    split at member
    · obtain ⟨ran, first, rfl⟩ := ItemDownload.receiveAll_delivers member
      refine ⟨ran, first, List.nil_append _, foundItems_requested requested first⟩
    · obtain rfl := List.mem_singleton.mp member
      exact ⟨[], callbacks.nil_prefix, rfl, fun itemId => Nat.zero_le _⟩

/-- Of two requested items one is missing, and a search meets a failed read. -/
theorem item_deliveries_grow_missing :
    ItemDownload.completions ["a", "b"] [secondRead, ("a", .missing)] ≠ [] ∧
      ∃ final, searchShop.run [.searchButtonPressed "first", .serve 0 (.hits [some "a"]), .callback 0,
          .serve 0 .failure, .callback 0] = some final ∧ final.screen.indicator = false := by
  have requested : ([secondRead, ("a", .missing)].map Prod.fst).Perm ["a", "b"] := by decide
  refine ⟨(item_deliveries_grow.1 _ _ requested).1, _, rfl, ?_⟩
  exact (item_deliveries_grow.2 searchShop _ [.searchButtonPressed "first", .serve 0 (.hits [some "a"]), .callback 0,
    .serve 0 .failure, .callback 0] rfl rfl (by decide) rfl rfl).2

/-- The item whose document holds its name alone. -/
def plainItem (itemId : String) : Item := Item.ofDictionary (itemDictionaryFrom { id := itemId })

/-- The document of the first item. -/
def firstRead : String × DocumentRead := ("a", .found (itemDictionaryFrom { id := "a" }))

/-- When every document is found, the completion is called once with the items in the order of the callbacks, which is
the requested order as long as the callbacks run in that order. -/
theorem results_in_callback_order {withIds : List String} {callbacks : List (String × DocumentRead)}
    {items : String → Item} (requested : (callbacks.map Prod.fst).Perm withIds)
    (found : ∀ callback ∈ callbacks, callback.2.item = some (items callback.1)) :
    ItemDownload.completions withIds callbacks = [(callbacks.map Prod.fst).map items] ∧
      ((callbacks.map Prod.fst).map items).Perm (withIds.map items) := by
  have total : callbacks.length = withIds.length := by simpa using requested.length_eq
  have all : ∀ callback ∈ callbacks, callback.2.item.isSome := fun callback member => by
    rw [found callback member]
    rfl
  refine ⟨?_, requested.map items⟩
  rw [ItemDownload.completions_found total all, foundItems, List.map_map, List.filterMap_congr found]
  exact congrArg (fun delivered => [delivered]) (congrFun List.filterMap_eq_map callbacks)

/-- The documents of two items come back the other way round. -/
theorem results_in_callback_order_reversed :
    ItemDownload.completions ["a", "b"] [secondRead, firstRead] =
      [([secondRead, firstRead].map Prod.fst).map plainItem] := by
  have requested : ([secondRead, firstRead].map Prod.fst).Perm ["a", "b"] := by decide
  refine (results_in_callback_order requested fun callback member => ?_).1
  rcases List.mem_pair.mp member with rfl | rfl <;> rfl

/-- The items are delivered in the other order when their documents come back the other way round. -/
theorem results_reordered :
    ([secondRead, firstRead].map Prod.fst).Perm ["a", "b"] ∧
      (∀ callback ∈ [secondRead, firstRead], callback.2.item = some (plainItem callback.1)) ∧
      ItemDownload.completions ["a", "b"] [secondRead, firstRead] ≠
        ItemDownload.completions ["a", "b"] [firstRead, secondRead] ∧
      (ItemDownload.completions ["a", "b"] [secondRead, firstRead]).getLast? ≠
        some (["a", "b"].map plainItem) := by
  refine ⟨by decide, fun callback member => ?_, by decide, by decide⟩
  rcases List.mem_pair.mp member with rfl | rfl <;> rfl

end ShoppingApp
