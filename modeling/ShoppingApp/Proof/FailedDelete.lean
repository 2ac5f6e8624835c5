import ShoppingApp.Proof.BasketScreen
import ShoppingApp.Proof.FanIn
import ShoppingApp.Proof.Settling

namespace ShoppingApp

/-- The delete gesture writes the shortened copy and reads its items for one download. -/
def Request.OfDelete (download : Nat) : Request → Prop
  | .updateBasket _ _ (.deleteRow _) => True
  | .getItem _ shared => shared = download
  | _ => False

/-- The server fails each write of a basket. -/
def World.FailsWrites (world : World) : Event → Prop
  | .serve index answer => ∀ flight ∈ world.flights[index]?, flight.request.isBasketWrite = true →
      answer.succeeds = false
  | .gesture _ _ | .callback _ _ => True

/-- The server, the copy, and the rows of the screen have the same items. -/
structure World.Displays (number : Nat) (name : String) (itemIds : List String) (world : World) : Prop where
  stored : ∃ data, world.store.data .basket name = some data ∧ (Basket.ofDictionary data).itemIds = some itemIds
  copy : ∃ basket, (world.devices number).screen.basket = some basket ∧ basket.id = some name ∧
    basket.itemIds = some itemIds
  rows : (world.devices number).rowIds.Perm (itemIds.map some)

/-- The copy stays shortened, and fewer rows are shown and awaited than before the gesture. -/
structure World.Shortened (number download rows : Nat) (store : Store) (copy : Basket) (world : World) : Prop where
  store : world.store = store
  copy : (world.devices number).screen.basket = some copy
  flights : ∀ flight ∈ world.flights, flight.device = number ∧ flight.request.OfDelete download
  shown : (world.devices number).rowIds.length ≤ rows
  collected : ∀ shared ∈ (world.devices number).downloads[download]?,
    shared.itemArray.length + world.reads.length ≤ rows

namespace Device

/-- An item read shows no more rows than it has collected, and it collects at most one item. -/
theorem itemCompletion_bounded (device : Device) (download : Nat) (read : DocumentRead) {rows : Nat}
    (shown : device.rowIds.length ≤ rows)
    (room : ∀ shared ∈ device.downloads[download]?, shared.itemArray.length + 1 ≤ rows) :
    (device.itemCompletion download read).device.rowIds.length ≤ rows ∧
      ∀ after ∈ (device.itemCompletion download read).device.downloads[download]?,
        ∃ shared ∈ device.downloads[download]?, after.itemArray.length ≤ shared.itemArray.length + 1 := by
  unfold itemCompletion
  cases present : device.downloads[download]? with
  | none =>
      refine ⟨shown, fun after same => ?_⟩
      rw [show device.done.device.downloads[download]? = none from present] at same
      cases same
  | some shared =>
      dsimp only
      let updated : Device := { device with downloads := device.downloads.set download (shared.receive read).1 }
      have grows : (shared.receive read).1.itemArray.length ≤ shared.itemArray.length + 1 := by
        rw [ItemDownload.receive_fst, List.length_append]
        exact Nat.add_le_add_left (Option.length_toList_le ..) _
      have inside := (List.getElem?_eq_some_iff.mp present).1
      have set : updated.downloads[download]? = some (shared.receive read).1 := List.getElem?_set_self inside
      have kept {reached : Device} (downloads : reached.downloads = updated.downloads) :
          ∀ after ∈ reached.downloads[download]?, ∃ before ∈ some shared,
            after.itemArray.length ≤ before.itemArray.length + 1 := by
        intro after same
        rw [downloads, set] at same
        obtain rfl := Option.some.inj same
        exact ⟨shared, rfl, grows⟩
      by_cases silent : (shared.receive read).2 = []
      · rw [silent, deliver]
        exact ⟨shown, kept rfl⟩
      · obtain ⟨items, member⟩ := List.exists_mem_of_ne_nil _ silent
        have same : (updated.deliver (shared.receive read).2).device = (updated.showItems items).device :=
          deliver_same member fun other inside => receive_same inside member
        obtain ⟨allItems, downloads, _⟩ := updated.showItems_eq items
        rw [same]
        refine ⟨?_, kept downloads⟩
        rw [rowIds, allItems, List.length_map, ItemDownload.receive_delivers member]
        exact grows.trans (room shared present)

/-- The reload adds no row, and its download has collected nothing. -/
theorem getBasketItems_starts {device : Device} (running : device.getBasketItems.device.trapped = false) :
    device.getBasketItems.device.rowIds.length ≤ device.rowIds.length ∧
      ∀ shared ∈ device.getBasketItems.device.downloads[device.downloads.length]?, shared.itemArray = [] := by
  have outside : device.downloads[device.downloads.length]? = none := List.getElem?_eq_none (Nat.le_refl _)
  obtain ⟨_, same⟩ | ⟨_, same⟩ | ⟨_, same⟩ := getBasketItems_cases running
  · rw [same, show device.done.device.downloads = device.downloads from rfl, outside]
    exact ⟨Nat.le_refl _, fun shared absent => by cases absent⟩
  · obtain ⟨rows, downloads, _, _⟩ := device.showItems_empty
    rw [same, rows, downloads, outside]
    exact ⟨Nat.zero_le _, fun shared absent => by cases absent⟩
  · rw [same]
    refine ⟨Nat.le_refl _, fun shared started => ?_⟩
    rw [List.getElem?_concat_length] at started
    obtain rfl := Option.some.inj started
    rfl

end Device

namespace World.Shortened

variable {world next : World} {number download rows index : Nat} {store : Store} {copy : Basket} {request : Request}

/-- An answer changes nothing but the reply of its request. -/
theorem serve (shortened : Shortened number download rows store copy world) {device : Nat} {answer : Answer}
    (found : world.flights[index]? = some ⟨device, request, none⟩) (fails : world.FailsWrites (.serve index answer))
    (served : world.serve index device request answer = some next) :
    Shortened number download rows store copy next := by
  have own := shortened.flights _ (List.mem_of_getElem? found)
  have recorded (reply : Reply) :
      Shortened number download rows store copy (world.record index device request reply) := by
    refine ⟨shortened.store, shortened.copy, Pool.forall_set shortened.flights own, shortened.shown, ?_⟩
    have same : reads (world.record index device request reply) = world.reads :=
      Pool.filterMap_set_same _ found rfl
    rw [same]
    exact shortened.collected
  rcases serve_cases served with ⟨_, rfl⟩ | ⟨rfl, _, rfl⟩ | ⟨uid, isEmailVerified, _, auth, rfl⟩
  · exact recorded .error
  · cases request with
    | getItem name shared => exact recorded _
    | updateBasket name values completion => cases fails _ found rfl
    | getBaskets owner completion => exact absurd own.2 id
    | _ => exact absurd own.2 id
  · cases request with
    | getItem name shared => cases auth
    | updateBasket name values completion => cases auth
    | _ => exact absurd own.2 id

/-- A callback that issues nothing leaves the copy, and its rows and collected items stay within the bound. -/
theorem returned (shortened : Shortened number download rows store copy world) {outcome : Outcome}
    (silent : outcome.issued = []) (basket : outcome.device.screen.basket = (world.devices number).screen.basket)
    (shown : outcome.device.rowIds.length ≤ rows)
    (collected : ∀ shared ∈ outcome.device.downloads[download]?,
      shared.itemArray.length + ((world.flights.eraseIdx index).filterMap Flight.readName).length ≤ rows) :
    Shortened number download rows store copy
      (World.perform { world with flights := world.flights.eraseIdx index } number outcome) := by
  have flights : (World.perform { world with flights := world.flights.eraseIdx index } number outcome).flights =
      world.flights.eraseIdx index := World.perform_flights _ silent
  refine ⟨shortened.store, ?_, ?_, ?_, ?_⟩
  · rw [perform_devices, basket]
    exact shortened.copy
  · rw [flights]
    exact Pool.forall_eraseIdx shortened.flights
  · rw [perform_devices]
    exact shown
  · rw [perform_devices, reads, flights]
    exact collected

/-- No callback lengthens the copy again, whatever it was answered. -/
theorem callback (shortened : Shortened number download rows store copy world) {device : Nat} {reply : Reply}
    {uuid : String} (found : world.flights[index]? = some ⟨device, request, some reply⟩) :
    Shortened number download rows store copy (world.callback index device request reply uuid) := by
  obtain ⟨here, own⟩ := shortened.flights _ (List.mem_of_getElem? found)
  obtain rfl : device = number := here
  have fewer : world.reads.length = (Flight.readName ⟨device, request, some reply⟩).toList.length +
      ((world.flights.eraseIdx index).filterMap Flight.readName).length := by
    rw [reads, (Pool.filterMap_perm Flight.readName found).length_eq, List.length_append]
  have kept (outcome : Outcome) (same : outcome = (world.devices device).done) : Shortened device download rows store
      copy (World.perform { world with flights := world.flights.eraseIdx index } device outcome) := by
    subst same
    refine shortened.returned rfl rfl shortened.shown fun shared present => ?_
    have bounded := shortened.collected shared present
    omega
  cases stopped : (world.devices device).trapped with
  | true =>
      rw [World.callback, stopped, if_pos rfl]
      exact kept _ rfl
  | false =>
      rw [callback_of_running stopped]
      cases request with
      | updateBasket name values completion =>
          cases completion with
          | deleteRow itemId => exact kept _ rfl
          | _ => exact absurd own id
      | getItem name shared =>
          obtain rfl : shared = download := own
          have read : (Flight.readName ⟨device, .getItem name shared, some reply⟩).toList.length = 1 := rfl
          rw [read] at fewer
          obtain ⟨shown, collected⟩ := (world.devices device).itemCompletion_bounded shared reply.read shortened.shown
            fun collecting present => by
              have bounded := shortened.collected collecting present
              omega
          refine shortened.returned ((world.devices device).itemCompletion_issued shared reply.read)
            ((world.devices device).itemCompletion_reads shared reply.read).keeps.basket shown fun after present => ?_
          obtain ⟨before, held, grows⟩ := collected after present
          have bounded := shortened.collected before held
          omega
      | _ => exact absurd own id

/-- The replies to the delete gesture keep the copy shortened. -/
theorem step (shortened : Shortened number download rows store copy world) {event : Event}
    (reply : event.isGesture = false) (fails : world.FailsWrites event) (taken : world.step event = some next) :
    Shortened number download rows store copy next := by
  cases event with
  | gesture device made => cases reply
  | serve index answer =>
      obtain ⟨device, request, found, served⟩ := step_serve.mp taken
      exact shortened.serve found fails served
  | callback index uuid =>
      obtain ⟨device, request, reply, found, _, rfl⟩ := step_callback.mp taken
      exact shortened.callback found

/-- The delete gesture shortens the copy and the rows by one, and the reload collects nothing yet. -/
theorem deleted (quiet : world.Quiet) {row : Nat} {item : Item} {basket : Basket} {itemId name : String}
    {itemIds : List String} (running : (world.devices number).trapped = false)
    (present : (world.devices number).screen.allItems[row]? = some item) (hasId : item.id = some itemId)
    (hasBasket : (world.devices number).screen.basket = some basket) (hasName : basket.id = some name)
    (hasItems : basket.itemIds = some itemIds)
    (shown : (world.devices number).rowIds.Perm (itemIds.map some)) :
    Shortened number (world.devices number).downloads.length (itemIds.length - 1) world.store
      { basket with itemIds := some (itemIds.erase itemId) }
      (world.perform number ((world.devices number).deleteRow row)) := by
  obtain ⟨store, devices, flights⟩ := world
  obtain rfl : flights = [] := quiet
  have member : itemId ∈ itemIds := by
    have inside : some itemId ∈ (devices number).rowIds :=
      List.mem_map.mpr ⟨item, List.mem_of_getElem? present, hasId⟩
    simpa using shown.mem_iff.mp inside
  have total : (devices number).screen.allItems.length = itemIds.length := by
    simpa [Device.rowIds] using shown.length_eq
  have shorterIds : (itemIds.erase itemId).length = itemIds.length - 1 := List.length_erase_of_mem member
  rw [Device.deleteRow_eq running present hasId hasBasket hasItems hasName member]
  generalize shortens : ({ devices number with screen :=
    { (devices number).screen with
      allItems := (devices number).screen.allItems.eraseIdx row
      basket := some { basket with itemIds := some (itemIds.erase itemId) } } } : Device) = shorter
  have copy : shorter.screen.basket = some { basket with itemIds := some (itemIds.erase itemId) } := by rw [← shortens]
  have downloads : shorter.downloads = (devices number).downloads := by rw [← shortens]
  have rows : shorter.rowIds.length = itemIds.length - 1 := by
    rw [← shortens, Device.rowIds, List.length_map,
      List.length_eraseIdx_of_lt (List.getElem?_eq_some_iff.mp present).1, total]
  obtain ⟨issued, _, trapped⟩ := shorter.getBasketItems_shows store copy rfl
  have alive : shorter.getBasketItems.device.trapped = false := trapped.trans (by rw [← shortens]; exact running)
  obtain ⟨fewer, nothing⟩ := Device.getBasketItems_starts alive
  have write : ∀ request ∈ [Request.updateBasket name (itemIdsValues (itemIds.erase itemId)) (.deleteRow itemId)],
      Flight.readName ⟨number, request, none⟩ = none := fun request written => by
    rw [List.mem_singleton.mp written]
    rfl
  have awaited := Settling.reads_load number store devices write issued
  refine ⟨rfl, ?_, ?_, ?_, ?_⟩
  · rw [perform_devices]
    exact shorter.getBasketItems_reads.keeps.basket.trans copy
  · refine forall_perform (fun flight absent => absurd absent List.not_mem_nil) fun request asked => ⟨rfl, ?_⟩
    rcases List.mem_cons.mp asked with rfl | later
    · trivial
    · rw [issued] at later
      obtain ⟨other, _, rfl⟩ := List.mem_map.mp later
      exact congrArg List.length downloads
  · rw [perform_devices]
    exact fewer.trans rows.le
  · rw [perform_devices]
    intro shared started
    rw [List.singleton_append] at awaited
    rw [awaited, nothing shared (downloads ▸ started), shorterIds]
    exact (Nat.zero_add _).le

end World.Shortened

/-- A delete gesture whose write fails is never undone on the screen: whatever its other requests are answered and in
whatever order the callbacks run, the copy stays without the identifier and the screen shows fewer rows than the
unchanged basket of the server has. -/
theorem failed_delete_never_undone {world final : World} {number row : Nat} {events : List Event} {name : String}
    {itemIds : List String} (quiet : world.Quiet) (displays : world.Displays number name itemIds)
    (replies : ∀ event ∈ events, event.isGesture = false)
    (fails : world.Along World.FailsWrites (.gesture number (.deleteRow row) :: events))
    (ran : world.run (.gesture number (.deleteRow row) :: events) = some final) :
    final.store = world.store ∧ ¬ final.Displays number name itemIds ∧
      (∃ itemId ∈ itemIds, Basket.ids (final.devices number).screen.basket = itemIds.erase itemId) ∧
      (final.devices number).rowIds.length < itemIds.length := by
  obtain ⟨next, taken, ran⟩ := Transition.run_cons.mp ran
  have failed := fails.2 next taken
  obtain ⟨allowed, rfl⟩ := World.step_gesture.mp taken
  obtain ⟨basket, hasBasket, hasName, hasItems⟩ := displays.copy
  have inside : row < (world.devices number).screen.allItems.length := by
    simp only [Gesture.allowed, Bool.and_eq_true, decide_eq_true_eq] at allowed
    exact allowed.2
  have present := List.getElem?_eq_getElem inside
  have listed : ((world.devices number).screen.allItems[row]).id ∈ itemIds.map some :=
    displays.rows.mem_iff.mp (List.mem_map_of_mem (List.getElem_mem inside))
  obtain ⟨itemId, member, hasId⟩ := List.mem_map.mp listed
  have start := World.Shortened.deleted quiet (World.running_of_allowed allowed) present hasId.symm hasBasket hasName
    hasItems displays.rows
  have shortened := Transition.run_invariant
    (World.Shortened number (world.devices number).downloads.length (itemIds.length - 1) world.store
      { basket with itemIds := some (itemIds.erase itemId) })
    (fun state event next shortened listed taken => shortened.step listed.1 listed.2 taken) start
    (Transition.Along.and (.of_forall replies) failed) ran
  have positive : 0 < itemIds.length := List.length_pos_of_mem member
  have fewer : (final.devices number).rowIds.length < itemIds.length := by
    have bounded := shortened.shown
    omega
  refine ⟨shortened.store, fun undone => ?_, ⟨itemId, member, by rw [shortened.copy]; rfl⟩, fewer⟩
  have same := undone.rows.length_eq
  rw [List.length_map] at same
  exact absurd same fewer.ne

instance (world : World) : ∀ event, Decidable (world.FailsWrites event)
  | .serve _ _ => inferInstanceAs (Decidable (∀ _ ∈ _, _ → _))
  | .gesture _ _ | .callback _ _ => inferInstanceAs (Decidable True)

/-- The basket screen has loaded a basket of two items. -/
def shownShop : World :=
  ((openShop ["a", "b"]).run [.gesture 0 .viewDidAppear, .serve 0 .success, .callback 0 "n", .serve 0 .success,
    .serve 1 .success, .callback 0 "n", .callback 0 "n"]).getD (openShop ["a", "b"])

/-- The write of the delete gesture fails, and the item that is left is read. -/
def failDelete : List Event :=
  [.gesture 0 (.deleteRow 0), .serve 0 .failure, .serve 1 .success, .callback 0 "n", .callback 0 "n"]

theorem failed_delete_never_undone_first :
    ∃ final, shownShop.run failDelete = some final ∧ ¬ final.Displays 0 "d" ["a", "b"] := by
  have quiet : shownShop.Quiet := rfl
  have displays : shownShop.Displays 0 "d" ["a", "b"] := ⟨⟨_, rfl, rfl⟩, ⟨_, rfl, rfl, rfl⟩, List.Perm.refl _⟩
  have fails : shownShop.Along World.FailsWrites failDelete := by decide
  exact ⟨_, rfl, (failed_delete_never_undone quiet displays (by decide) fails rfl).2.1⟩

/-- The failed delete of one of two rows leaves the screen with the other row, and the server keeps both items. -/
theorem failed_delete_kept :
    shownShop.Quiet ∧ shownShop.Displays 0 "d" ["a", "b"] ∧ shownShop.Along World.FailsWrites failDelete ∧
      ∃ final, shownShop.run failDelete = some final ∧ final.Quiet ∧ final.store.heldIds (some "u") = ["a", "b"] ∧
        Basket.ids (final.devices 0).screen.basket = ["b"] ∧ (final.devices 0).rowIds = [some "b"] ∧
        ¬ final.Displays 0 "d" ["a", "b"] := by
  refine ⟨rfl, ⟨⟨_, rfl, rfl⟩, ⟨_, rfl, rfl, rfl⟩, List.Perm.refl _⟩, by decide, _, rfl, rfl, rfl, rfl, rfl, ?_⟩
  intro undone
  exact absurd undone.rows.length_eq (by decide)

end ShoppingApp
