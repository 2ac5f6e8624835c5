import ShoppingApp.Proof.Isolation

namespace ShoppingApp

/-- A basket is created for an account, decoded from a document, and written through a copy. -/
inductive BasketTrace where
  | created (name uid : String)
  | loaded (name : String) (basket : Basket)
  | updated (copy : Basket) (name : String)

/-- The request updates the basket document of this name. -/
def Request.updatedName : Request → Option String
  | .updateBasket name _ _ => some name
  | _ => none

/-- These requests are issued through a copy of a basket. -/
def Basket.updates (copy : Basket) (issued : List Request) : List BasketTrace :=
  (issued.filterMap Request.updatedName).map (.updated copy)

/-- The answer to a query decodes the first basket of the account. -/
def Request.loads (store : Store) : Request → List BasketTrace
  | .getBaskets ownerId _ => (store.basketsOf ownerId).head?.toList.map fun entry =>
      .loaded entry.1 (Basket.ofDictionary entry.2)
  | _ => []

/-- A running completion updates a basket through the copy of its reply. -/
def Request.updates (uuid : String) (reply : Reply) (device : Device) (request : Request) : List BasketTrace :=
  if device.trapped then []
  else reply.basket.toList.flatMap fun copy => copy.updates (request.complete uuid reply device).issued

/-- The copy carries the identifier of a basket that was decoded from the document of this name. -/
def Basket.LoadedFrom (past : List BasketTrace) (name : String) (copy : Basket) : Prop :=
  ∃ original, .loaded name original ∈ past ∧ original.id = copy.id

/-- A new document belongs to the account that it was created for, an update sets the items, and a reply is decoded
from a document. -/
def Flight.Traced (past : List BasketTrace) (flight : Flight) : Prop :=
  match flight.request with
  | .getBaskets _ _ => ∀ reply ∈ flight.reply, ∀ copy ∈ reply.basket, ∃ name, copy.LoadedFrom past name
  | .setBasket name data => ∃ uid itemId, .created name uid ∈ past ∧
      data = basketDictionaryFrom ⟨some name, some uid, some [itemId]⟩
  | .updateBasket _ values _ => ∃ itemIds, values = itemIdsValues itemIds
  | _ => True

/-- The document carries its name, its items, and the account that it was created for. -/
structure Dictionary.CreatedBasket (past : List BasketTrace) (name : String) (data : Dictionary) : Prop where
  objectId : data.read Value.asString .objectId = some name
  owner : ∃ uid, .created name uid ∈ past ∧ Owned uid data
  itemIds : (data.read Value.asStrings .itemIds).isSome

namespace World

/-- A step creates, decodes, or updates baskets. -/
def trace (world : World) : Event → List BasketTrace
  | .gesture number made =>
      (world.devices number).screen.basket.toList.flatMap fun copy =>
        copy.updates (made.handle (world.devices number)).issued
  | .serve index .success =>
      world.flights[index]?.toList.flatMap fun flight => flight.request.loads world.store
  | .serve _ _ => []
  | .callback index uuid =>
      (world.creator (.callback index uuid)).toList.map (.created uuid) ++
        world.flights[index]?.toList.flatMap fun flight => flight.reply.toList.flatMap fun reply =>
          flight.request.updates uuid reply (world.devices flight.device)

/-- The baskets of the server, of the screens, and of the flights come from the steps of the past. -/
structure Traced (past : List BasketTrace) (world : World) : Prop where
  baskets : ∀ name data, world.store.data .basket name = some data → data.CreatedBasket past name
  copies : ∀ number copy, (world.devices number).screen.basket = some copy → ∃ name, copy.LoadedFrom past name
  flights : ∀ flight ∈ world.flights, flight.Traced past
  loads : ∀ name original, .loaded name original ∈ past →
    original.id = some name ∧ ∃ uid, world.store.HasBasket uid name
  updates : ∀ copy name, .updated copy name ∈ past → copy.id = some name ∧ copy.LoadedFrom past name
  names : world.NamesFree

end World

variable {past later : List BasketTrace}

theorem Basket.mem_updates {copy other : Basket} {issued : List Request} {name : String}
    (member : .updated other name ∈ copy.updates issued) :
    other = copy ∧ ∃ values completion, .updateBasket name values completion ∈ issued := by
  obtain ⟨updated, present, same⟩ := List.mem_map.mp member
  cases same
  obtain ⟨request, inIssued, named⟩ := List.mem_filterMap.mp present
  cases request with
  | updateBasket name values completion =>
      obtain rfl := Option.some.inj named
      exact ⟨rfl, values, completion, inIssued⟩
  | _ => cases named

theorem Basket.loaded_notMem_updates {copy original : Basket} {issued : List Request} {name : String} :
    .loaded name original ∉ copy.updates issued := by
  intro member
  obtain ⟨_, _, impossible⟩ := List.mem_map.mp member
  cases impossible

theorem Request.updated_notMem_loads {request : Request} {store : Store} {copy : Basket} {name : String} :
    .updated copy name ∉ request.loads store := by
  intro member
  cases request with
  | getBaskets ownerId completion =>
      obtain ⟨_, _, impossible⟩ := List.mem_map.mp member
      cases impossible
  | _ => cases member

theorem Basket.LoadedFrom.mono {copy : Basket} {name : String} (loaded : copy.LoadedFrom past name)
    (grows : past ⊆ later) : copy.LoadedFrom later name := by
  obtain ⟨original, member, same⟩ := loaded
  exact ⟨original, grows member, same⟩

theorem Dictionary.CreatedBasket.mono {name : String} {data : Dictionary} (created : data.CreatedBasket past name)
    (grows : past ⊆ later) : data.CreatedBasket later name := by
  obtain ⟨uid, member, owned⟩ := created.owner
  exact ⟨created.objectId, ⟨uid, grows member, owned⟩, created.itemIds⟩

theorem Flight.Traced.mono {flight : Flight} (traced : flight.Traced past) (grows : past ⊆ later) :
    flight.Traced later := by
  obtain ⟨number, request, reply⟩ := flight
  cases request with
  | getBaskets ownerId completion =>
      intro replied same copy shown
      obtain ⟨name, loaded⟩ := traced replied same copy shown
      exact ⟨name, loaded.mono grows⟩
  | setBasket name data =>
      obtain ⟨uid, itemId, created, written⟩ := traced
      exact ⟨uid, itemId, grows created, written⟩
  | _ => exact traced

/-- A reply without documents shows no basket. -/
theorem Flight.Traced.reply {number : Nat} {request : Request} {reply : Reply}
    (traced : Flight.Traced past ⟨number, request, none⟩) (hidden : reply.basket = none) :
    Flight.Traced past ⟨number, request, some reply⟩ := by
  cases request with
  | getBaskets ownerId completion =>
      intro replied same copy shown
      obtain rfl := Option.some.inj same
      rw [hidden] at shown
      cases shown
  | _ => exact traced

namespace World.Traced

variable {world next : World}

theorem copy_of_loaded (traced : world.Traced past) {copy : Basket} {name other : String}
    (loaded : copy.LoadedFrom past name) (hasName : copy.id = some other) : name = other := by
  obtain ⟨original, member, same⟩ := loaded
  exact Option.some.inj ((traced.loads name original member).1.symm.trans (same.trans hasName))

/-- The steps beside the baskets keep them traced. -/
theorem congr (traced : world.Traced past)
    (baskets : ∀ name, next.store.data .basket name = world.store.data .basket name)
    (screen : ∀ number, (next.devices number).screen = (world.devices number).screen)
    (flights : next.flights = world.flights) : next.Traced past := by
  refine ⟨fun name data stored => ?_, fun number copy has => ?_, ?_, fun name original member => ?_, traced.updates,
    ⟨fun name member => ?_, ?_⟩⟩
  · exact traced.baskets name data ((baskets name).symm.trans stored)
  · exact traced.copies number copy (screen number ▸ has)
  · rw [flights]
    exact traced.flights
  · obtain ⟨hasId, uid, data, stored, owned⟩ := traced.loads name original member
    exact ⟨hasId, uid, data, (baskets name).trans stored, owned⟩
  · rw [baskets]
    apply traced.names.absent
    unfold newNames at member ⊢
    rwa [flights] at member
  · unfold newNames
    rw [flights]
    exact traced.names.distinct

/-- A handler that keeps or shrinks a copy and issues traced requests records its updates. -/
theorem perform (traced : world.Traced past) (grows : past ⊆ later) {number : Nat} {outcome : Outcome}
    (copies : ∀ copy, outcome.device.screen.basket = some copy → ∃ name, copy.LoadedFrom past name)
    (issued : ∀ request ∈ outcome.issued, Flight.Traced later ⟨number, request, none⟩)
    (loads : ∀ name original, .loaded name original ∈ later → .loaded name original ∈ past)
    (updates : ∀ copy name, .updated copy name ∈ later → .updated copy name ∈ past ∨
      copy.id = some name ∧ ∃ other, copy.LoadedFrom past other)
    (names : (world.perform number outcome).NamesFree) : (world.perform number outcome).Traced later := by
  refine ⟨fun name data stored => (traced.baskets name data stored).mono grows, fun other copy has => ?_,
    forall_perform (fun flight member => (traced.flights flight member).mono grows) issued,
    fun name original member => traced.loads name original (loads name original member), fun copy name member => ?_,
    names⟩
  · have before : ∃ name, copy.LoadedFrom past name := by
      by_cases same : other = number
      · subst same
        rw [perform_devices] at has
        exact copies copy has
      · rw [world.perform_other outcome same] at has
        exact traced.copies other copy has
    obtain ⟨name, loaded⟩ := before
    exact ⟨name, loaded.mono grows⟩
  · rcases updates copy name member with old | ⟨hasName, other, loaded⟩
    · exact ⟨(traced.updates copy name old).1, (traced.updates copy name old).2.mono grows⟩
    · obtain rfl := traced.copy_of_loaded loaded hasName
      exact ⟨hasName, loaded.mono grows⟩

theorem gesture (traced : world.Traced past) {number : Nat} {made : Gesture}
    (names : (world.perform number (made.handle (world.devices number))).NamesFree) :
    (world.perform number (made.handle (world.devices number))).Traced
      (past ++ world.trace (.gesture number made)) := by
  have recorded {entry : BasketTrace} (member : entry ∈ world.trace (.gesture number made)) :
      ∃ copy, (world.devices number).screen.basket = some copy ∧
        entry ∈ copy.updates (made.handle (world.devices number)).issued := by
    obtain ⟨copy, has, updated⟩ := List.mem_flatMap.mp member
    exact ⟨copy, Option.mem_toList.mp has, updated⟩
  refine traced.perform (List.subset_append_left _ _) (fun copy has => ?_) (fun request member => ?_)
    (fun name original member => ?_) (fun copy name member => ?_) names
  · obtain ⟨earlier, had, shrinks⟩ := made.handle_copy has
    obtain ⟨name, original, loaded, same⟩ := traced.copies number earlier had
    exact ⟨name, original, loaded, same.trans shrinks.id.symm⟩
  · cases Gesture.issues_of_mem member with
    | addToBasket signedIn => exact fun reply impossible => by cases impossible
    | loadBasket signedIn => exact fun reply impossible => by cases impossible
    | deleteRow present hasId hasBasket hasItems hasName inside => exact ⟨_, rfl⟩
    | emptyTheBasket hasBasket hasName => exact ⟨_, rfl⟩
    | _ => trivial
  · rcases List.mem_append.mp member with old | new
    · exact old
    · obtain ⟨copy, _, updated⟩ := recorded new
      exact absurd updated Basket.loaded_notMem_updates
  · rcases List.mem_append.mp member with old | new
    · exact .inl old
    · right
      obtain ⟨held, has, updated⟩ := recorded new
      obtain ⟨rfl, values, completion, issued⟩ := Basket.mem_updates updated
      refine ⟨?_, traced.copies number copy has⟩
      cases Gesture.issues_of_mem issued with
      | deleteRow present hasId hasBasket hasItems hasName inside =>
          obtain rfl := Option.some.inj (has.symm.trans hasBasket)
          exact hasName
      | emptyTheBasket hasBasket hasName =>
          obtain rfl := Option.some.inj (has.symm.trans hasBasket)
          exact hasName

/-- The server keeps the names, the owners, and the items of its baskets. -/
theorem answer_baskets (traced : world.Traced past) {number : Nat} {request : Request}
    (ofRequest : Flight.Traced past ⟨number, request, none⟩) {name : String} {data : Dictionary}
    (stored : (world.store.answer request).1.data .basket name = some data) : data.CreatedBasket past name := by
  rcases Store.answer_basket_cases stored with kept | rfl | ⟨values, completion, old, rfl, present, rfl⟩
  · exact traced.baskets name data kept
  · obtain ⟨uid, itemId, member, rfl⟩ := ofRequest
    exact ⟨rfl, ⟨uid, member, rfl⟩, rfl⟩
  · obtain ⟨itemIds, rfl⟩ := ofRequest
    obtain ⟨objectId, ⟨uid, member, owned⟩, _⟩ := traced.baskets name old present
    exact ⟨objectId, ⟨uid, member, owned⟩, rfl⟩

/-- A query decodes a document that carries its name. -/
theorem loads_of_mem (traced : world.Traced past) {request : Request} {name : String} {original : Basket}
    (member : .loaded name original ∈ request.loads world.store) :
    original.id = some name ∧ ∃ uid, world.store.HasBasket uid name := by
  cases request with
  | getBaskets ownerId completion =>
      obtain ⟨⟨found, data⟩, first, same⟩ := List.mem_map.mp member
      cases same
      obtain ⟨stored, owned⟩ := Store.mem_basketsOf.mp (List.mem_of_head? (Option.mem_toList.mp first))
      exact ⟨(traced.baskets found data stored).objectId, ownerId, data, stored, owned⟩
  | _ => cases member

/-- A successful answer keeps the baskets of all accounts. -/
theorem hasBasket_answer (traced : world.Traced past) {index number : Nat} {request : Request}
    (found : world.flights[index]? = some ⟨number, request, none⟩) {uid name : String}
    (has : world.store.HasBasket uid name) : (world.store.answer request).1.HasBasket uid name := by
  refine has.answer (fun created written same => traced.names.free (same ▸ found)) ?_
  rintro updated values completion rfl
  exact traced.flights _ (List.mem_of_getElem? found)

/-- A successful answer to a query is decoded from a document of the server. -/
theorem answer_traced {number : Nat} {request : Request} {store : Store}
    (ofRequest : Flight.Traced past ⟨number, request, none⟩) :
    Flight.Traced (past ++ request.loads store) ⟨number, request, some (store.answer request).2⟩ := by
  cases request with
  | getBaskets ownerId completion =>
      intro replied same copy shown
      obtain rfl := Option.some.inj same
      rw [Store.basket_of_answer] at shown
      obtain ⟨entry, first, rfl⟩ := Option.map_eq_some_iff.mp shown
      refine ⟨entry.1, Basket.ofDictionary entry.2, List.mem_append_right _ ?_, rfl⟩
      exact List.mem_map_of_mem (Option.mem_toList.mpr first)
  | setBasket name data =>
      obtain ⟨uid, itemId, created, written⟩ := ofRequest
      exact ⟨uid, itemId, List.mem_append_left _ created, written⟩
  | updateBasket name values completion => exact ofRequest
  | _ => trivial

/-- An answered query decodes a document of the server, and the other answers keep the owners. -/
theorem serve (traced : world.Traced past) {index number : Nat} {request : Request} {answer : Answer}
    (found : world.flights[index]? = some ⟨number, request, none⟩)
    (served : world.serve index number request answer = some next) (names : next.NamesFree) :
    next.Traced (past ++ world.trace (.serve index answer)) ∧
      ∀ uid name, world.store.HasBasket uid name → next.store.HasBasket uid name := by
  have ofRequest := traced.flights _ (List.mem_of_getElem? found)
  rcases serve_cases served with ⟨rfl, rfl⟩ | ⟨rfl, _, rfl⟩ | ⟨uid, isEmailVerified, rfl, _, rfl⟩
  · have silent : world.trace (.serve index .failure) = [] := rfl
    rw [silent, List.append_nil]
    exact ⟨⟨traced.baskets, traced.copies, Pool.forall_set traced.flights (ofRequest.reply rfl), traced.loads,
      traced.updates, names⟩, fun _ _ has => has⟩
  · have recorded : world.trace (.serve index .success) = request.loads world.store := by simp [trace, found]
    have grows : past ⊆ past ++ request.loads world.store := List.subset_append_left _ _
    rw [recorded]
    refine ⟨⟨fun name data stored => ?_, fun other copy has => ?_, ?_, fun name original member => ?_,
      fun copy name member => ?_, names⟩, fun _ _ => traced.hasBasket_answer found⟩
    · exact (traced.answer_baskets ofRequest stored).mono grows
    · obtain ⟨name, loaded⟩ := traced.copies other copy has
      exact ⟨name, loaded.mono grows⟩
    · exact Pool.forall_set (fun flight member => (traced.flights flight member).mono grows) (answer_traced ofRequest)
    · have known : original.id = some name ∧ ∃ uid, world.store.HasBasket uid name := by
        rcases List.mem_append.mp member with old | new
        · exact traced.loads name original old
        · exact traced.loads_of_mem new
      obtain ⟨hasId, uid, has⟩ := known
      exact ⟨hasId, uid, traced.hasBasket_answer found has⟩
    · have old := (List.mem_append.mp member).resolve_right Request.updated_notMem_loads
      obtain ⟨hasName, loaded⟩ := traced.updates copy name old
      exact ⟨hasName, loaded.mono grows⟩
  · have silent : world.trace (.serve index (.account uid isEmailVerified)) = [] := rfl
    rw [silent, List.append_nil]
    refine ⟨⟨traced.baskets, fun other copy has => ?_, Pool.forall_set traced.flights (ofRequest.reply rfl),
      traced.loads, traced.updates, names⟩, fun _ _ has => has⟩
    obtain ⟨auth, _, signedIn⟩ := world.signIn_device number other uid
    apply traced.copies other copy
    simpa [World.record, signedIn] using has

/-- An answered request keeps the baskets traced when it is taken away. -/
theorem erase (traced : world.Traced past) {index number : Nat} {request : Request} {reply : Reply}
    (found : world.flights[index]? = some ⟨number, request, some reply⟩) :
    Traced past { world with flights := world.flights.eraseIdx index } :=
  ⟨traced.baskets, traced.copies, Pool.forall_eraseIdx traced.flights, traced.loads, traced.updates,
    traced.names.erase found⟩

/-- A completion creates a basket for the account that is signed in, or it updates the basket of its reply. -/
theorem callback (traced : world.Traced past) {index number : Nat} {request : Request} {reply : Reply}
    {uuid : String} (found : world.flights[index]? = some ⟨number, request, some reply⟩)
    (names : (world.callback index number request reply uuid).NamesFree) :
    (world.callback index number request reply uuid).Traced (past ++ world.trace (.callback index uuid)) := by
  have ofRequest := traced.flights _ (List.mem_of_getElem? found)
  have erased := traced.erase found
  cases stopped : (world.devices number).trapped with
  | true =>
      have silent : world.trace (.callback index uuid) = [] := by
        have nobody : request.creator reply (world.devices number) = none := by
          unfold Request.creator
          split
          · simp [stopped]
          · rfl
        simp [trace, creator, found, Request.updates, stopped, nobody]
      rw [callback_of_stopped stopped, silent, List.append_nil]
      exact erased
  | false =>
      have recorded : world.trace (.callback index uuid) =
          (request.creator reply (world.devices number)).toList.map (.created uuid) ++
            reply.basket.toList.flatMap fun copy =>
              copy.updates (request.complete uuid reply (world.devices number)).issued := by
        simp [trace, creator, found, Request.updates, stopped]
      rw [callback_of_running stopped] at names ⊢
      rw [recorded]
      refine erased.perform (List.subset_append_left _ _) (fun copy has => ?_) (fun issued member => ?_)
        (fun name original member => ?_) (fun copy name member => ?_) names
      · rcases Request.complete_basket has with kept | ⟨owner, rfl, shown⟩
        · exact traced.copies number copy kept
        · exact ofRequest reply rfl copy shown
      · cases Request.follows_of_mem member with
        | createBasket absent signedIn hasId =>
            rename_i owner uid itemId item
            refine ⟨uid, itemId, List.mem_append_right _ (List.mem_append_left _ (List.mem_map_of_mem ?_)), rfl⟩
            simp [Request.creator, stopped, absent, hasId, signedIn]
        | appendItem shown hasName hasItems hasId => exact ⟨_, rfl⟩
        | downloadUser => trivial
        | saveUser missing => trivial
        | readLoaded => trivial
        | readEmptied => trivial
      · rcases List.mem_append.mp member with old | new
        · exact old
        · rcases List.mem_append.mp new with creation | update
          · obtain ⟨_, _, impossible⟩ := List.mem_map.mp creation
            cases impossible
          · obtain ⟨copy, _, inUpdates⟩ := List.mem_flatMap.mp update
            exact absurd inUpdates Basket.loaded_notMem_updates
      · rcases List.mem_append.mp member with old | new
        · exact .inl old
        · right
          rcases List.mem_append.mp new with creation | update
          · obtain ⟨_, _, impossible⟩ := List.mem_map.mp creation
            cases impossible
          · obtain ⟨shown, inReply, inUpdates⟩ := List.mem_flatMap.mp update
            obtain ⟨rfl, values, completion, issued⟩ := Basket.mem_updates inUpdates
            cases Request.follows_of_mem issued with
            | appendItem present hasName hasItems hasId =>
                obtain rfl := Option.some.inj ((Option.mem_toList.mp inReply).symm.trans present)
                exact ⟨hasName, ofRequest reply rfl copy present⟩

/-- A step keeps the baskets traced, with their owners. -/
theorem step (traced : world.Traced past) {event : Event} (taken : world.step event = some next) :
    next.Traced (past ++ world.trace event) ∧
      ∀ uid name, world.store.HasBasket uid name → next.store.HasBasket uid name := by
  have names := traced.names.step taken
  cases event with
  | gesture number made =>
      obtain ⟨_, rfl⟩ := step_gesture.mp taken
      exact ⟨traced.gesture names, fun _ _ has => has⟩
  | serve index answer =>
      obtain ⟨number, request, found, served⟩ := step_serve.mp taken
      exact traced.serve found served names
  | callback index uuid =>
      obtain ⟨number, request, reply, found, _, rfl⟩ := step_callback.mp taken
      exact ⟨traced.callback found names, fun _ _ has => has⟩

end World.Traced

end ShoppingApp
