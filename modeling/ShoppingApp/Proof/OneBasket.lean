import Mathlib.Algebra.Ring.Nat
import ShoppingApp.Proof.NewNames
import ShoppingApp.Proof.PurchaseHistory

namespace ShoppingApp

/-- The item screen makes no other gesture. -/
def Gesture.adds : Gesture → Bool
  | .addToBasket _ => true
  | _ => false

/-- These are the requests of the item screen. -/
inductive Request.Adding : Request → Prop where
  | query (ownerId : String) (item : Item) : Adding (.getBaskets ownerId (.addToBasket item))
  | create (name : String) (data : Dictionary) : Adding (.setBasket name data)
  | append (name itemId : String) (itemIds : List String) :
      Adding (.updateBasket name (itemIdsValues itemIds) (.addToBasket itemId))

/-- The completion of a query without a basket creates one for the account that is signed in by then. -/
def Request.creator (request : Request) (reply : Reply) (device : Device) : Option String :=
  match request with
  | .getBaskets _ (.addToBasket item) =>
      if !device.trapped && reply.basket.isNone && item.id.isSome then device.auth else none
  | _ => none

/-- A waiting creation will add one basket to its owner. -/
def Flight.creation (ownerId : String) (flight : Flight) : Nat :=
  match flight.request, flight.reply with
  | .setBasket _ data, none => if Owned ownerId data then 1 else 0
  | _, _ => 0

namespace World

/-- The baskets of an account are on the server or wait to be created. -/
def baskets (world : World) (ownerId : String) : Nat :=
  (world.store.basketsOf ownerId).length + (world.flights.map (Flight.creation ownerId)).sum

/-- The callback at a position creates a basket for this account. -/
def creator (world : World) : Event → Option String
  | .callback index _ => do
      let flight ← world.flights[index]?
      let reply ← flight.reply
      flight.request.creator reply (world.devices flight.device)
  | .gesture _ _ | .serve _ _ => none

/-- A basket is created only for an account that has none, on the server or waiting. -/
def CreatesOnce (world : World) (event : Event) : Prop :=
  ∀ uid ∈ world.creator event, world.baskets uid = 0

instance (world : World) (event : Event) : Decidable (world.CreatesOnce event) :=
  inferInstanceAs (Decidable (∀ _ ∈ _, _ = _))

/-- Every account owns at most one basket document. -/
def OneBasketEach (world : World) : Prop := ∀ ownerId, (world.store.basketsOf ownerId).length ≤ 1

/-- Only requests of the item screen are in flight, and the new names are free. -/
structure Adding (world : World) : Prop where
  requests : ∀ flight ∈ world.flights, flight.request.Adding
  names : world.NamesFree

variable {world next : World}

/-- The query shows the only basket of an account. -/
theorem OneBasketEach.shows (unique : world.OneBasketEach) {ownerId name : String} {data : Dictionary}
    (completion : BasketQuery) (owned : (name, data) ∈ world.store.basketsOf ownerId) :
    (world.store.answer (.getBaskets ownerId completion)).2.basket = some (Basket.ofDictionary data) := by
  rw [Store.basket_of_answer]
  have short := unique ownerId
  generalize world.store.basketsOf ownerId = entries at owned short
  cases entries with
  | nil => cases owned
  | cons entry rest =>
      have alone : rest = [] := by
        apply List.eq_nil_of_length_eq_zero
        rw [List.length_cons] at short
        omega
      rw [alone] at owned
      obtain rfl := List.mem_singleton.mp owned
      rfl

end World

/-- A gesture of the item screen issues queries. -/
theorem Gesture.issued_query {gesture : Gesture} {device : Device} {request : Request}
    (adds : gesture.adds = true) (member : request ∈ (gesture.handle device).issued) :
    request.Adding ∧ request.newBasketName = none := by
  cases Gesture.issues_of_mem member with
  | addToBasket signedIn => exact ⟨.query _ _, rfl⟩
  | _ => cases adds

/-- A running application creates the basket of its creator or updates a basket. -/
theorem Request.Adding.issued {request : Request} (adding : request.Adding) (uuid : String) (reply : Reply)
    {device : Device} (running : device.trapped = false) :
    (∃ uid itemId, request.creator reply device = some uid ∧
        (request.complete uuid reply device).issued =
          [.setBasket uuid (basketDictionaryFrom ⟨some uuid, some uid, some [itemId]⟩)]) ∨
      request.creator reply device = none ∧ ∀ issued ∈ (request.complete uuid reply device).issued,
        ∃ name itemId itemIds, issued = .updateBasket name (itemIdsValues itemIds) (.addToBasket itemId) := by
  cases adding with
  | create name data => exact .inr ⟨rfl, fun issued member => by cases member⟩
  | append name itemId itemIds => exact .inr ⟨rfl, fun issued member => by cases member⟩
  | query ownerId item =>
      cases shown : reply.basket with
      | some basket =>
          refine .inr ⟨by simp [creator, shown], fun issued member => ?_⟩
          cases follows_of_mem member with
          | createBasket absent signedIn hasId =>
              rw [shown] at absent
              cases absent
          | appendItem found hasName hasItems hasId => exact ⟨_, _, _, rfl⟩
      | none =>
          cases signedIn : device.auth with
          | none =>
              refine .inr ⟨by simp [creator, signedIn], fun issued member => ?_⟩
              cases follows_of_mem member with
              | createBasket absent other hasId =>
                  rw [signedIn] at other
                  cases other
              | appendItem found hasName hasItems hasId => exact ⟨_, _, _, rfl⟩
          | some uid =>
              cases hasId : item.id with
              | none =>
                  refine .inr ⟨by simp [creator, hasId], fun issued member => ?_⟩
                  cases follows_of_mem member with
                  | createBasket absent signedIn other =>
                      rw [hasId] at other
                      cases other
                  | appendItem found hasName hasItems hasId => exact ⟨_, _, _, rfl⟩
              | some itemId =>
                  refine .inl ⟨uid, itemId, by simp [creator, running, shown, signedIn, hasId], ?_⟩
                  simp [complete, Device.addToBasketCompletion, Device.createNewBasket, shown, hasId,
                    Device.withCurrentId_of_some signedIn, Device.saveBasketToFirestore, Device.issue]

/-- A flight without a new name creates nothing. -/
theorem Flight.creation_of_unnamed {flight : Flight} (ownerId : String)
    (unnamed : flight.request.newBasketName = none) : flight.creation ownerId = 0 := by
  obtain ⟨device, request, reply⟩ := flight
  cases request with
  | setBasket name data => cases unnamed
  | _ => rfl

namespace World.Adding

variable {world next : World}

/-- A handler that creates no basket keeps the requests and the number of baskets. -/
theorem perform_silent (requests : ∀ flight ∈ world.flights, flight.request.Adding) {number : Nat}
    {outcome : Outcome}
    (ofIssued : ∀ request ∈ outcome.issued, request.Adding ∧ request.newBasketName = none) :
    (∀ flight ∈ (world.perform number outcome).flights, flight.request.Adding) ∧
      ∀ ownerId, (world.perform number outcome).baskets ownerId = world.baskets ownerId := by
  have ofNew : ∀ flight ∈ outcome.issued.map fun request => (⟨number, request, none⟩ : Flight),
      flight.request.Adding ∧ flight.request.newBasketName = none := by
    intro flight member
    obtain ⟨request, issued, rfl⟩ := List.mem_map.mp member
    exact ofIssued request issued
  refine ⟨Pool.forall_append requests fun flight member => (ofNew flight member).1, fun ownerId => ?_⟩
  apply congrArg ((world.store.basketsOf ownerId).length + ·)
  apply Pool.sum_append_silent
  intro flight member
  exact Flight.creation_of_unnamed ownerId (ofNew flight member).2

/-- A new basket waits for its owner. -/
theorem perform_create (requests : ∀ flight ∈ world.flights, flight.request.Adding) {number : Nat}
    {outcome : Outcome} {uuid uid itemId : String}
    (created : outcome.issued = [.setBasket uuid (basketDictionaryFrom ⟨some uuid, some uid, some [itemId]⟩)]) :
    (∀ flight ∈ (world.perform number outcome).flights, flight.request.Adding) ∧
      ∀ ownerId, (world.perform number outcome).baskets ownerId =
        world.baskets ownerId + if uid = ownerId then 1 else 0 := by
  refine ⟨?_, fun ownerId => ?_⟩
  · apply forall_perform requests
    intro request issued
    rw [created] at issued
    obtain rfl := List.mem_singleton.mp issued
    exact .create _ _
  · have owned : Owned ownerId (basketDictionaryFrom ⟨some uuid, some uid, some [itemId]⟩) ↔ uid = ownerId := by
      unfold Owned
      exact ⟨fun same => Value.string.inj (Option.some.inj same), fun same => same ▸ rfl⟩
    simp [baskets, perform, created, Flight.creation, owned, Nat.add_assoc]

/-- The answer moves a waiting creation to the server and keeps the number of baskets. -/
theorem serve (adding : world.Adding) {index device : Nat} {request : Request} {answer : Answer}
    (found : world.flights[index]? = some ⟨device, request, none⟩) (succeeds : answer.succeeds = true)
    (served : world.serve index device request answer = some next) :
    (∀ flight ∈ next.flights, flight.request.Adding) ∧
      ∀ ownerId, next.baskets ownerId = world.baskets ownerId := by
  have ofRequest : request.Adding := adding.requests _ (List.mem_of_getElem? found)
  have document : request.isAuth = false := by cases ofRequest <;> rfl
  obtain rfl := serve_applies document succeeds served
  refine ⟨Pool.forall_set adding.requests ofRequest, fun ownerId => ?_⟩
  have settled : Flight.creation ownerId ⟨device, request, some (world.store.answer request).2⟩ = 0 := by
    cases ofRequest <;> rfl
  have before := Pool.sum_eraseIdx (Flight.creation ownerId) found
  have after := Pool.sum_set (Flight.creation ownerId) found ⟨device, request, some (world.store.answer request).2⟩
  rw [settled, Nat.zero_add] at after
  have moved : ((world.store.answer request).1.basketsOf ownerId).length =
      (world.store.basketsOf ownerId).length + Flight.creation ownerId ⟨device, request, none⟩ := by
    cases ofRequest with
    | query ownerId item => rfl
    | create name data =>
        refine (Store.basketsOf_setData_absent (adding.names.free found)).length_eq.trans ?_
        simp only [Flight.creation]
        split <;> rfl
    | append name itemId itemIds =>
        rw [Store.basketsOf_updateBasket, List.length_map]
        rfl
  change ((world.store.answer request).1.basketsOf ownerId).length + ((world.flights.set index _).map _).sum =
    (world.store.basketsOf ownerId).length + (world.flights.map _).sum
  rw [after, before, moved]
  omega

/-- A callback adds a basket exactly for the account of its creator. -/
theorem callback (adding : world.Adding) {index device : Nat} {request : Request} {reply : Reply} {uuid : String}
    (found : world.flights[index]? = some ⟨device, request, some reply⟩) :
    (∀ flight ∈ (world.callback index device request reply uuid).flights, flight.request.Adding) ∧
      ∀ ownerId, (world.callback index device request reply uuid).baskets ownerId =
        world.baskets ownerId + if world.creator (.callback index uuid) = some ownerId then 1 else 0 := by
  have ofRequest : request.Adding := adding.requests _ (List.mem_of_getElem? found)
  have creator : world.creator (.callback index uuid) = request.creator reply (world.devices device) := by
    simp [World.creator, found]
  let erased : World := { world with flights := world.flights.eraseIdx index }
  have requests : ∀ flight ∈ erased.flights, flight.request.Adding := Pool.forall_eraseIdx adding.requests
  have same (ownerId : String) : erased.baskets ownerId = world.baskets ownerId := by
    have weights := Pool.sum_eraseIdx (Flight.creation ownerId) found
    have settled : Flight.creation ownerId ⟨device, request, some reply⟩ = 0 := by
      cases ofRequest <;> rfl
    rw [settled, Nat.zero_add] at weights
    exact congrArg ((world.store.basketsOf ownerId).length + ·) weights.symm
  simp only [creator, ← same]
  unfold World.callback
  cases stopped : (world.devices device).trapped with
  | true =>
      have idle : request.creator reply (world.devices device) = none := by
        cases ofRequest <;> simp [Request.creator, stopped]
      rw [if_pos rfl, idle]
      exact perform_silent requests fun request member => by cases member
  | false =>
      rw [if_neg Bool.false_ne_true]
      rcases ofRequest.issued uuid reply stopped with ⟨uid, itemId, isCreator, issued⟩ | ⟨idle, updates⟩
      · rw [isCreator]
        simpa only [Option.some.injEq] using perform_create requests issued
      · rw [idle]
        apply perform_silent requests
        intro issued member
        obtain ⟨name, itemId, itemIds, rfl⟩ := updates issued member
        exact ⟨.append name itemId itemIds, rfl⟩

/-- A step adds a basket exactly for the account of its creator. -/
theorem step (adding : world.Adding) {event : Event} (adds : event.Listed Gesture.adds)
    (succeeds : event.Succeeds) (taken : world.step event = some next) :
    Adding next ∧ ∀ ownerId, next.baskets ownerId =
      world.baskets ownerId + if world.creator event = some ownerId then 1 else 0 := by
  have names := adding.names.step taken
  cases event with
  | gesture device made =>
      obtain ⟨_, rfl⟩ := step_gesture.mp taken
      obtain ⟨requests, counts⟩ := perform_silent adding.requests
        (fun request member => Gesture.issued_query adds member)
      exact ⟨⟨requests, names⟩, counts⟩
  | serve index answer =>
      obtain ⟨device, request, found, served⟩ := step_serve.mp taken
      obtain ⟨requests, counts⟩ := adding.serve found succeeds served
      exact ⟨⟨requests, names⟩, counts⟩
  | callback index uuid =>
      obtain ⟨device, request, reply, found, _, rfl⟩ := step_callback.mp taken
      obtain ⟨requests, counts⟩ := adding.callback found
      exact ⟨⟨requests, names⟩, counts⟩

end World.Adding

namespace World

/-- Every account has at most one basket, on the server or waiting to be created. -/
def OneEach (world : World) : Prop := ∀ ownerId, world.baskets ownerId ≤ 1

variable {world next : World}

/-- A step keeps the bound exactly when it meets the condition. -/
theorem OneEach.step (one : world.OneEach) {event : Event} (adding : world.Adding)
    (adds : event.Listed Gesture.adds) (succeeds : event.Succeeds) (taken : world.step event = some next) :
    next.OneEach ↔ world.CreatesOnce event := by
  have counts := (adding.step adds succeeds taken).2
  constructor
  · intro kept uid isCreator
    have bound := kept uid
    rw [counts uid, if_pos (Option.mem_def.mp isCreator)] at bound
    omega
  · intro condition ownerId
    rw [counts ownerId]
    split
    · rename_i isCreator
      have empty : world.baskets ownerId = 0 := condition ownerId isCreator
      omega
    · exact one ownerId

/-- The bound after a step holds before it. -/
theorem OneEach.back (after : next.OneEach) {event : Event} (adding : world.Adding)
    (adds : event.Listed Gesture.adds) (succeeds : event.Succeeds) (taken : world.step event = some next) :
    world.OneEach := by
  intro ownerId
  have count := (adding.step adds succeeds taken).2 ownerId
  have bound := after ownerId
  omega

theorem OneEach.unique (one : world.OneEach) : world.OneBasketEach :=
  fun ownerId => (Nat.le_add_right _ _).trans (one ownerId)

/-- Nothing waits in a quiet world. -/
theorem Quiet.oneEach (quiet : world.Quiet) (unique : world.OneBasketEach) : world.OneEach := by
  intro ownerId
  have empty : world.flights = [] := quiet
  simpa [baskets, empty] using unique ownerId

end World

/-- Every account owns at most one basket in every state, and the query shows it, if each basket is created
for an account that has none, on the server or waiting. A run whose requests are all answered needs the
condition. -/
theorem one_basket_each {world final : World} {events : List Event} (quiet : world.Quiet)
    (unique : world.OneBasketEach)
    (adds : ∀ event ∈ events, event.Listed Gesture.adds ∧ event.Succeeds) (ran : world.run events = some final) :
    (world.Along World.CreatesOnce events → ∀ before after reached, events = before ++ after →
        world.run before = some reached → reached.OneBasketEach ∧
          ∀ ownerId name data completion, (name, data) ∈ reached.store.basketsOf ownerId →
            (reached.store.answer (.getBaskets ownerId completion)).2.basket =
              some (Basket.ofDictionary data)) ∧
      (final.Quiet → final.OneBasketEach → world.Along World.CreatesOnce events) := by
  have empty : world.flights = [] := quiet
  have adding : world.Adding := ⟨by simp [empty], quiet.namesFree⟩
  have listed : world.Along (fun _ event => event.Listed Gesture.adds ∧ event.Succeeds) events :=
    .of_forall adds
  constructor
  · intro condition before after reached whole ranBefore
    have all := (Transition.reached_iff_along World.Adding (fun state event next adding one ⟨adds, succeeds⟩ taken =>
      ⟨(adding.step adds succeeds taken).1, World.OneEach.step one adding adds succeeds taken⟩)
      adding (quiet.oneEach unique) listed ran).mpr condition
    have reachedUnique := (all before after reached whole ranBefore).unique
    exact ⟨reachedUnique, fun ownerId name data completion => reachedUnique.shows completion⟩
  · intro finalQuiet finalUnique
    refine (Transition.along_of_final World.Adding ?_ adding listed ran (finalQuiet.oneEach finalUnique)).2
    intro state event next adding ⟨adds, succeeds⟩ taken
    refine ⟨(adding.step adds succeeds taken).1, fun after => ?_⟩
    have before := after.back adding adds succeeds taken
    exact ⟨before, (before.step adding adds succeeds taken).mp after⟩

/-- The account of this session has no basket yet. -/
def newBuyer : World := .signedInAs "u" onboardedUser

theorem newBuyer_unique : newBuyer.OneBasketEach := fun _ => Nat.zero_le 1

/-- The second item is added after the first one. -/
def successiveAdds : List Event :=
  [.gesture 0 (.addToBasket (soldItem "a")), .serve 0 .success, .callback 0 "n", .serve 0 .success,
    .callback 0 "m", .gesture 0 (.addToBasket (soldItem "b")), .serve 0 .success, .callback 0 "m",
    .serve 0 .success, .callback 0 "m"]

/-- The second of two successive gestures finds the basket of the first one. -/
theorem one_basket_each_successive :
    ∃ final, newBuyer.run successiveAdds = some final ∧ final.OneBasketEach := by
  have met : newBuyer.Along World.CreatesOnce successiveAdds := by decide
  have adds : ∀ event ∈ successiveAdds, event.Listed Gesture.adds ∧ event.Succeeds := by decide
  have quiet : newBuyer.Quiet := rfl
  have ran : newBuyer.run successiveAdds = some _ := rfl
  have unique := (one_basket_each quiet newBuyer_unique adds ran).1 met successiveAdds [] _
    (List.append_nil _).symm ran
  exact ⟨_, ran, unique.1⟩

/-- Both gestures query before either of them creates its basket. -/
def overlappingAdds : List Event :=
  [.gesture 0 (.addToBasket (soldItem "a")), .gesture 0 (.addToBasket (soldItem "b")), .serve 0 .success,
    .serve 1 .success, .callback 0 "n", .callback 0 "m", .serve 0 .success, .serve 1 .success]

/-- Two overlapping first gestures create two baskets, and the query hides the item of one of them. -/
theorem two_baskets :
    newBuyer.OneBasketEach ∧ (∀ event ∈ overlappingAdds, event.Listed Gesture.adds ∧ event.Succeeds) ∧
      ∃ final, newBuyer.run overlappingAdds = some final ∧ ¬ final.OneBasketEach ∧
        (final.store.answer (.getBaskets "u" .loadBasket)).2.basket =
          some ⟨some "m", some "u", some ["b"]⟩ ∧
        final.store.itemIds "n" = ["a"] := by
  refine ⟨newBuyer_unique, by decide, _, rfl, ?_, rfl, rfl⟩
  intro unique
  exact absurd (unique "u") (by decide)

end ShoppingApp
