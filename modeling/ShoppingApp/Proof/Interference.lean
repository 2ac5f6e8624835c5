import ShoppingApp.Library.Pool
import ShoppingApp.Library.Projection
import ShoppingApp.Proof.Isolation

namespace ShoppingApp

/-- The copy carries the name of a basket document of the owner. -/
def Basket.Addresses (store : Store) (ownerId : String) (copy : Basket) : Prop :=
  ∃ name, copy.id = some name ∧ store.HasBasket ownerId name

/-- The request stays with the documents of the account that is signed in on its device. -/
def Flight.Within (store : Store) (auth : Option String) (flight : Flight) : Prop :=
  match flight.request with
  | .getBaskets ownerId _ => auth = some ownerId ∧
      ∀ reply ∈ flight.reply, ∀ copy ∈ reply.basket, copy.Addresses store ownerId
  | .setBasket name data => ∃ uid itemId, auth = some uid ∧
      data = basketDictionaryFrom ⟨some name, some uid, some [itemId]⟩
  | .updateBasket name values _ => ∃ uid itemIds, auth = some uid ∧ values = itemIdsValues itemIds ∧
      store.HasBasket uid name
  | .updateUser name _ _ => auth = some name
  | .getItem _ _ => True
  | .getUser _ _ | .setUser _ _ | .signIn _ | .createUser _ => False

/-- Every basket document carries its own name. -/
def Store.SelfNamed (store : Store) : Prop :=
  ∀ name data, store.data .basket name = some data → data.read Value.asString .objectId = some name

namespace World

/-- Every screen and every request stays with the documents of the account of its device. -/
structure Confined (world : World) : Prop where
  named : world.store.SelfNamed
  copies : ∀ number copy, (world.devices number).screen.basket = some copy →
    ∃ uid, (world.devices number).auth = some uid ∧ copy.Addresses world.store uid
  flights : ∀ flight ∈ world.flights, flight.Within world.store (world.devices flight.device).auth
  names : world.NamesFree

end World

variable {store after : Store} {auth : Option String} {uid : String}

theorem Basket.Addresses.mono {copy : Basket} (addresses : copy.Addresses store uid)
    (kept : ∀ name, store.HasBasket uid name → after.HasBasket uid name) : copy.Addresses after uid := by
  obtain ⟨name, hasName, stored⟩ := addresses
  exact ⟨name, hasName, kept name stored⟩

/-- A flight stays with its documents while the baskets stay with their owners. -/
theorem Flight.Within.mono {flight : Flight} (within : flight.Within store auth)
    (kept : ∀ uid name, store.HasBasket uid name → after.HasBasket uid name) : flight.Within after auth := by
  obtain ⟨device, request, reply⟩ := flight
  cases request with
  | getBaskets ownerId completion =>
      exact ⟨within.1, fun replied same copy shown => (within.2 replied same copy shown).mono (kept ownerId)⟩
  | updateBasket name values completion =>
      obtain ⟨uid, itemIds, signedIn, written, has⟩ := within
      exact ⟨uid, itemIds, signedIn, written, kept uid name has⟩
  | _ => exact within

/-- The server keeps every basket with its owner. -/
theorem Flight.Within.hasBasket {device : Nat} {request : Request}
    (within : Flight.Within store auth ⟨device, request, none⟩)
    (free : ∀ name data, request = .setBasket name data → store.data .basket name = none) (ownerId name : String)
    (has : store.HasBasket ownerId name) : (store.answer request).1.HasBasket ownerId name := by
  refine has.answer free ?_
  rintro updated values completion rfl
  obtain ⟨_, itemIds, _, written, _⟩ := within
  exact ⟨itemIds, written⟩

/-- The server keeps the names inside the basket documents. -/
theorem Flight.Within.selfNamed {device : Nat} {request : Request}
    (within : Flight.Within store auth ⟨device, request, none⟩) (named : store.SelfNamed) :
    (store.answer request).1.SelfNamed := by
  intro name data stored
  rcases Store.answer_basket_cases stored with kept | rfl | ⟨values, completion, old, rfl, present, rfl⟩
  · exact named name data kept
  · obtain ⟨uid, itemId, _, rfl⟩ := within
    rfl
  · obtain ⟨_, itemIds, _, rfl, _⟩ := within
    exact named name old present

/-- A reply without documents stays with the account. -/
theorem Flight.Within.reply {device : Nat} {request : Request} {reply : Reply}
    (within : Flight.Within store auth ⟨device, request, none⟩) (hidden : reply.basket = none) :
    Flight.Within store auth ⟨device, request, some reply⟩ := by
  cases request with
  | getBaskets ownerId completion =>
      refine ⟨within.1, fun replied same copy shown => ?_⟩
      obtain rfl := Option.some.inj same
      rw [hidden] at shown
      cases shown
  | _ => exact within

/-- The answer to a query addresses a basket of the account. -/
theorem Flight.Within.answered {device : Nat} {request : Request}
    (within : Flight.Within store auth ⟨device, request, none⟩) (named : store.SelfNamed) :
    Flight.Within store auth ⟨device, request, some (store.answer request).2⟩ := by
  cases request with
  | getBaskets ownerId completion =>
      refine ⟨within.1, fun replied same copy shown => ?_⟩
      obtain rfl := Option.some.inj same
      rw [Store.basket_of_answer] at shown
      obtain ⟨⟨name, data⟩, first, rfl⟩ := Option.map_eq_some_iff.mp shown
      obtain ⟨stored, owned⟩ := Store.mem_basketsOf.mp (List.mem_of_head? first)
      exact ⟨name, named name data stored, data, stored, owned⟩
  | _ => exact within

namespace World.Confined

variable {world next : World}

/-- The requests of a gesture stay with the account of the device. -/
theorem issued (confined : world.Confined) {number : Nat} {made : Gesture} (stays : made.stays = true)
    {request : Request} (member : request ∈ (made.handle (world.devices number)).issued) :
    Flight.Within world.store (world.devices number).auth ⟨number, request, none⟩ := by
  cases Gesture.issues_of_mem member with
  | addToBasket signedIn => exact ⟨signedIn, nofun⟩
  | loadBasket signedIn => exact ⟨signedIn, nofun⟩
  | readItem => trivial
  | deleteRow present hasId hasBasket hasItems hasName inside =>
      obtain ⟨uid, signedIn, name, sameName, stored⟩ := confined.copies number _ hasBasket
      obtain rfl := Option.some.inj (hasName.symm.trans sameName)
      exact ⟨uid, _, signedIn, rfl, stored⟩
  | recordPurchase signedIn cached decoded => exact signedIn
  | emptyTheBasket hasBasket hasName =>
      obtain ⟨uid, signedIn, name, sameName, stored⟩ := confined.copies number _ hasBasket
      obtain rfl := Option.some.inj (hasName.symm.trans sameName)
      exact ⟨uid, [], signedIn, rfl, stored⟩
  | login => cases stays
  | register => cases stays
  | saveProfile signedIn cached => exact signedIn
  | finishOnboarding signedIn cached => exact signedIn
  | updateUser signedIn cached => exact signedIn

/-- The requests of a completion stay with the account of the device. -/
theorem follows {number : Nat} {request issued : Request} {reply : Reply} {uuid : String}
    (within : Flight.Within world.store (world.devices number).auth ⟨number, request, some reply⟩)
    (member : issued ∈ (request.complete uuid reply (world.devices number)).issued) :
    Flight.Within world.store (world.devices number).auth ⟨number, issued, none⟩ := by
  cases Request.follows_of_mem member with
  | createBasket absent signedIn hasId => exact ⟨_, _, signedIn, rfl⟩
  | appendItem shown hasName hasItems hasId =>
      obtain ⟨signedIn, addresses⟩ := within
      obtain ⟨name, sameName, stored⟩ := addresses reply rfl _ shown
      obtain rfl := Option.some.inj (hasName.symm.trans sameName)
      exact ⟨_, _, signedIn, rfl, stored⟩
  | readLoaded => trivial
  | readEmptied => trivial
  | saveUser missing => cases within
  | downloadUser => cases within

/-- A handler that keeps the account and stays with its documents keeps the world confined. -/
theorem perform (confined : world.Confined) {number : Nat} {outcome : Outcome}
    (auth : outcome.device.auth = (world.devices number).auth)
    (copies : ∀ copy, outcome.device.screen.basket = some copy →
      ∃ uid, (world.devices number).auth = some uid ∧ copy.Addresses world.store uid)
    (within : ∀ request ∈ outcome.issued, Flight.Within world.store (world.devices number).auth ⟨number, request, none⟩)
    (names : (world.perform number outcome).NamesFree) : (world.perform number outcome).Confined := by
  have session (other : Nat) : ((world.perform number outcome).devices other).auth = (world.devices other).auth := by
    by_cases same : other = number
    · subst same
      rw [perform_devices]
      exact auth
    · rw [world.perform_other outcome same]
  refine ⟨confined.named, fun other copy has => ?_, ?_, names⟩
  · rw [session]
    by_cases same : other = number
    · subst same
      rw [perform_devices] at has
      exact copies copy has
    · rw [world.perform_other outcome same] at has
      exact confined.copies other copy has
  · have kept : ∀ flight ∈ world.flights,
        flight.Within world.store ((world.perform number outcome).devices flight.device).auth := by
      intro flight member
      rw [session]
      exact confined.flights flight member
    refine forall_perform kept fun request issued => ?_
    rw [show (Flight.mk number request none).device = number from rfl, session]
    exact within request issued

/-- The sessions of all devices stay, and so does the confinement. -/
theorem step (confined : world.Confined) {event : Event} (stays : event.Listed Gesture.stays)
    (taken : world.step event = some next) :
    next.Confined ∧ ∀ number, (next.devices number).auth = (world.devices number).auth := by
  have names := confined.names.step taken
  cases event with
  | gesture device made =>
      obtain ⟨_, rfl⟩ := step_gesture.mp taken
      have remains : ∀ signedOut, made ≠ .logOut signedOut := by
        rintro signedOut rfl
        cases stays
      have auth := (made.handle_narrows (world.devices device) remains).auth
      refine ⟨confined.perform auth ?_ (fun request => confined.issued stays) names, fun number => ?_⟩
      · intro copy has
        obtain ⟨earlier, had, shrinks⟩ := made.handle_copy has
        obtain ⟨uid, signedIn, name, hasName, stored⟩ := confined.copies device earlier had
        exact ⟨uid, signedIn, name, shrinks.id.trans hasName, stored⟩
      · by_cases same : number = device
        · subst same
          rw [perform_devices]
          exact auth
        · rw [world.perform_other _ same]
  | serve index answer =>
      obtain ⟨device, request, found, served⟩ := step_serve.mp taken
      have within := confined.flights _ (List.mem_of_getElem? found)
      rcases serve_cases served with ⟨_, rfl⟩ | ⟨_, _, rfl⟩ | ⟨uid, isEmailVerified, _, auth, _⟩
      · exact ⟨⟨confined.named, confined.copies, Pool.forall_set confined.flights (within.reply rfl), names⟩,
          fun _ => rfl⟩
      · have kept := within.hasBasket fun name data same => confined.names.free (same ▸ found)
        refine ⟨⟨within.selfNamed confined.named, fun number copy has => ?_, ?_, names⟩, fun _ => rfl⟩
        · obtain ⟨uid, signedIn, addresses⟩ := confined.copies number copy has
          exact ⟨uid, signedIn, addresses.mono (kept uid)⟩
        · refine Pool.forall_set (fun flight member => (confined.flights flight member).mono kept) ?_
          exact (within.answered confined.named).mono kept
      · cases request with
        | signIn email => cases within
        | createUser email => cases within
        | _ => cases auth
  | callback index uuid =>
      obtain ⟨device, request, reply, found, _, rfl⟩ := step_callback.mp taken
      have within := confined.flights _ (List.mem_of_getElem? found)
      have erased : ({ world with flights := world.flights.eraseIdx index } : World).Confined :=
        ⟨confined.named, confined.copies, Pool.forall_eraseIdx confined.flights, confined.names.erase found⟩
      cases stopped : (world.devices device).trapped with
      | true =>
          rw [callback_of_stopped stopped]
          exact ⟨erased, fun _ => rfl⟩
      | false =>
          rw [callback_of_running stopped] at names ⊢
          have auth := (request.complete_checkout uuid reply (world.devices device)).1
          refine ⟨erased.perform auth ?_ (fun issued => follows within) names, fun number => ?_⟩
          · intro copy has
            rcases Request.complete_basket has with kept | ⟨owner, rfl, shown⟩
            · exact confined.copies device copy kept
            · exact ⟨owner, within.1, within.2 reply rfl copy shown⟩
          · by_cases same : number = device
            · subst same
              rw [perform_devices]
              exact auth
            · rw [World.perform_other _ _ same]

end World.Confined

/-- The second store agrees with the first one on the documents of the account and on the items. -/
structure Store.Mirrors (uid : String) (whole alone : Store) : Prop where
  baskets : ∀ name data, Owned uid data →
    (alone.data .basket name = some data ↔ whole.data .basket name = some data)
  names : ∀ name, whole.data .basket name = none → alone.data .basket name = none
  user : alone.data .user uid = whole.data .user uid
  items : alone.data .items = whole.data .items

namespace Store.Mirrors

variable {whole alone : Store}

theorem basketsOf (mirrors : Mirrors uid whole alone) : alone.basketsOf uid = whole.basketsOf uid :=
  Documents.filter_ext mirrors.baskets

/-- A basket of the account is the same document in both stores. -/
theorem basket (mirrors : Mirrors uid whole alone) {name : String} (has : whole.HasBasket uid name) :
    alone.data .basket name = whole.data .basket name := by
  obtain ⟨data, stored, owned⟩ := has
  rw [stored]
  exact (mirrors.baskets name data owned).mpr stored

/-- A request of the account gets the same reply, and it keeps the stores in agreement. -/
theorem answer (mirrors : Mirrors uid whole alone) {device : Nat} {request : Request}
    (within : Flight.Within whole (some uid) ⟨device, request, none⟩) :
    (alone.answer request).2 = (whole.answer request).2 ∧
      Mirrors uid (whole.answer request).1 (alone.answer request).1 := by
  have items : (alone.answer request).1.data .items = (whole.answer request).1.data .items := by
    funext itemId
    rw [answer_items, answer_items, mirrors.items]
  have names (name : String) (absent : (whole.answer request).1.data .basket name = none) :
      (alone.answer request).1.data .basket name = none := by
    rw [answer_basket_eq_none] at absent ⊢
    exact ⟨mirrors.names name absent.1, absent.2⟩
  cases request with
  | getBaskets ownerId completion =>
      obtain rfl := Option.some.inj within.1
      refine ⟨?_, mirrors⟩
      simp only [Store.answer, mirrors.basketsOf]
  | getItem name download =>
      refine ⟨?_, mirrors⟩
      simp only [Store.answer, mirrors.items]
  | setBasket name data =>
      refine ⟨rfl, ⟨fun other found owned => ?_, names, ?_, items⟩⟩
      · rw [answer_basket, answer_basket]
        simp only [Request.onBasket]
        split
        · exact Iff.rfl
        · exact mirrors.baskets other found owned
      · rw [answer_user, answer_user]
        exact mirrors.user
  | updateBasket name values completion =>
      obtain ⟨_, itemIds, same, rfl, has⟩ := within
      obtain rfl := Option.some.inj same
      have agreed := mirrors.basket has
      refine ⟨?_, ⟨fun other found owned => ?_, names, ?_, items⟩⟩
      · obtain ⟨data, stored, _⟩ := has
        simp [Store.answer, updateData, agreed, stored]
      · rw [answer_basket, answer_basket]
        simp only [Request.onBasket]
        split
        · rename_i atName
          rw [← atName, agreed]
        · exact mirrors.baskets other found owned
      · rw [answer_user, answer_user]
        exact mirrors.user
  | updateUser name values userObject =>
      obtain rfl := Option.some.inj within
      refine ⟨?_, ⟨fun other found owned => ?_, names, ?_, items⟩⟩
      · cases present : whole.data .user uid <;> simp [Store.answer, updateData, mirrors.user, present]
      · rw [answer_basket, answer_basket]
        exact mirrors.baskets other found owned
      · rw [answer_user, answer_user]
        simp only [Request.onUser, mirrors.user]
  | getUser userId email => cases within
  | setUser name data => cases within
  | signIn email => cases within
  | createUser email => cases within

/-- A request of another account leaves the documents of the account. -/
theorem answer_elsewhere (mirrors : Mirrors uid whole alone) {device : Nat} {request : Request}
    (other : auth ≠ some uid) (within : Flight.Within whole auth ⟨device, request, none⟩)
    (free : ∀ name data, request = .setBasket name data → whole.data .basket name = none) :
    Mirrors uid (whole.answer request).1 alone := by
  refine ⟨fun name data owned => ?_, fun name absent => ?_, ?_, ?_⟩
  · rw [mirrors.baskets name data owned, answer_basket]
    cases request with
    | setBasket created written =>
        obtain ⟨ownerId, itemId, signedIn, rfl⟩ := within
        simp only [Request.onBasket]
        split
        · rename_i same
          subst same
          rw [free created _ rfl]
          refine iff_of_false (fun absent => ?_) fun made => ?_
          · cases absent
          · obtain rfl := Option.some.inj made
            exact other (signedIn.trans (congrArg some (Value.string.inj (Option.some.inj owned))))
        · exact Iff.rfl
    | updateBasket updated values completion =>
        obtain ⟨ownerId, itemIds, signedIn, rfl, old, stored, ownedOld⟩ := within
        simp only [Request.onBasket]
        split
        · rename_i same
          subst same
          have foreign (found : Dictionary) (owns : Owned uid found) (has : Owned ownerId found) : False := by
            have same := Value.string.inj (Option.some.inj (has.symm.trans owns))
            exact other (signedIn.trans (congrArg some same))
          rw [stored]
          refine iff_of_false (fun present => ?_) fun present => ?_
          · obtain rfl := Option.some.inj present
            exact foreign old owned ownedOld
          · obtain rfl := Option.some.inj present
            exact foreign old owned ownedOld
        · exact Iff.rfl
    | _ => exact Iff.rfl
  · exact mirrors.names name (answer_basket_eq_none.mp absent).1
  · rw [mirrors.user, answer_user]
    cases request with
    | updateUser name values userObject =>
        have different : name ≠ uid := fun same => other (same ▸ within)
        exact (if_neg different).symm
    | setUser name data => cases within
    | _ => rfl
  · rw [mirrors.items]
    funext itemId
    rw [answer_items]

end Store.Mirrors

/-- The request was issued on this device. -/
def Flight.on (number : Nat) (flight : Flight) : Bool := decide (flight.device = number)

namespace World

/-- A step of the device is taken again where its flights are the only ones, and the other steps are removed. -/
def ownStep (number : Nat) (world : World) : Event → List Event
  | .gesture device made => if device = number then [.gesture device made] else []
  | .serve index answer =>
      if (world.flights[index]?).any (Flight.on number) then
        [.serve (Pool.place (Flight.on number) world.flights index) answer]
      else []
  | .callback index uuid =>
      if (world.flights[index]?).any (Flight.on number) then
        [.callback (Pool.place (Flight.on number) world.flights index) uuid]
      else []

/-- These are the steps of the device in a run. -/
def ownSteps (number : Nat) (world : World) (events : List Event) : List Event :=
  Transition.log step (ownStep number) world events

/-- This is the part of the world that belongs to the account and to its device. -/
structure View where
  baskets : List (String × Dictionary)
  user : Option Dictionary
  device : Device

def view (number : Nat) (uid : String) (world : World) : View where
  baskets := world.store.basketsOf uid
  user := world.store.data .user uid
  device := world.devices number

/-- The second world has the device, its flights, and the documents of its account from the first world. -/
structure Mirrors (number : Nat) (uid : String) (whole alone : World) : Prop where
  store : Store.Mirrors uid whole.store alone.store
  device : alone.devices number = whole.devices number
  flights : alone.flights = whole.flights.filter (Flight.on number)

namespace Mirrors

variable {number : Nat} {whole alone : World}

theorem view (mirrors : Mirrors number uid whole alone) : alone.view number uid = whole.view number uid := by
  simp only [World.view, mirrors.store.basketsOf, mirrors.store.user, mirrors.device]

/-- The same handler runs on the device in both worlds. -/
theorem perform (mirrors : Mirrors number uid whole alone) (outcome : Outcome) :
    Mirrors number uid (whole.perform number outcome) (alone.perform number outcome) := by
  refine ⟨mirrors.store, ?_, ?_⟩
  · rw [perform_devices, perform_devices]
  · have own : (outcome.issued.map fun request => Flight.mk number request none).filter (Flight.on number) =
        outcome.issued.map fun request => Flight.mk number request none := by
      apply List.filter_eq_self.mpr
      intro flight member
      obtain ⟨request, _, rfl⟩ := List.mem_map.mp member
      exact decide_eq_true rfl
    change alone.flights ++ _ = (whole.flights ++ _).filter _
    rw [List.filter_append, own, mirrors.flights]

/-- A handler on another device is hidden. -/
theorem perform_elsewhere (mirrors : Mirrors number uid whole alone) {device : Nat} (other : device ≠ number)
    (outcome : Outcome) : Mirrors number uid (whole.perform device outcome) alone := by
  refine ⟨mirrors.store, ?_, ?_⟩
  · rw [whole.perform_other outcome other.symm]
    exact mirrors.device
  · have hidden : (outcome.issued.map fun request => Flight.mk device request none).filter (Flight.on number) = [] := by
      apply List.filter_eq_nil_iff.mpr
      intro flight member
      obtain ⟨request, _, rfl⟩ := List.mem_map.mp member
      exact Bool.eq_false_iff.mp (decide_eq_false other)
    change alone.flights = (whole.flights ++ _).filter _
    rw [List.filter_append, hidden, List.append_nil]
    exact mirrors.flights

/-- A fresh name is fresh for the device alone. -/
theorem fresh (mirrors : Mirrors number uid whole alone) {uuid : String} (fresh : whole.Fresh uuid) :
    alone.Fresh uuid := by
  refine ⟨mirrors.store.names uuid fresh.1, fun flight member => ?_⟩
  rw [mirrors.flights] at member
  exact fresh.2 flight (List.mem_of_mem_filter member)

/-- The flight of the device stands at its place. -/
theorem getElem? (mirrors : Mirrors number uid whole alone) {index : Nat} {flight : Flight}
    (found : whole.flights[index]? = some flight) (own : flight.on number = true) :
    alone.flights[Pool.place (Flight.on number) whole.flights index]? = some flight := by
  rw [mirrors.flights]
  exact Pool.filter_getElem? found own

/-- The server answers the device in both worlds. -/
theorem serve (mirrors : Mirrors number uid whole alone) {index : Nat} {request : Request} {answer : Answer}
    {next : World} (found : whole.flights[index]? = some ⟨number, request, none⟩)
    (within : Flight.Within whole.store (some uid) ⟨number, request, none⟩)
    (served : whole.serve index number request answer = some next) :
    ∃ reached, alone.serve (Pool.place (Flight.on number) whole.flights index) number request answer = some reached ∧
      Mirrors number uid next reached := by
  have own : (Flight.mk number request none).on number = true := decide_eq_true rfl
  have recorded (reply : Reply) :
      alone.flights.set (Pool.place (Flight.on number) whole.flights index) ⟨number, request, some reply⟩ =
        (whole.flights.set index ⟨number, request, some reply⟩).filter (Flight.on number) := by
    rw [mirrors.flights, Pool.filter_set found own (decide_eq_true rfl)]
  rcases serve_cases served with ⟨rfl, rfl⟩ | ⟨rfl, document, rfl⟩ | ⟨_, _, _, auth, _⟩
  · exact ⟨_, rfl, mirrors.store, mirrors.device, recorded .error⟩
  · obtain ⟨reply, stores⟩ := mirrors.store.answer within
    have same : alone.serve (Pool.place (Flight.on number) whole.flights index) number request .success =
        some (record { alone with store := (alone.store.answer request).1 }
          (Pool.place (Flight.on number) whole.flights index) number request (whole.store.answer request).2) := by
      simp [World.serve, document, reply]
    exact ⟨_, same, stores, mirrors.device, recorded _⟩
  · cases request with
    | signIn email => cases within
    | createUser email => cases within
    | _ => cases auth

/-- The answer to another device is hidden. -/
theorem serve_elsewhere (mirrors : Mirrors number uid whole alone) {index device : Nat} {request : Request}
    {answer : Answer} {next : World} (other : device ≠ number) (auth : (whole.devices device).auth ≠ some uid)
    (found : whole.flights[index]? = some ⟨device, request, none⟩)
    (within : Flight.Within whole.store (whole.devices device).auth ⟨device, request, none⟩) (names : whole.NamesFree)
    (served : whole.serve index device request answer = some next) : Mirrors number uid next alone := by
  have hidden (request : Request) (reply : Option Reply) : (Flight.mk device request reply).on number = false :=
    decide_eq_false other
  have recorded (reply : Reply) :
      alone.flights = (whole.flights.set index ⟨device, request, some reply⟩).filter (Flight.on number) := by
    rw [(Pool.filter_outside found (hidden request none)).1 _ (hidden request (some reply))]
    exact mirrors.flights
  rcases serve_cases served with ⟨rfl, rfl⟩ | ⟨rfl, document, rfl⟩ | ⟨_, _, _, isAuth, _⟩
  · exact ⟨mirrors.store, mirrors.device, recorded .error⟩
  · have stores := mirrors.store.answer_elsewhere auth within fun name data same => names.free (same ▸ found)
    exact ⟨stores, mirrors.device, recorded _⟩
  · cases request with
    | signIn email => cases within
    | createUser email => cases within
    | _ => cases isAuth

/-- A callback runs on the device in both worlds. -/
theorem callback (mirrors : Mirrors number uid whole alone) {index : Nat} {request : Request} {reply : Reply}
    (uuid : String) (found : whole.flights[index]? = some ⟨number, request, some reply⟩) :
    Mirrors number uid (whole.callback index number request reply uuid)
      (alone.callback (Pool.place (Flight.on number) whole.flights index) number request reply uuid) := by
  have erased : Mirrors number uid { whole with flights := whole.flights.eraseIdx index }
      { alone with flights := alone.flights.eraseIdx (Pool.place (Flight.on number) whole.flights index) } := by
    refine ⟨mirrors.store, mirrors.device, ?_⟩
    rw [Pool.filter_eraseIdx found (decide_eq_true rfl), mirrors.flights]
  unfold World.callback
  rw [mirrors.device]
  exact erased.perform _

/-- A callback on another device is hidden. -/
theorem callback_elsewhere (mirrors : Mirrors number uid whole alone) {index device : Nat} {request : Request}
    {reply : Reply} (uuid : String) (other : device ≠ number)
    (found : whole.flights[index]? = some ⟨device, request, some reply⟩) :
    Mirrors number uid (whole.callback index device request reply uuid) alone := by
  have hidden : (Flight.mk device request (some reply)).on number = false := decide_eq_false other
  have erased : Mirrors number uid { whole with flights := whole.flights.eraseIdx index } alone := by
    refine ⟨mirrors.store, mirrors.device, ?_⟩
    rw [(Pool.filter_outside found hidden).2]
    exact mirrors.flights
  exact erased.perform_elsewhere other _

/-- The device takes its own steps in both worlds, and the steps of the other devices are hidden. -/
theorem step (mirrors : Mirrors number uid whole alone) (confined : whole.Confined)
    (session : ∀ device, (whole.devices device).auth = some uid ↔ device = number) {event : Event} {next : World}
    (taken : whole.step event = some next) :
    ∃ reached, alone.run (whole.ownStep number event) = some reached ∧ Mirrors number uid next reached := by
  have single {event : Event} {reached : World} (taken : alone.step event = some reached) :
      alone.run [event] = some reached := Transition.run_cons.mpr ⟨reached, taken, rfl⟩
  cases event with
  | gesture device made =>
      obtain ⟨allowed, rfl⟩ := step_gesture.mp taken
      by_cases own : device = number
      · subst own
        have same := mirrors.perform (made.handle (whole.devices device))
        simp only [ownStep, if_true]
        refine ⟨_, single (step_gesture.mpr ⟨mirrors.device ▸ allowed, rfl⟩), ?_⟩
        rw [mirrors.device]
        exact same
      · rw [ownStep, if_neg own]
        exact ⟨alone, rfl, mirrors.perform_elsewhere own _⟩
  | serve index answer =>
      obtain ⟨device, request, found, served⟩ := step_serve.mp taken
      have within := confined.flights _ (List.mem_of_getElem? found)
      by_cases own : device = number
      · subst own
        have shown : (whole.flights[index]?).any (Flight.on device) = true := by simp [found, Flight.on]
        have signedIn := (session device).mpr rfl
        rw [show (Flight.mk device request none).device = device from rfl, signedIn] at within
        obtain ⟨reached, same, mirrored⟩ := mirrors.serve found within served
        rw [ownStep, if_pos shown]
        refine ⟨reached, single (step_serve.mpr ⟨device, request, ?_, same⟩), mirrored⟩
        exact mirrors.getElem? found (decide_eq_true rfl)
      · have shown : ¬ (whole.flights[index]?).any (Flight.on number) = true := by simp [found, Flight.on, own]
        rw [ownStep, if_neg shown]
        have foreign : (whole.devices device).auth ≠ some uid := fun same => own ((session device).mp same)
        exact ⟨alone, rfl, mirrors.serve_elsewhere own foreign found within confined.names served⟩
  | callback index uuid =>
      obtain ⟨device, request, reply, found, fresh, rfl⟩ := step_callback.mp taken
      by_cases own : device = number
      · subst own
        have shown : (whole.flights[index]?).any (Flight.on device) = true := by simp [found, Flight.on]
        rw [ownStep, if_pos shown]
        refine ⟨_, single (step_callback.mpr ⟨device, request, reply, ?_, mirrors.fresh fresh, rfl⟩), ?_⟩
        · exact mirrors.getElem? found (decide_eq_true rfl)
        · exact mirrors.callback uuid found
      · have shown : ¬ (whole.flights[index]?).any (Flight.on number) = true := by simp [found, Flight.on, own]
        rw [ownStep, if_neg shown]
        exact ⟨alone, rfl, mirrors.callback_elsewhere uuid own found⟩

end Mirrors

end World

/-- Screens that hold no copy, or copies of their own baskets, start confined when no request is in flight. -/
theorem World.Quiet.confined {world : World} (quiet : world.Quiet) (named : world.store.SelfNamed)
    (copies : ∀ number copy, (world.devices number).screen.basket = some copy →
      ∃ uid, (world.devices number).auth = some uid ∧ copy.Addresses world.store uid) : world.Confined := by
  refine ⟨named, copies, fun flight member => ?_, quiet.namesFree⟩
  rw [show world.flights = [] from quiet] at member
  cases member

/-- The documents of an account and its device pass through the states of the run of this device alone. -/
theorem accounts_do_not_interfere {number : Nat} {uid : String} {world final : World} {events : List Event}
    (quiet : world.Quiet) (named : world.store.SelfNamed)
    (session : ∀ device, (world.devices device).auth = some uid ↔ device = number)
    (copies : ∀ device copy, (world.devices device).screen.basket = some copy →
      ∃ owner, (world.devices device).auth = some owner ∧ copy.Addresses world.store owner)
    (stays : ∀ event ∈ events, event.Listed Gesture.stays) (ran : world.run events = some final) :
    (∃ ended, world.run (world.ownSteps number events) = some ended) ∧
      ∀ before after reached, events = before ++ after → world.run before = some reached →
        ∃ alone later, world.ownSteps number events = world.ownSteps number before ++ later ∧
          world.run (world.ownSteps number before) = some alone ∧
          reached.view number uid = alone.view number uid := by
  let related (whole alone : World) : Prop := World.Mirrors number uid whole alone ∧ whole.Confined ∧
    ∀ device, (whole.devices device).auth = some uid ↔ device = number
  have matched (whole : World) (event : Event) (next alone : World) (both : related whole alone)
      (listed : event.Listed Gesture.stays) (taken : whole.step event = some next) :
      ∃ reached, alone.run (whole.ownStep number event) = some reached ∧ related next reached := by
    obtain ⟨mirrors, confined, session⟩ := both
    obtain ⟨reached, same, mirrored⟩ := mirrors.step confined session taken
    obtain ⟨kept, auth⟩ := confined.step listed taken
    exact ⟨reached, same, mirrored, kept, fun device => auth device ▸ session device⟩
  have none : world.flights = world.flights.filter (Flight.on number) := by
    rw [show world.flights = [] from quiet]
    rfl
  have same : Store.Mirrors uid world.store world.store := ⟨fun _ _ _ => Iff.rfl, fun _ => id, rfl, rfl⟩
  have initial : related world world := ⟨⟨same, rfl, none⟩, quiet.confined named copies, session⟩
  have listed : world.Along (fun _ event => event.Listed Gesture.stays) events := .of_forall stays
  constructor
  · obtain ⟨ended, ran, _⟩ := Transition.run_projected related matched initial listed ran
    exact ⟨ended, ran⟩
  · rintro before after reached rfl ranBefore
    obtain ⟨alone, later, whole, ranAlone, mirrors, _⟩ :=
      Transition.projection_lockstep related matched initial listed ranBefore
    exact ⟨alone, later, whole, ranAlone, mirrors.view.symm⟩

/-- The first account uses one device, and the second account uses the others. -/
def twoDevices : World :=
  { twoAccounts with
    devices := fun number =>
      if number = 0 then twoAccounts.devices 0
      else { auth := some "v", defaults := twoAccounts.store.data .user "v" } }

/-- The second account creates its basket while the first one loads its own. -/
def interleavedLoads : List Event :=
  [.gesture 0 .viewDidAppear, .gesture 1 (.addToBasket (soldItem "a")), .serve 1 .success, .callback 1 "n",
    .serve 1 .success, .serve 0 .success, .callback 0 "m", .callback 0 "m", .serve 0 .success, .callback 0 "m"]

theorem twoDevices_session (device : Nat) : (twoDevices.devices device).auth = some "u" ↔ device = 0 := by
  by_cases first : device = 0
  · subst first
    exact iff_of_true rfl rfl
  · simp [twoDevices, first]

/-- The first account sees its own basket, as it does without the second account. -/
theorem accounts_do_not_interfere_loads :
    twoDevices.ownSteps 0 interleavedLoads =
        [.gesture 0 .viewDidAppear, .serve 0 .success, .callback 0 "m", .serve 0 .success, .callback 0 "m"] ∧
      ∃ final, twoDevices.run interleavedLoads = some final ∧
        (final.devices 0).screen.allItems.length = 1 ∧
        (∃ ended, twoDevices.run (twoDevices.ownSteps 0 interleavedLoads) = some ended) ∧
          ∀ before after reached, interleavedLoads = before ++ after → twoDevices.run before = some reached →
            ∃ alone later, twoDevices.ownSteps 0 interleavedLoads = twoDevices.ownSteps 0 before ++ later ∧
              twoDevices.run (twoDevices.ownSteps 0 before) = some alone ∧
              reached.view 0 "u" = alone.view 0 "u" := by
  have quiet : twoDevices.Quiet := rfl
  have named : twoDevices.store.SelfNamed := fun name data stored => (twoAccounts_baskets name data stored).objectId
  have copies : ∀ device copy, (twoDevices.devices device).screen.basket = some copy →
      ∃ owner, (twoDevices.devices device).auth = some owner ∧ copy.Addresses twoDevices.store owner := by
    intro device copy has
    by_cases first : device = 0
    · subst first
      cases has
    · simp [twoDevices, first] at has
  have stays : ∀ event ∈ interleavedLoads, event.Listed Gesture.stays := by decide
  exact ⟨rfl, _, rfl, rfl, accounts_do_not_interfere quiet named twoDevices_session copies stays rfl⟩

end ShoppingApp
