import ShoppingApp.Library.Transition
import ShoppingApp.Model.Device

namespace ShoppingApp

/-- The server answers `getDocuments` and the completion sees the first document or nil. -/
def Reply.basket : Reply → Option Basket
  | .documents (data :: _) => some (Basket.ofDictionary data)
  | _ => none

/-- The answer to the query shows the first basket of the account. -/
theorem Store.basket_of_answer (store : Store) (uid : String) (completion : BasketQuery) :
    (store.answer (.getBaskets uid completion)).2.basket =
      (store.basketsOf uid).head?.map fun entry => Basket.ofDictionary entry.2 := by
  simp only [Store.answer]
  cases store.basketsOf uid <;> rfl

/-- The callback of `getDocument` sees a failure, a missing document, or its data. -/
def Reply.read : Reply → DocumentRead
  | .document none => .missing
  | .document (some data) => .found data
  | _ => .failed

/-- The completion of each request runs with the variables that the request captured. -/
def Request.complete (uuid : String) : Request → Reply → Device → Outcome
  | .getBaskets _ (.addToBasket item), reply => Device.addToBasketCompletion item uuid reply.basket
  | .getBaskets _ .loadBasket, reply => Device.loadBasketCompletion reply.basket
  | .updateBasket _ _ .emptyTheBasket, _ => Device.getBasketItems
  | .getItem _ download, reply => Device.itemCompletion download reply.read
  | .getUser userId email, reply => Device.downloadUserCompletion userId email reply.read
  | .updateUser _ _ userObject, .done => fun device => (device.saveUserLocally userObject).done
  | .signIn email, .account uid isEmailVerified =>
      Device.loginUserCompletion email uid isEmailVerified
  | _, _ => Device.done

/-- These are the gestures that the screens offer. -/
inductive Gesture where
  | addToBasket (item : Item)
  | viewDidAppear
  | deleteRow (row : Nat)
  | checkOut (processable : Bool)
  | cancelPayment
  | completePayment
  | login (email : String)
  | register (email : String)
  | logOut (signedOut : Bool)
  | saveProfile (name surname address : String)
  | finishOnboarding (name surname address : String)
  | updateUser (withValues : Dictionary)

/-- A presented payment covers every other screen. -/
def Gesture.allowed (device : Device) : Gesture → Bool
  | .cancelPayment | .completePayment => !device.trapped && device.screen.payment.isSome
  | .deleteRow row =>
      !device.trapped && device.screen.payment.isNone && decide (row < device.screen.allItems.length)
  | .checkOut _ => !device.trapped && device.screen.payment.isNone && device.screen.checkOutButton
  | _ => !device.trapped && device.screen.payment.isNone

def Gesture.handle : Gesture → Device → Outcome
  | .addToBasket item => Device.addToBasketTapped item
  | .viewDidAppear => Device.viewDidAppear
  | .deleteRow row => Device.deleteRow row
  | .checkOut processable => Device.checkOutButtonWasTapped processable
  | .cancelPayment => Device.payPalPaymentDidCancel
  | .completePayment => Device.payPalPaymentDidComplete
  | .login email => fun device => device.issue (.signIn email)
  | .register email => fun device => device.issue (.createUser email)
  | .logOut signedOut => Device.logOutCurrentUser signedOut
  | .saveProfile name surname address => Device.saveBarButtonPressed name surname address
  | .finishOnboarding name surname address => Device.finishiOnboarding name surname address
  | .updateUser withValues => Device.updateCurrentUserInFirestore withValues

/-- A request in flight waits for the server and then for its callback. -/
structure Flight where
  device : Nat
  request : Request
  reply : Option Reply

/-- The world is the server, the devices, and the requests in flight in the order of their issue. -/
structure World where
  store : Store
  devices : Nat → Device
  flights : List Flight

/-- The server fails a request, applies it, or signs an account in. -/
inductive Answer where
  | failure
  | success
  | account (uid : String) (isEmailVerified : Bool)

/-- The user makes a gesture, the server answers a request, or a callback runs. -/
inductive Event where
  | gesture (device : Nat) (gesture : Gesture)
  | serve (index : Nat) (answer : Answer)
  | callback (index : Nat) (uuid : String)

def Event.isGesture : Event → Bool
  | .gesture _ _ => true
  | .serve _ _ | .callback _ _ => false

def Answer.succeeds : Answer → Bool
  | .failure => false
  | .success | .account _ _ => true

/-- The server fails no request. -/
def Event.Succeeds : Event → Prop
  | .serve _ answer => answer.succeeds = true
  | .gesture _ _ | .callback _ _ => True

instance : ∀ event : Event, Decidable event.Succeeds
  | .serve _ _ => inferInstanceAs (Decidable (_ = _))
  | .gesture _ _ | .callback _ _ => inferInstanceAs (Decidable True)

/-- The gestures of a run on one device are of the listed kinds. -/
def Event.By (number : Nat) (listed : Gesture → Bool) : Event → Prop
  | .gesture device made => device = number ∧ listed made = true
  | .serve _ _ | .callback _ _ => True

instance (number : Nat) (listed : Gesture → Bool) : ∀ event : Event, Decidable (event.By number listed)
  | .gesture _ _ => inferInstanceAs (Decidable (_ ∧ _))
  | .serve _ _ | .callback _ _ => inferInstanceAs (Decidable True)

/-- The gestures of a run are of the listed kinds, on any device. -/
def Event.Listed (listed : Gesture → Bool) : Event → Prop
  | .gesture _ made => listed made = true
  | .serve _ _ | .callback _ _ => True

instance (listed : Gesture → Bool) : ∀ event : Event, Decidable (event.Listed listed)
  | .gesture _ _ => inferInstanceAs (Decidable (_ = _))
  | .serve _ _ | .callback _ _ => inferInstanceAs (Decidable True)

theorem Event.By.mono {number : Nat} {narrow wide : Gesture → Bool} {event : Event}
    (listed : event.By number narrow) (included : ∀ gesture, narrow gesture = true → wide gesture = true) :
    event.By number wide := by
  cases event with
  | gesture device made => exact ⟨listed.1, included made listed.2⟩
  | serve index answer => trivial
  | callback index uuid => trivial

def Request.newBasketName : Request → Option String
  | .setBasket name _ => some name
  | _ => none

namespace World

/-- A new identifier names no basket document and no basket that is being created. -/
def Fresh (world : World) (uuid : String) : Prop :=
  world.store.data .basket uuid = none ∧
    ∀ flight ∈ world.flights, flight.request.newBasketName ≠ some uuid

instance (world : World) (uuid : String) : Decidable (world.Fresh uuid) :=
  inferInstanceAs (Decidable (_ ∧ _))

/-- The outcome of a handler updates its device and adds its requests to the flights. -/
def perform (world : World) (number : Nat) (outcome : Outcome) : World :=
  { world with
    devices := Function.update world.devices number outcome.device
    flights := world.flights ++ outcome.issued.map fun request => ⟨number, request, none⟩ }

/-- A successful authentication makes its account the current one on the device. -/
def signIn (world : World) (number : Nat) (uid : String) : World :=
  { world with
    devices := Function.update world.devices number { world.devices number with auth := some uid } }

/-- The reply of the server is recorded with its request. -/
def record (world : World) (index number : Nat) (request : Request) (reply : Reply) : World :=
  { world with flights := world.flights.set index ⟨number, request, some reply⟩ }

def serve (world : World) (index number : Nat) (request : Request) : Answer → Option World
  | .failure => some (world.record index number request .error)
  | .success =>
      if request.isAuth then none
      else some ({ world with store := (world.store.answer request).1 }.record index number request
        (world.store.answer request).2)
  | .account uid isEmailVerified =>
      if request.isAuth then
        some ((world.signIn number uid).record index number request (.account uid isEmailVerified))
      else none

/-- A stopped application runs no callback. -/
def callback (world : World) (index number : Nat) (request : Request) (reply : Reply)
    (uuid : String) : World :=
  { world with flights := world.flights.eraseIdx index }.perform number
    (if (world.devices number).trapped then (world.devices number).done
      else request.complete uuid reply (world.devices number))

def step (world : World) : Event → Option World
  | .gesture number gesture =>
      if gesture.allowed (world.devices number) then
        some (world.perform number (gesture.handle (world.devices number)))
      else none
  | .serve index answer =>
      match world.flights[index]? with
      | some ⟨number, request, none⟩ => world.serve index number request answer
      | _ => none
  | .callback index uuid =>
      match world.flights[index]? with
      | some ⟨number, request, some reply⟩ =>
          if world.Fresh uuid then some (world.callback index number request reply uuid) else none
      | _ => none

/-- A run takes one step for each event. -/
abbrev run (world : World) (events : List Event) : Option World := Transition.run step world events

/-- Every step of a run meets a condition on the world before it. -/
abbrev Along (condition : World → Event → Prop) (world : World) (events : List Event) : Prop :=
  Transition.Along step condition world events

/-- No request is in flight. -/
def Quiet (world : World) : Prop := world.flights = []

variable {world next : World}

theorem step_gesture {number : Nat} {gesture : Gesture} :
    world.step (.gesture number gesture) = some next ↔
      gesture.allowed (world.devices number) ∧
        next = world.perform number (gesture.handle (world.devices number)) := by
  simp only [step]
  split
  · rename_i enabled
    simp only [enabled, true_and, Option.some.injEq]
    exact eq_comm
  · rename_i disabled
    simp [disabled]

theorem step_serve {index : Nat} {answer : Answer} :
    world.step (.serve index answer) = some next ↔
      ∃ number request, world.flights[index]? = some ⟨number, request, none⟩ ∧
        world.serve index number request answer = some next := by
  simp only [step]
  split
  · rename_i number request found
    simp [found]
  · rename_i absent
    constructor
    · intro impossible
      cases impossible
    · rintro ⟨number, request, found, _⟩
      exact absurd found (absent number request)

theorem step_callback {index : Nat} {uuid : String} :
    world.step (.callback index uuid) = some next ↔
      ∃ number request reply, world.flights[index]? = some ⟨number, request, some reply⟩ ∧
        world.Fresh uuid ∧ next = world.callback index number request reply uuid := by
  simp only [step]
  split
  · rename_i number request reply found
    simp [found, eq_comm]
  · rename_i absent
    constructor
    · intro impossible
      cases impossible
    · rintro ⟨number, request, reply, found, _⟩
      exact absurd found (absent number request reply)

/-- The server fails the request, applies it, or signs an account in. -/
theorem serve_cases {index number : Nat} {request : Request} {answer : Answer}
    (served : world.serve index number request answer = some next) :
    (answer = .failure ∧ next = world.record index number request .error) ∨
      (answer = .success ∧ request.isAuth = false ∧
        next = record { world with store := (world.store.answer request).1 } index number request
          (world.store.answer request).2) ∨
      ∃ uid isEmailVerified, answer = .account uid isEmailVerified ∧ request.isAuth = true ∧
        next = (world.signIn number uid).record index number request (.account uid isEmailVerified) := by
  cases answer with
  | failure => exact .inl ⟨rfl, (Option.some.inj served).symm⟩
  | success =>
      simp only [serve] at served
      split at served
      · cases served
      · rename_i other
        exact .inr (.inl ⟨rfl, Bool.eq_false_iff.mpr other, (Option.some.inj served).symm⟩)
  | account uid isEmailVerified =>
      simp only [serve] at served
      split at served
      · rename_i auth
        exact .inr (.inr ⟨uid, isEmailVerified, rfl, auth, (Option.some.inj served).symm⟩)
      · cases served

/-- A request that the server applies records the answer of the store. -/
theorem serve_applies {index number : Nat} {request : Request} {answer : Answer}
    (document : request.isAuth = false) (succeeds : answer.succeeds = true)
    (served : world.serve index number request answer = some next) :
    next = record { world with store := (world.store.answer request).1 } index number request
      (world.store.answer request).2 := by
  rcases serve_cases served with ⟨rfl, _⟩ | ⟨_, _, same⟩ | ⟨uid, isEmailVerified, _, auth, _⟩
  · cases succeeds
  · exact same
  · rw [document] at auth
    cases auth

@[simp] theorem perform_devices (world : World) (number : Nat) (outcome : Outcome) :
    (world.perform number outcome).devices number = outcome.device := Function.update_self ..

/-- A handler leaves the other devices as they are. -/
theorem perform_other (world : World) {number other : Nat} (outcome : Outcome) (different : other ≠ number) :
    (world.perform number outcome).devices other = world.devices other := Function.update_of_ne different ..

/-- A sign-in changes nothing but the Auth account of its device. -/
theorem signIn_device (world : World) (device number : Nat) (uid : String) :
    ∃ auth, (auth = some uid ∨ auth = (world.devices number).auth) ∧
      (world.signIn device uid).devices number = { world.devices number with auth := auth } := by
  by_cases same : number = device
  · subst same
    exact ⟨some uid, .inl rfl, Function.update_self ..⟩
  · exact ⟨(world.devices number).auth, .inr rfl, Function.update_of_ne same ..⟩

/-- A property of the flights needs to hold of the issued requests. -/
theorem forall_perform {property : Flight → Prop} {number : Nat} {outcome : Outcome}
    (old : ∀ flight ∈ world.flights, property flight)
    (new : ∀ request ∈ outcome.issued, property ⟨number, request, none⟩) :
    ∀ flight ∈ (world.perform number outcome).flights, property flight := by
  intro flight member
  rcases List.mem_append.mp member with kept | issued
  · exact old flight kept
  · obtain ⟨request, inside, rfl⟩ := List.mem_map.mp issued
    exact new request inside

/-- An issued request waits for the server. -/
theorem mem_perform (world : World) (number : Nat) (outcome : Outcome) {request : Request}
    (issued : request ∈ outcome.issued) : ⟨number, request, none⟩ ∈ (world.perform number outcome).flights :=
  List.mem_append_right _ (List.mem_map_of_mem issued)

theorem callback_of_stopped {index number : Nat} {request : Request} {reply : Reply} {uuid : String}
    (stopped : (world.devices number).trapped = true) :
    world.callback index number request reply uuid = { world with flights := world.flights.eraseIdx index } := by
  simp [callback, perform, stopped, Device.done]

theorem callback_of_running {index number : Nat} {request : Request} {reply : Reply} {uuid : String}
    (running : (world.devices number).trapped = false) :
    world.callback index number request reply uuid =
      World.perform { world with flights := world.flights.eraseIdx index } number
        (request.complete uuid reply (world.devices number)) := by
  simp [callback, running]

/-- A gesture needs a running application. -/
theorem running_of_allowed {device : Device} {gesture : Gesture} (allowed : gesture.allowed device = true) :
    device.trapped = false := by
  cases gesture <;> simp_all [Gesture.allowed]

/-- A stopped application stays stopped. -/
theorem step_trapped {number : Nat} {event : Event} (taken : world.step event = some next)
    (running : (next.devices number).trapped = false) : (world.devices number).trapped = false := by
  cases event with
  | gesture device made =>
      obtain ⟨allowed, rfl⟩ := step_gesture.mp taken
      by_cases same : number = device
      · rw [same]
        exact running_of_allowed allowed
      · simpa [perform, Function.update_of_ne same] using running
  | serve index answer =>
      obtain ⟨device, request, _, served⟩ := step_serve.mp taken
      rcases serve_cases served with ⟨_, rfl⟩ | ⟨_, _, rfl⟩ | ⟨uid, isEmailVerified, _, _, rfl⟩
      · exact running
      · exact running
      · obtain ⟨auth, _, signedIn⟩ := world.signIn_device device number uid
        simpa [record, signedIn] using running
  | callback index uuid =>
      obtain ⟨device, request, reply, _, _, rfl⟩ := step_callback.mp taken
      by_cases same : number = device
      · subst same
        cases stopped : (world.devices number).trapped with
        | false => rfl
        | true => simp [callback, perform, stopped, Device.done] at running
      · simpa [callback, perform, Function.update_of_ne same] using running

/-- No step changes the documents of the other collections. -/
theorem step_other {event : Event} (taken : world.step event = some next) {collection : FCollectionReference}
    (user : collection ≠ .user) (basket : collection ≠ .basket) :
    next.store.data collection = world.store.data collection := by
  cases event with
  | gesture device made =>
      obtain ⟨_, rfl⟩ := step_gesture.mp taken
      rfl
  | serve index answer =>
      obtain ⟨device, request, _, served⟩ := step_serve.mp taken
      rcases serve_cases served with ⟨_, rfl⟩ | ⟨_, _, rfl⟩ | ⟨uid, isEmailVerified, _, _, rfl⟩
      · rfl
      · exact funext (world.store.answer_other request user basket)
      · rfl
  | callback index uuid =>
      obtain ⟨device, request, reply, _, _, rfl⟩ := step_callback.mp taken
      rfl

/-- No step changes the item documents. -/
theorem step_items {event : Event} (taken : world.step event = some next) :
    next.store.data .items = world.store.data .items := step_other taken (by decide) (by decide)

end World

end ShoppingApp
