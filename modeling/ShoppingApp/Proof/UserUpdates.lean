import ShoppingApp.Library.Replica
import ShoppingApp.Library.Pool
import ShoppingApp.Proof.Effects

namespace ShoppingApp

open Replica

/-- A call of `updateCurrentUserInFirestore` carries its values and the merged copy. -/
def Request.call : Request → Option (Call Key Value)
  | .updateUser _ values userObject => some ⟨values, userObject⟩
  | _ => none

/-- A write reports no error exactly when the server applied it. -/
def Reply.isDone : Reply → Bool
  | .done => true
  | _ => false

/-- The call waits for the server. -/
def Flight.waitingCall (flight : Flight) : Option (Call Key Value) :=
  match flight.reply with
  | none => flight.request.call
  | some _ => none

/-- The server has answered the call. -/
def Flight.answeredCall (flight : Flight) : Option (Call Key Value × Bool) :=
  match flight.reply with
  | none => none
  | some reply => flight.request.call.map fun call => (call, reply.isDone)

/-- The requests of one session name its own user document and do not change the account. -/
def Request.Stays (uid : String) : Request → Prop
  | .getUser _ _ | .setUser _ _ | .signIn _ | .createUser _ => False
  | .updateUser name _ _ => name = uid
  | .getBaskets _ _ | .setBasket _ _ | .updateBasket _ _ _ | .getItem _ _ => True

theorem Request.Stays.isAuth {uid : String} {request : Request} (stays : request.Stays uid) :
    request.isAuth = false := by
  cases request <;> first | rfl | cases stays

/-- The other gestures change the account. -/
def Gesture.stays : Gesture → Bool
  | .login _ | .register _ | .logOut _ => false
  | _ => true

namespace World

/-- The user updates are applied and acknowledged in the order of their issue. -/
def InIssueOrder (world : World) : Event → Prop
  | .gesture _ _ => True
  | .serve index _ =>
      (world.flights[index]?.bind fun flight => flight.request.call) = none ∨
        ∀ earlier ∈ world.flights.take index, earlier.waitingCall = none
  | .callback index _ =>
      (world.flights[index]?.bind fun flight => flight.request.call) = none ∨
        ∀ earlier ∈ world.flights.take index, earlier.request.call = none

instance (world : World) : ∀ event, Decidable (world.InIssueOrder event)
  | .gesture _ _ => inferInstanceAs (Decidable True)
  | .serve _ _ => inferInstanceAs (Decidable (_ ∨ _))
  | .callback _ _ => inferInstanceAs (Decidable (_ ∨ _))

/-- The abstract view keeps the server document, the cached record, and the calls of one session. -/
def replica (world : World) (number : Nat) (uid : String) : Replica.State Key Value where
  server := (world.store.data .user uid).getD fun _ => none
  cache := (world.devices number).defaults.getD fun _ => none
  answered := world.flights.filterMap Flight.answeredCall
  waiting := world.flights.filterMap Flight.waitingCall

/-- One account stays signed in on one device, and its calls are answered in the order of their issue. -/
structure Session (number : Nat) (uid : String) (world : World) : Prop where
  auth : (world.devices number).auth = some uid
  cached : ∃ record, (world.devices number).defaults = some record
  stored : ∃ record, world.store.data .user uid = some record
  flights : ∀ flight ∈ world.flights, flight.device = number ∧ flight.request.Stays uid
  ordered : world.flights.Pairwise fun earlier later =>
    earlier.waitingCall ≠ none → later.answeredCall = none

end World

/-- The call merges its values into the cached record. -/
theorem Device.updateCurrentUserInFirestore_eq (device : Device) (withValues : Dictionary) :
    (device.updateCurrentUserInFirestore withValues).issued = [] ∨
      ∃ uid record, device.auth = some uid ∧ device.defaults = some record ∧
        (device.updateCurrentUserInFirestore withValues).issued =
          [.updateUser uid withValues (record.patch withValues)] := by
  unfold updateCurrentUserInFirestore withCurrentId
  split
  · exact .inl rfl
  · rename_i record cached
    split
    · exact .inl rfl
    · rename_i uid signedIn
      exact .inr ⟨uid, record, signedIn, cached, rfl⟩

theorem Device.emptyTheBasket_calls (device : Device) :
    device.emptyTheBasket.issued.filterMap Request.call = [] := by
  apply List.filterMap_eq_nil_iff.mpr
  intro request member
  obtain ⟨basket, name, _, _, rfl⟩ := emptyTheBasket_issued member
  rfl

/-- The clear of the basket follows the record of the purchase and makes no call. -/
theorem Device.payPalPaymentDidComplete_calls (device : Device) :
    device.payPalPaymentDidComplete.issued.filterMap Request.call =
      (addItemsToPurchaseHistory device.screen.purchasedItemIds
        { device with screen := { device.screen with payment := none } }).issued.filterMap Request.call := by
  unfold payPalPaymentDidComplete Outcome.andThen
  dsimp only
  split
  · rfl
  · simp [emptyTheBasket_calls]

/-- A signed-in user with a cached record gets the paid identifiers behind the cached history. -/
theorem Device.payPalPaymentDidComplete_of_user {device : Device} {uid : String} {record : Dictionary}
    {user : MUser} (signedIn : device.auth = some uid) (cached : device.defaults = some record)
    (decoded : MUser.ofDictionary record = some user) :
    device.payPalPaymentDidComplete.issued.filterMap Request.call =
      [⟨purchasedValues (user.purchasedItemIds ++ device.screen.purchasedItemIds),
        record.patch (purchasedValues (user.purchasedItemIds ++ device.screen.purchasedItemIds))⟩] := by
  rw [payPalPaymentDidComplete_calls]
  simp [addItemsToPurchaseHistory, withCurrentUser, currentUser, signedIn, cached, decoded,
    updateCurrentUserInFirestore, withCurrentId, issue, Request.call]

/-- A gesture issues at most one call, and the call merges its values into the cached record. -/
theorem Gesture.handle_calls (gesture : Gesture) (device : Device) :
    (gesture.handle device).issued.filterMap Request.call = [] ∨
      ∃ values record, device.defaults = some record ∧
        (gesture.handle device).issued.filterMap Request.call = [⟨values, record.patch values⟩] := by
  have update : ∀ withValues, (device.updateCurrentUserInFirestore withValues).issued.filterMap Request.call = [] ∨
      ∃ values record, device.defaults = some record ∧
        (device.updateCurrentUserInFirestore withValues).issued.filterMap Request.call =
          [⟨values, record.patch values⟩] := by
    intro withValues
    rcases device.updateCurrentUserInFirestore_eq withValues with silent | ⟨uid, record, _, cached, issued⟩
    · rw [silent]
      exact .inl rfl
    · rw [issued]
      exact .inr ⟨withValues, record, cached, rfl⟩
  have sameUser : ∀ screen, Device.currentUser { device with screen := screen } = device.currentUser :=
    fun _ => rfl
  cases gesture with
  | completePayment =>
      simp only [handle]
      rcases current : device.currentUser with _ | _ | user
      · refine .inl (device.payPalPaymentDidComplete_calls.trans ?_)
        simp only [Device.addItemsToPurchaseHistory, Device.withCurrentUser, sameUser, current]
        rfl
      · refine .inl (device.payPalPaymentDidComplete_calls.trans ?_)
        simp only [Device.addItemsToPurchaseHistory, Device.withCurrentUser, sameUser, current]
        rfl
      · obtain ⟨uid, record, signedIn, cached, decoded⟩ := Device.currentUser_eq_some current
        exact .inr ⟨_, record, cached, Device.payPalPaymentDidComplete_of_user signedIn cached decoded⟩
  | saveProfile name surname address =>
      simp only [handle, Device.saveBarButtonPressed]
      split
      · exact update _
      · exact .inl rfl
  | finishOnboarding name surname address => exact update _
  | updateUser withValues => exact update withValues
  | _ =>
      refine .inl (List.filterMap_eq_nil_iff.mpr fun request member => ?_)
      cases issues_of_mem member <;> rfl

/-- A concrete event stands for an action of the abstract view. -/
def World.Acts (world : World) (number : Nat) (event : Event) : Action Key Value → Prop
  | .issue values => ∃ gesture snapshot, event = .gesture number gesture ∧
      (gesture.handle (world.devices number)).issued.filterMap Request.call = [⟨values, snapshot⟩]
  | .answer succeeded => ∃ index answer flight, event = .serve index answer ∧
      world.flights[index]? = some flight ∧ flight.request.call ≠ none ∧
      (answer.succeeds = true → succeeded = true)
  | .acknowledge running => running = !(world.devices number).trapped

/-- The abstract view takes a step for the event or does not see it. -/
def World.Shows (world : World) (number : Nat) (uid : String) (event : Event) (next : World) : Prop :=
  next.replica number uid = world.replica number uid ∨
    ∃ action, world.Acts number event action ∧
      Replica.step (world.replica number uid) action = some (next.replica number uid)

namespace World.Session

variable {world next : World} {number : Nat} {uid : String}

/-- The requests of a gesture stay in the session. -/
theorem issued_stays (session : Session number uid world) {gesture : Gesture}
    (stays : gesture.stays = true) {request : Request}
    (member : request ∈ (gesture.handle (world.devices number)).issued) : request.Stays uid := by
  have own : ∀ name, (world.devices number).auth = some name → name = uid := by
    intro name signedIn
    exact Option.some.inj (signedIn.symm.trans session.auth)
  cases Gesture.issues_of_mem member with
  | addToBasket signedIn => trivial
  | loadBasket signedIn => trivial
  | readItem => trivial
  | deleteRow present hasId hasBasket hasItems hasName inside => trivial
  | recordPurchase signedIn cached decoded => exact own _ signedIn
  | emptyTheBasket hasBasket hasName => trivial
  | login => cases stays
  | register => cases stays
  | saveProfile signedIn cached => exact own _ signedIn
  | finishOnboarding signedIn cached => exact own _ signedIn
  | updateUser signedIn cached => exact own _ signedIn

/-- The requests of a completion stay in the session, and none of them is a call. -/
theorem follows_stays {request issued : Request} {reply : Reply} {uuid : String} {device : Device}
    (stays : request.Stays uid)
    (member : issued ∈ (request.complete uuid reply device).issued) :
    issued.Stays uid ∧ issued.call = none := by
  cases Request.follows_of_mem member with
  | createBasket absent signedIn hasId => exact ⟨trivial, rfl⟩
  | appendItem found hasName hasItems hasId => exact ⟨trivial, rfl⟩
  | readLoaded => exact ⟨trivial, rfl⟩
  | readEmptied => exact ⟨trivial, rfl⟩
  | saveUser missing => cases stays
  | downloadUser => cases stays

/-- New flights carry no reply. -/
theorem answered_new (issued : List Request) :
    (issued.map fun request => (⟨number, request, none⟩ : Flight)).filterMap Flight.answeredCall = [] := by
  apply List.filterMap_eq_nil_iff.mpr
  intro flight member
  obtain ⟨request, _, rfl⟩ := List.mem_map.mp member
  rfl

theorem waiting_new (issued : List Request) :
    (issued.map fun request => (⟨number, request, none⟩ : Flight)).filterMap Flight.waitingCall =
      issued.filterMap Request.call := by
  rw [List.filterMap_map]
  rfl

/-- A handler that keeps the account and the record adds its requests behind the others. -/
theorem perform (session : Session number uid world) {outcome : Outcome}
    (auth : outcome.device.auth = (world.devices number).auth)
    (cached : ∃ record, outcome.device.defaults = some record)
    (stays : ∀ request ∈ outcome.issued, request.Stays uid) :
    Session number uid (world.perform number outcome) := by
  refine ⟨?_, ?_, session.stored, ?_, ?_⟩
  · rw [perform_devices, auth, session.auth]
  · rw [perform_devices]
    exact cached
  · exact forall_perform session.flights fun request issued => ⟨rfl, stays request issued⟩
  · apply List.pairwise_append.mpr
    have new : ∀ flight ∈ outcome.issued.map fun request => (⟨number, request, none⟩ : Flight),
        flight.answeredCall = none := by
      intro flight member
      obtain ⟨request, _, rfl⟩ := List.mem_map.mp member
      rfl
    refine ⟨session.ordered, ?_, fun earlier _ later member _ => new later member⟩
    exact List.Pairwise.imp_of_mem (fun _ member _ _ => new _ member) (List.pairwise_of_forall fun _ _ => trivial)

theorem handle_narrows (world : World) (number : Nat) {gesture : Gesture} (stays : gesture.stays = true) :
    (world.devices number).Narrows (gesture.handle (world.devices number)).device := by
  apply gesture.handle_narrows
  intro signedOut same
  rw [same] at stays
  cases stays

/-- The calls of a gesture wait behind the others. -/
theorem gesture_view (world : World) (number : Nat) (uid : String) {gesture : Gesture}
    (stays : gesture.stays = true) :
    (world.perform number (gesture.handle (world.devices number))).replica number uid =
      { world.replica number uid with
        waiting := (world.replica number uid).waiting ++
          (gesture.handle (world.devices number)).issued.filterMap Request.call } := by
  have narrows := handle_narrows world number stays
  simp only [replica, World.perform, Function.update_self, narrows.defaults, List.filterMap_append,
    answered_new, waiting_new, List.append_nil]

theorem gesture (session : Session number uid world) {gesture : Gesture} (stays : gesture.stays = true) :
    Session number uid (world.perform number (gesture.handle (world.devices number))) ∧
      world.Shows number uid (.gesture number gesture)
        (world.perform number (gesture.handle (world.devices number))) := by
  have narrows := handle_narrows world number stays
  obtain ⟨record, cached⟩ := session.cached
  have kept : (gesture.handle (world.devices number)).device.defaults = some record :=
    narrows.defaults.trans cached
  refine ⟨session.perform narrows.auth ⟨record, kept⟩ fun request => session.issued_stays stays, ?_⟩
  have view := gesture_view world number uid stays
  rcases gesture.handle_calls (world.devices number) with silent | ⟨values, copy, sameCopy, issued⟩
  · rw [silent, List.append_nil] at view
    exact .inl view
  · rw [issued] at view
    refine .inr ⟨.issue values, ⟨gesture, copy.patch values, rfl, issued⟩, ?_⟩
    rw [view]
    simp [Replica.step, replica, sameCopy]

/-- The server changes the user document only through an applied call. -/
theorem answer_user {store : Store} {request : Request} {record : Dictionary}
    (stays : request.Stays uid) (stored : store.data .user uid = some record) :
    (store.answer request).1.data .user uid =
      some ((request.call.map fun call => record.patch call.values).getD record) ∧
      (request.call ≠ none → (store.answer request).2 = .done) := by
  refine ⟨?_, fun called => ?_⟩
  · rw [Store.answer_user, stored]
    cases request with
    | setUser name data => cases stays
    | updateUser name values userObject =>
        obtain rfl : name = uid := stays
        simp [Request.onUser, Request.call]
    | _ => rfl
  · cases request with
    | updateUser name values userObject =>
        obtain rfl : name = uid := stays
        simp [Store.answer, Store.updateData, stored]
    | _ => exact absurd rfl called

/-- The server answers a request of the session with or without its effect. -/
theorem serve_eq (session : Session number uid world) {index device : Nat} {request : Request}
    {answer : Answer} (found : world.flights[index]? = some ⟨device, request, none⟩)
    (served : world.serve index device request answer = some next) :
    ∃ store reply, next = World.record { world with store := store } index device request reply ∧
      (answer.succeeds = true → request.call ≠ none → reply.isDone = true) ∧
      store.data .user uid = (world.store.data .user uid).map fun record =>
        (request.call.map fun call => if reply.isDone then record.patch call.values else record).getD
          record := by
  have stays : request.Stays uid := (session.flights _ (List.mem_of_getElem? found)).2
  obtain ⟨record, stored⟩ := session.stored
  rcases serve_cases served with ⟨rfl, rfl⟩ | ⟨_, _, rfl⟩ | ⟨name, isEmailVerified, _, auth, _⟩
  · refine ⟨world.store, .error, rfl, fun succeeds => absurd succeeds (by decide), ?_⟩
    rw [stored]
    cases request.call <;> rfl
  · obtain ⟨changed, done⟩ := answer_user stays stored
    refine ⟨_, _, rfl, fun _ called => congrArg Reply.isDone (done called), ?_⟩
    rw [changed, stored]
    cases named : request.call with
    | none => rfl
    | some call =>
        rw [named] at done
        simp [done, Reply.isDone]
  · rw [stays.isAuth] at auth
    cases auth

/-- Nothing waits before a call that the server answers in its order. -/
theorem waiting_before {index device : Nat} {request : Request} {answer : Answer}
    (inOrder : world.InIssueOrder (.serve index answer))
    (found : world.flights[index]? = some ⟨device, request, none⟩) (called : request.call ≠ none) :
    ∀ earlier ∈ world.flights.take index, earlier.waitingCall = none := by
  rcases inOrder with absent | waiting
  · rw [found] at absent
    exact absurd absent called
  · exact waiting

/-- The reply to a request of the session keeps the session. -/
theorem record (session : Session number uid world) {index device : Nat} {request : Request}
    (found : world.flights[index]? = some ⟨device, request, none⟩)
    (early : request.call ≠ none → ∀ earlier ∈ world.flights.take index, earlier.waitingCall = none)
    {store : Store} (stored : ∃ record, store.data .user uid = some record) (reply : Reply) :
    Session number uid (World.record { world with store := store } index device request reply) := by
  obtain ⟨whole, replaced, _⟩ := Pool.split found
  have ordered := session.ordered
  rw [whole] at ordered
  obtain ⟨before, after, across⟩ := List.pairwise_append.mp ordered
  obtain ⟨_, after⟩ := List.pairwise_cons.mp after
  have own := session.flights _ (List.mem_of_getElem? found)
  refine ⟨session.auth, session.cached, stored, Pool.forall_set session.flights own, ?_⟩
  unfold World.record
  dsimp only
  rw [replaced]
  apply List.pairwise_append.mpr
  refine ⟨before, List.pairwise_cons.mpr ⟨fun _ _ waiting => absurd rfl waiting, after⟩, ?_⟩
  intro earlier member other memberOther waiting
  rcases List.mem_cons.mp memberOther with rfl | memberOther
  · cases called : request.call with
    | none => simp [Flight.answeredCall, called]
    | some call => exact absurd (early (by simp [called]) earlier member) waiting
  · exact across earlier member other (List.mem_cons_of_mem _ memberOther) waiting

/-- The reply moves a call from the waiting ones to the answered ones. -/
theorem record_view {index device : Nat} {request : Request}
    (found : world.flights[index]? = some ⟨device, request, none⟩) (store : Store) (reply : Reply) :
    (World.record { world with store := store } index device request reply).replica number uid =
      { world.replica number uid with
        server := (store.data .user uid).getD fun _ => none
        answered := (world.flights.take index).filterMap Flight.answeredCall ++
          ((Flight.answeredCall ⟨device, request, some reply⟩).toList ++
            (world.flights.drop (index + 1)).filterMap Flight.answeredCall)
        waiting := (world.flights.take index).filterMap Flight.waitingCall ++
          (world.flights.drop (index + 1)).filterMap Flight.waitingCall } := by
  simp [replica, World.record, Pool.filterMap_set _ found, Flight.waitingCall]

/-- Nothing is answered behind a call that still waits. -/
theorem answered_behind (session : Session number uid world) {index device : Nat} {request : Request}
    (found : world.flights[index]? = some ⟨device, request, none⟩) (called : request.call ≠ none) :
    (world.flights.drop (index + 1)).filterMap Flight.answeredCall = [] := by
  have ordered := session.ordered
  rw [(Pool.split found).1] at ordered
  obtain ⟨later, _⟩ := List.pairwise_cons.mp (List.pairwise_append.mp ordered).2.1
  apply List.filterMap_eq_nil_iff.mpr
  intro flight member
  exact later flight member called

theorem serve (session : Session number uid world) {index device : Nat} {request : Request}
    {answer : Answer} (inOrder : world.InIssueOrder (.serve index answer))
    (found : world.flights[index]? = some ⟨device, request, none⟩)
    (served : world.serve index device request answer = some next) :
    Session number uid next ∧ world.Shows number uid (.serve index answer) next := by
  obtain ⟨store, reply, rfl, done, changed⟩ := session.serve_eq found served
  obtain ⟨record, stored⟩ := session.stored
  have early := waiting_before inOrder found
  rw [stored] at changed
  refine ⟨session.record found early ⟨_, changed⟩ reply, ?_⟩
  have answered := Pool.filterMap_split Flight.answeredCall found
  have waiting := Pool.filterMap_split Flight.waitingCall found
  simp only [Flight.waitingCall, Flight.answeredCall] at waiting answered
  rw [World.Shows, record_view found]
  cases called : request.call with
  | none =>
      refine .inl ?_
      rw [called] at changed waiting
      simp [replica, changed, stored, waiting, answered, Flight.answeredCall, called]
  | some call =>
      refine .inr ⟨.answer reply.isDone, ⟨index, answer, _, rfl, found, by simp [called],
        fun succeeds => done succeeds (by simp [called])⟩, ?_⟩
      have first : (world.flights.take index).filterMap Flight.waitingCall = [] :=
        List.filterMap_eq_nil_iff.mpr (early (by simp [called]))
      have last := session.answered_behind found (by simp [called])
      rw [first, called] at waiting
      rw [last] at answered
      rw [called] at changed
      have head : (world.replica number uid).waiting =
          call :: (world.flights.drop (index + 1)).filterMap Flight.waitingCall := by
        simpa [replica] using waiting
      simp only [Replica.step, head]
      simp [replica, changed, stored, answered, first, last, Flight.answeredCall, called]

/-- Only the callback of an applied call replaces the cached record. -/
theorem complete_defaults {request : Request} {reply : Reply} {uuid : String} {device : Device}
    (stays : request.Stays uid) :
    (request.complete uuid reply device).device.defaults =
      (request.call.bind fun call => if reply.isDone then some call.snapshot else none).or
        device.defaults := by
  rw [Request.complete_defaults]
  cases request with
  | getUser userId email => cases stays
  | updateUser name values userObject => cases reply <;> rfl
  | _ => rfl

/-- A running application saves the snapshot of an applied call. -/
theorem callback_defaults {index device : Nat} {request : Request} {reply : Reply} {uuid : String}
    (stays : request.Stays uid) :
    ((world.callback index device request reply uuid).devices device).defaults =
      (request.call.bind fun call =>
        if !(world.devices device).trapped && reply.isDone then some call.snapshot else none).or
          (world.devices device).defaults := by
  cases stopped : (world.devices device).trapped with
  | true =>
      rw [callback_of_stopped stopped]
      cases request.call <;> rfl
  | false =>
      rw [callback_of_running stopped, perform_devices, complete_defaults stays]
      rfl

/-- A callback removes its flight from the abstract view and makes no call. -/
theorem callback_view {index device : Nat} {request : Request} {reply : Reply} {uuid : String}
    (stays : request.Stays uid) (found : world.flights[index]? = some ⟨device, request, some reply⟩) :
    (world.callback index device request reply uuid).replica device uid =
      { world.replica device uid with
        cache := ((world.callback index device request reply uuid).devices device).defaults.getD fun _ => none
        answered := (world.flights.take index).filterMap Flight.answeredCall ++
          (world.flights.drop (index + 1)).filterMap Flight.answeredCall
        waiting := (world.flights.take index).filterMap Flight.waitingCall ++
          (world.flights.drop (index + 1)).filterMap Flight.waitingCall } := by
  cases stopped : (world.devices device).trapped with
  | true =>
      rw [callback_of_stopped stopped]
      simp only [replica, Pool.filterMap_eraseIdx _ found]
  | false =>
      have silent : (request.complete uuid reply (world.devices device)).issued.filterMap Request.call = [] := by
        apply List.filterMap_eq_nil_iff.mpr
        exact fun other member => (follows_stays stays member).2
      rw [callback_of_running stopped]
      simp only [replica, World.perform, Function.update_self, List.filterMap_append, answered_new,
        waiting_new, silent, List.append_nil, Pool.filterMap_eraseIdx _ found]

/-- The session goes on after a callback. -/
theorem returned (session : Session number uid world) {index : Nat} {request : Request} {reply : Reply}
    {uuid : String} (stays : request.Stays uid) :
    Session number uid (world.callback index number request reply uuid) := by
  obtain ⟨record, cached⟩ := session.cached
  have rest : Session number uid { world with flights := world.flights.eraseIdx index } :=
    ⟨session.auth, session.cached, session.stored, Pool.forall_eraseIdx session.flights,
      session.ordered.sublist (List.eraseIdx_sublist _ _)⟩
  cases stopped : (world.devices number).trapped with
  | true =>
      rw [callback_of_stopped stopped]
      exact rest
  | false =>
      rw [callback_of_running stopped]
      refine rest.perform (Request.complete_checkout uuid request reply (world.devices number)).1 ?_
        fun other member => (follows_stays stays member).1
      rw [complete_defaults stays, cached]
      exact ⟨_, Option.or_some⟩

theorem callback (session : Session number uid world) {index device : Nat} {request : Request}
    {reply : Reply} {uuid : String} (inOrder : world.InIssueOrder (.callback index uuid))
    (found : world.flights[index]? = some ⟨device, request, some reply⟩) :
    Session number uid (world.callback index device request reply uuid) ∧
      world.Shows number uid (.callback index uuid) (world.callback index device request reply uuid) := by
  obtain ⟨rfl, stays⟩ := session.flights _ (List.mem_of_getElem? found)
  obtain ⟨record, cached⟩ := session.cached
  dsimp only at stays
  refine ⟨session.returned stays, ?_⟩
  have answered := Pool.filterMap_split Flight.answeredCall found
  have waiting := Pool.filterMap_split Flight.waitingCall found
  simp only [Flight.waitingCall, Flight.answeredCall] at waiting answered
  rw [World.Shows, callback_view stays found, callback_defaults stays]
  cases called : request.call with
  | none =>
      rw [called] at answered
      refine .inl ?_
      simp [replica, waiting, answered]
  | some call =>
      refine .inr ⟨.acknowledge (!(world.devices device).trapped), rfl, ?_⟩
      have early : ∀ earlier ∈ world.flights.take index, earlier.request.call = none := by
        rcases inOrder with absent | early
        · rw [found] at absent
          exact absurd (called.symm.trans absent) (by simp)
        · exact early
      have first : (world.flights.take index).filterMap Flight.answeredCall = [] := by
        apply List.filterMap_eq_nil_iff.mpr
        intro flight member
        unfold Flight.answeredCall
        cases flight.reply <;> simp [early flight member]
      have head : (world.replica device uid).answered =
          (call, reply.isDone) :: (world.flights.drop (index + 1)).filterMap Flight.answeredCall := by
        have whole : world.flights.filterMap Flight.answeredCall = _ := answered
        simpa [replica, first, called] using whole
      simp only [Replica.step, head]
      simp [replica, waiting, first, cached]
      split <;> rfl

/-- A step of the session is a step of the abstract view or is not seen there. -/
theorem step (session : Session number uid world) {event : Event} (stays : event.By number Gesture.stays)
    (inOrder : world.InIssueOrder event) (taken : world.step event = some next) :
    Session number uid next ∧ world.Shows number uid event next := by
  cases event with
  | gesture device made =>
      obtain ⟨rfl, stays⟩ := stays
      obtain ⟨_, rfl⟩ := step_gesture.mp taken
      exact session.gesture stays
  | serve index answer =>
      obtain ⟨device, request, found, served⟩ := step_serve.mp taken
      exact session.serve inOrder found served
  | callback index uuid =>
      obtain ⟨device, request, reply, found, _, rfl⟩ := step_callback.mp taken
      exact session.callback inOrder found

end World.Session

end ShoppingApp
