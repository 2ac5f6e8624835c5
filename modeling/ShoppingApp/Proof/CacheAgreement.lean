import ShoppingApp.Proof.UserUpdates

namespace ShoppingApp

open Replica

/-- This gesture stands for any call of `updateCurrentUserInFirestore`. -/
def Gesture.updatesUser : Gesture → Bool
  | .updateUser _ => true
  | _ => false

/-- A call in flight is live unless the server has failed it. -/
def Flight.liveCall (flight : Flight) : Option (Call Key Value) :=
  match flight.reply with
  | none => flight.request.call
  | some reply => if reply.isDone then flight.request.call else none

def Gesture.withValues : Gesture → Option Dictionary
  | .updateUser withValues => some withValues
  | _ => none

/-- A new call sets each field that a live call changes. -/
def World.Superseding (world : World) : Event → Prop
  | .gesture number made =>
      ∀ withValues ∈ made.withValues, ∀ flight ∈ world.flights, ∀ call ∈ flight.liveCall,
        Supersedes ((world.devices number).defaults.getD fun _ => none) call.values withValues
  | .serve _ _ | .callback _ _ => True

instance (cache earlier later : Dictionary) : Decidable (Supersedes cache earlier later) :=
  inferInstanceAs (Decidable (∀ key : Key, earlier key = none ∨ later key ≠ none ∨ earlier key = cache key))

instance (world : World) : ∀ event, Decidable (world.Superseding event)
  | .gesture _ _ => inferInstanceAs (Decidable (∀ _ ∈ _, ∀ _ ∈ _, ∀ _ ∈ _, Supersedes _ _ _))
  | .serve _ _ | .callback _ _ => inferInstanceAs (Decidable True)

namespace World

/-- The session is running, only calls are in flight, and the abstract view is synchronized. -/
structure Agreeing (number : Nat) (uid : String) (world : World) : Prop
    extends Session number uid world where
  running : (world.devices number).trapped = false
  calls : ∀ flight ∈ world.flights, flight.request.call ≠ none
  synced : Synced (world.replica number uid)

variable {world next : World} {number : Nat} {uid : String}

/-- The live calls of the abstract view are the live calls of the flights. -/
theorem mem_live {call : Call Key Value} (live : call ∈ (world.replica number uid).live) :
    ∃ flight ∈ world.flights, call ∈ flight.liveCall := by
  rcases List.mem_append.mp live with answered | waiting
  · obtain ⟨answer, kept, rfl⟩ := List.mem_map.mp answered
    obtain ⟨member, succeeded⟩ := List.mem_filter.mp kept
    obtain ⟨flight, present, shown⟩ := List.mem_filterMap.mp member
    refine ⟨flight, present, ?_⟩
    unfold Flight.answeredCall at shown
    unfold Flight.liveCall
    cases replied : flight.reply with
    | none => simp [replied] at shown
    | some reply =>
        rw [replied] at shown
        obtain ⟨call, called, rfl⟩ := Option.map_eq_some_iff.mp shown
        simp only at succeeded
        simp [succeeded, called]
  · obtain ⟨flight, present, shown⟩ := List.mem_filterMap.mp waiting
    refine ⟨flight, present, ?_⟩
    unfold Flight.waitingCall at shown
    unfold Flight.liveCall
    cases replied : flight.reply with
    | none => simpa [replied] using shown
    | some reply => simp [replied] at shown

/-- The handler of a call issues it from the cached record. -/
theorem Session.updateUser_eq (session : Session number uid world) (withValues : Dictionary) :
    ∃ record, (world.devices number).defaults = some record ∧
      (world.devices number).updateCurrentUserInFirestore withValues =
        (world.devices number).issue (.updateUser uid withValues (record.patch withValues)) := by
  obtain ⟨record, cached⟩ := session.cached
  refine ⟨record, cached, ?_⟩
  unfold Device.updateCurrentUserInFirestore
  rw [cached]
  exact Device.withCurrentId_of_some session.auth

/-- The application keeps running, and only calls are in flight. -/
theorem Agreeing.running_calls (agreeing : Agreeing number uid world) {event : Event}
    (updates : event.By number Gesture.updatesUser) (taken : world.step event = some next) :
    (next.devices number).trapped = false ∧ ∀ flight ∈ next.flights, flight.request.call ≠ none := by
  cases event with
  | gesture device made =>
      obtain ⟨rfl, isUpdate⟩ := updates
      obtain ⟨_, rfl⟩ := step_gesture.mp taken
      cases made with
      | updateUser withValues =>
          obtain ⟨record, _, handled⟩ := agreeing.updateUser_eq withValues
          simp only [Gesture.handle, handled]
          refine ⟨by simpa [Device.issue] using agreeing.running, ?_⟩
          apply forall_perform agreeing.calls
          intro request issued
          obtain rfl := List.mem_singleton.mp issued
          simp [Request.call]
      | _ => cases isUpdate
  | serve index answer =>
      obtain ⟨device, request, found, served⟩ := step_serve.mp taken
      obtain ⟨store, reply, rfl, _, _⟩ := agreeing.serve_eq found served
      have called : request.call ≠ none := agreeing.calls _ (List.mem_of_getElem? found)
      exact ⟨agreeing.running, Pool.forall_set agreeing.calls called⟩
  | callback index uuid =>
      obtain ⟨device, request, reply, found, _, rfl⟩ := step_callback.mp taken
      obtain ⟨rfl, stays⟩ := agreeing.flights _ (List.mem_of_getElem? found)
      have called := agreeing.calls _ (List.mem_of_getElem? found)
      have running := agreeing.running
      dsimp only at running
      cases request with
      | updateUser name values userObject =>
          have quiet : ((Request.updateUser name values userObject).complete uuid reply
              (world.devices device)).issued = [] := by
            cases reply <;> rfl
          have alive : ((Request.updateUser name values userObject).complete uuid reply
              (world.devices device)).device.trapped = false := by
            cases reply <;> exact running
          refine ⟨?_, ?_⟩
          · simpa [World.callback, World.perform, running] using alive
          · simpa [World.callback, World.perform, running, quiet] using Pool.forall_eraseIdx agreeing.calls
      | _ => exact absurd rfl called

/-- Every step of these runs keeps the cache and the server in agreement. -/
theorem Agreeing.step (agreeing : Agreeing number uid world) {event : Event}
    (updates : event.By number Gesture.updatesUser) (inOrder : world.InIssueOrder event)
    (superseding : world.Superseding event) (taken : world.step event = some next) :
    Agreeing number uid next := by
  have stays : event.By number Gesture.stays := updates.mono fun gesture isUpdate => by
    cases gesture with
    | updateUser withValues => rfl
    | _ => cases isUpdate
  obtain ⟨session, shows⟩ := agreeing.toSession.step stays inOrder taken
  obtain ⟨running, calls⟩ := agreeing.running_calls updates taken
  refine ⟨session, running, calls, ?_⟩
  rcases shows with same | ⟨action, acts, stepped⟩
  · rw [same]
    exact agreeing.synced
  · apply agreeing.synced.step _ stepped
    cases action with
    | issue values =>
        obtain ⟨made, snapshot, rfl, issued⟩ := acts
        cases made with
        | updateUser withValues =>
            obtain ⟨record, cached, handled⟩ := agreeing.updateUser_eq withValues
            simp only [Gesture.handle, handled, Device.issue, List.filterMap_cons, Request.call,
              List.filterMap_nil, List.cons.injEq, Call.mk.injEq, and_true] at issued
            intro call live
            obtain ⟨flight, present, inFlight⟩ := mem_live live
            rw [← issued.1]
            exact superseding withValues rfl flight present call inFlight
        | _ => cases updates.2
    | answer succeeded => trivial
    | acknowledge alive =>
        have same : alive = !(world.devices number).trapped := acts
        rw [same, agreeing.running]
        rfl

/-- These runs make calls on one device, and the calls are applied and acknowledged in their order. -/
def CallsInOrder (number : Nat) (world : World) (event : Event) : Prop :=
  event.By number Gesture.updatesUser ∧ world.InIssueOrder event

instance (number : Nat) (world : World) (event : Event) : Decidable (world.CallsInOrder number event) :=
  inferInstanceAs (Decidable (_ ∧ _))

/-- A quiet session with equal records is synchronized. -/
theorem Quiet.synced {record : Dictionary} (quiet : world.Quiet)
    (signedIn : (world.devices number).auth = some uid)
    (cached : (world.devices number).defaults = some record)
    (stored : world.store.data .user uid = some record) :
    Session number uid world ∧ Synced (world.replica number uid) := by
  have empty : world.flights = [] := quiet
  refine ⟨⟨signedIn, ⟨record, cached⟩, ⟨record, stored⟩, ?_, ?_⟩, ?_, ?_, ?_⟩
  · simp [empty]
  · simp [empty]
  · simp [replica, empty, cached, stored]
  · simp [State.live, replica, empty]
  · simp [State.live, replica, empty]

end World

/-- The cached record equals the server document whenever no call is in flight, if each new call sets
the fields that the live calls change. -/
theorem cache_agrees {world final : World} {events : List Event} {number : Nat} {uid : String}
    {record : Dictionary} (quiet : world.Quiet) (running : (world.devices number).trapped = false)
    (signedIn : (world.devices number).auth = some uid)
    (cached : (world.devices number).defaults = some record)
    (stored : world.store.data .user uid = some record)
    (met : world.Along (fun world event => world.CallsInOrder number event ∧ world.Superseding event) events)
    (ran : world.run events = some final) (idle : final.Quiet) :
    ∃ agreed, (final.devices number).defaults = some agreed ∧ final.store.data .user uid = some agreed := by
  have agreeing : final.Agreeing number uid := by
    obtain ⟨session, synced⟩ := quiet.synced signedIn cached stored
    have empty : world.flights = [] := quiet
    apply Transition.run_invariant (World.Agreeing number uid) _ ⟨session, running, by simp [empty], synced⟩ met ran
    intro state event next agreeing ⟨⟨updates, inOrder⟩, superseding⟩ taken
    exact agreeing.step updates inOrder superseding taken
  obtain ⟨kept, hasKept⟩ := agreeing.cached
  obtain ⟨served, hasServed⟩ := agreeing.stored
  have empty : final.flights = [] := idle
  have agree := agreeing.synced.agree (by simp [World.replica, empty])
  have same : kept = served := by simpa [World.replica, hasKept, hasServed] using agree
  exact ⟨kept, hasKept, same ▸ hasServed⟩

namespace World

/-- One account is signed in with the record of its server document. -/
def signedInAs (uid : String) (user : MUser) : World where
  store := Store.ofEntries [(uid, userDictionaryFrom user)] [] []
  devices := fun _ => { auth := some uid, defaults := some (userDictionaryFrom user) }
  flights := []

end World

def freshSession : World := .signedInAs "u" (MUser.new "u" "u@mail" "" "")

/-- The second call fails and sets the fields of the first one. -/
def sameFields : List Event :=
  [.gesture 0 (.updateUser (profileValues "Ann" "Lee" "Here")),
    .gesture 0 (.updateUser (profileValues "Anna" "Lee" "There")), .serve 0 .success,
    .serve 1 .failure, .callback 0 "n", .callback 0 "n"]

/-- Two overlapping calls that set the same fields leave the records equal. -/
theorem cache_agrees_sameFields :
    ∃ final, freshSession.run sameFields = some final ∧ ∃ agreed,
      (final.devices 0).defaults = some agreed ∧ final.store.data .user "u" = some agreed := by
  have met : freshSession.Along (fun world event =>
      world.CallsInOrder 0 event ∧ world.Superseding event) sameFields := by decide
  have quiet : freshSession.Quiet := rfl
  exact ⟨_, rfl, cache_agrees quiet rfl rfl rfl rfl met rfl rfl⟩

/-- The second call sets other fields than the first one. -/
def otherFields : List Event :=
  [.gesture 0 (.updateUser (profileValues "Ann" "Lee" "Here")),
    .gesture 0 (.updateUser (purchasedValues ["a"])), .serve 0 .success, .serve 1 .success,
    .callback 0 "n", .callback 0 "n"]

/-- Two overlapping calls that set different fields leave a cached record that lacks the first one. -/
theorem cache_disagrees :
    freshSession.Along (World.CallsInOrder 0) otherFields ∧
      ∃ final, freshSession.run otherFields = some final ∧ final.Quiet ∧
        (final.devices 0).defaults ≠ final.store.data .user "u" := by
  refine ⟨by decide, _, rfl, rfl, fun same => ?_⟩
  have names := congrArg (fun record => record.bind fun fields => fields .firstName) same
  revert names
  decide

end ShoppingApp
