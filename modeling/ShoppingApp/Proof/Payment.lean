import ShoppingApp.Proof.PurchaseHistory

namespace ShoppingApp

open Replica

def Request.isWrite : Request → Bool
  | .setBasket _ _ | .updateBasket _ _ _ | .setUser _ _ | .updateUser _ _ _ => true
  | _ => false

/-- The user loads the basket screen, deletes rows, and checks out. -/
def Gesture.usesBasketScreen : Gesture → Bool
  | .viewDidAppear | .deleteRow _ | .checkOut _ | .cancelPayment | .completePayment => true
  | _ => false

theorem Request.isWrite_of_call {request : Request} (called : request.call ≠ none) :
    request.isWrite = true := by
  cases request with
  | updateUser name values userObject => rfl
  | _ => exact absurd rfl called

namespace World

/-- Every write succeeds and is answered before the next gesture. -/
def WritesDone (world : World) : Event → Prop
  | .gesture _ _ => ∀ flight ∈ world.flights, flight.request.isWrite = false
  | .serve index answer =>
      ∀ flight ∈ world.flights[index]?, flight.request.isWrite = true → answer.succeeds = true
  | .callback _ _ => True

instance (world : World) : ∀ event, Decidable (world.WritesDone event)
  | .gesture _ _ => inferInstanceAs (Decidable (∀ _ ∈ _, _ = _))
  | .serve _ _ => inferInstanceAs (Decidable (∀ _ ∈ _, _ = _ → _ = _))
  | .callback _ _ => inferInstanceAs (Decidable True)

/-- At most one call is in flight, and the abstract view is synchronized while the application runs. -/
structure Settled (number : Nat) (uid : String) (world : World) : Prop
    extends Session number uid world where
  single : (world.flights.filterMap fun flight => flight.request.call).length ≤ 1
  synced : (world.devices number).trapped = false → Synced (world.replica number uid)

namespace Settled

variable {world next : World} {number : Nat} {uid : String}

/-- A single call comes first in its order. -/
theorem inIssueOrder (settled : Settled number uid world) (event : Event) : world.InIssueOrder event := by
  have early : ∀ index, (world.flights[index]?.bind fun flight => flight.request.call) = none ∨
      ∀ earlier ∈ world.flights.take index, earlier.request.call = none := by
    intro index
    cases found : world.flights[index]? with
    | none => exact .inl rfl
    | some flight =>
        cases called : flight.request.call with
        | none => exact .inl called
        | some call =>
            refine .inr ?_
            have whole := Pool.filterMap_split (fun flight => flight.request.call) found
            have single := settled.single
            rw [whole] at single
            simp only [called, Option.toList_some, List.length_append, List.length_cons] at single
            apply List.filterMap_eq_nil_iff.mp
            apply List.eq_nil_of_length_eq_zero
            omega
  cases event with
  | gesture device made => trivial
  | serve index answer =>
      rcases early index with silent | first
      · exact .inl silent
      · refine .inr fun earlier member => ?_
        unfold Flight.waitingCall
        split
        · exact first earlier member
        · rfl
  | callback index uuid => exact early index

/-- A quiet moment has no call in flight. -/
theorem calls_eq_nil (writes : ∀ flight ∈ world.flights, flight.request.isWrite = false) :
    (world.flights.filterMap fun flight => flight.request.call) = [] := by
  apply List.filterMap_eq_nil_iff.mpr
  intro flight member
  by_contra called
  have written := Request.isWrite_of_call called
  rw [writes flight member] at written
  cases written

theorem replica_eq_nil (number : Nat) (uid : String)
    (silent : (world.flights.filterMap fun flight => flight.request.call) = []) :
    (world.replica number uid).answered = [] ∧ (world.replica number uid).waiting = [] := by
  have none := List.filterMap_eq_nil_iff.mp silent
  refine ⟨List.filterMap_eq_nil_iff.mpr ?_, List.filterMap_eq_nil_iff.mpr ?_⟩
  · intro flight member
    unfold Flight.answeredCall
    split
    · rfl
    · rw [none flight member]
      rfl
  · intro flight member
    unfold Flight.waitingCall
    split
    · exact none flight member
    · rfl

theorem calls_new (issued : List Request) :
    (issued.map fun request => (⟨number, request, none⟩ : Flight)).filterMap
        (fun flight => flight.request.call) = issued.filterMap Request.call := by
  rw [List.filterMap_map]
  rfl

theorem single_step (settled : Settled number uid world) {event : Event}
    (stays : event.By number Gesture.stays) (done : world.WritesDone event)
    (taken : world.step event = some next) :
    (next.flights.filterMap fun flight => flight.request.call).length ≤ 1 := by
  cases event with
  | gesture device made =>
      obtain ⟨rfl, stays⟩ := stays
      obtain ⟨_, rfl⟩ := step_gesture.mp taken
      simp only [World.perform, List.filterMap_append, calls_eq_nil done, calls_new, List.nil_append]
      rcases made.handle_calls (world.devices device) with silent | ⟨values, record, _, issued⟩
      · rw [silent]
        exact Nat.zero_le 1
      · rw [issued]
        exact le_rfl
  | serve index answer =>
      obtain ⟨device, request, found, served⟩ := step_serve.mp taken
      obtain ⟨store, reply, rfl, _⟩ := settled.serve_eq found served
      have same := Pool.filterMap_set (fun flight => flight.request.call) found ⟨device, request, some reply⟩
      rw [← Pool.filterMap_split _ found] at same
      exact (congrArg List.length same).trans_le settled.single
  | callback index uuid =>
      obtain ⟨device, request, reply, found, _, rfl⟩ := step_callback.mp taken
      have stays : request.Stays uid := (settled.flights _ (List.mem_of_getElem? found)).2
      simp only [World.callback, World.perform, List.filterMap_append, calls_new]
      have silent : (if (world.devices device).trapped then (world.devices device).done
          else request.complete uuid reply (world.devices device)).issued.filterMap Request.call = [] := by
        apply List.filterMap_eq_nil_iff.mpr
        intro issued member
        split at member
        · cases member
        · exact (Session.follows_stays stays member).2
      rw [silent, List.append_nil]
      have shorter := ((List.eraseIdx_sublist world.flights index).filterMap
        fun flight => flight.request.call).length_le
      exact shorter.trans settled.single

/-- A settled session stays settled while gestures wait for the writes before them. -/
theorem step (settled : Settled number uid world) {event : Event} (stays : event.By number Gesture.stays)
    (done : world.WritesDone event) (taken : world.step event = some next) :
    Settled number uid next ∧ world.Shows number uid event next := by
  obtain ⟨session, shows⟩ := settled.toSession.step stays (settled.inIssueOrder event) taken
  refine ⟨⟨session, settled.single_step stays done taken, fun running => ?_⟩, shows⟩
  have synced := settled.synced (step_trapped taken running)
  rcases shows with same | ⟨action, acts, stepped⟩
  · rw [same]
    exact synced
  · apply synced.step _ stepped
    cases action with
    | issue values =>
        obtain ⟨made, snapshot, rfl, _⟩ := acts
        obtain ⟨answered, waiting⟩ := replica_eq_nil number uid (calls_eq_nil done)
        intro call live
        simp [State.live, answered, waiting] at live
    | answer succeeded => trivial
    | acknowledge alive =>
        have same : alive = !(world.devices number).trapped := acts
        rw [same, step_trapped taken running]
        rfl

/-- The record that the server will keep changes only with a gesture. -/
theorem upcoming_step (settled : Settled number uid world) {event : Event}
    (stays : event.By number Gesture.stays) (done : world.WritesDone event)
    (reply : event.isGesture = false) (taken : world.step event = some next) :
    (next.replica number uid).upcoming = (world.replica number uid).upcoming := by
  rcases (settled.step stays done taken).2 with same | ⟨action, acts, stepped⟩
  · rw [same]
  · cases action with
    | issue values =>
        obtain ⟨made, snapshot, rfl, _⟩ := acts
        cases reply
    | answer succeeded =>
        obtain ⟨index, answer, flight, rfl, found, called, applied⟩ := acts
        have sent : succeeded = true := by
          apply applied
          exact done flight found (Request.isWrite_of_call called)
        exact State.upcoming_step stepped (by simp [sent])
    | acknowledge alive => exact State.upcoming_step stepped (by simp)

/-- No write in flight leaves the cached record equal to the server document. -/
theorem agree (settled : Settled number uid world) (running : (world.devices number).trapped = false)
    (writes : ∀ flight ∈ world.flights, flight.request.isWrite = false) :
    ∃ record, (world.devices number).defaults = some record ∧ world.store.data .user uid = some record ∧
      (world.replica number uid).upcoming = record := by
  obtain ⟨kept, hasKept⟩ := settled.cached
  obtain ⟨stored, hasStored⟩ := settled.stored
  obtain ⟨answered, waiting⟩ := replica_eq_nil number uid (calls_eq_nil writes)
  have agree := (settled.synced running).agree answered
  have same : kept = stored := by simpa [replica, hasKept, hasStored] using agree
  refine ⟨kept, hasKept, same ▸ hasStored, ?_⟩
  unfold State.upcoming
  rw [waiting]
  simp [replica, hasStored, same]

end Settled

/-- Answers and callbacks keep the accumulator and the payment of every screen. -/
theorem step_checkout {world next : World} {event : Event} (reply : event.isGesture = false)
    (taken : world.step event = some next) (number : Nat) :
    (next.devices number).screen.purchasedItemIds = (world.devices number).screen.purchasedItemIds ∧
      (next.devices number).screen.payment = (world.devices number).screen.payment := by
  cases event with
  | gesture device made => cases reply
  | serve index answer =>
      obtain ⟨device, request, _, served⟩ := step_serve.mp taken
      rcases serve_cases served with ⟨_, rfl⟩ | ⟨_, _, rfl⟩ | ⟨uid, isEmailVerified, _, _, rfl⟩
      · exact ⟨rfl, rfl⟩
      · exact ⟨rfl, rfl⟩
      · obtain ⟨auth, _, signedIn⟩ := world.signIn_device device number uid
        simp [record, signedIn]
  | callback index uuid =>
      obtain ⟨device, request, answered, _, _, rfl⟩ := step_callback.mp taken
      by_cases same : number = device
      · subst same
        simp only [callback, perform, Function.update_self]
        split
        · exact ⟨rfl, rfl⟩
        · exact (Request.complete_checkout uuid request answered (world.devices number)).2
      · simp [callback, perform, Function.update_of_ne same]

end World

/-- The decoded identifiers of the rows are all of their identifiers. -/
theorem filterMap_of_mapM {items : List Item} {itemIds : List String}
    (mapped : items.mapM (fun item => item.id) = some itemIds) :
    items.filterMap (fun item => item.id) = itemIds := by
  induction items generalizing itemIds with
  | nil => exact Option.some.inj mapped
  | cons item rest ih =>
      rw [List.mapM_cons] at mapped
      simp only [Option.bind_eq_bind, Option.bind_eq_some_iff, Option.pure_def, Option.some.injEq]
        at mapped
      obtain ⟨itemId, hasId, ids, tail, rfl⟩ := mapped
      rw [List.filterMap_cons, hasId, ih tail]

/-- A checkout tap that presents a payment appends the identifiers of the rows to the accumulator. -/
theorem Device.checkOutButtonWasTapped_presents {device : Device} {processable : Bool}
    (idle : device.screen.payment = none)
    (presents : (device.checkOutButtonWasTapped processable).device.screen.payment ≠ none) :
    ∃ user, device.currentUser = some (some user) ∧
      (device.checkOutButtonWasTapped processable).device.screen.purchasedItemIds =
        device.screen.purchasedItemIds ++ device.screen.allItems.filterMap fun item => item.id := by
  unfold checkOutButtonWasTapped withCurrentUser at presents ⊢
  split at presents
  · exact absurd idle presents
  · exact absurd idle presents
  · rename_i user current
    refine ⟨user, current, ?_⟩
    dsimp only at presents ⊢
    split at presents
    · rename_i onBoard
      rw [if_pos onBoard]
      unfold payButtonPressed at presents ⊢
      split at presents
      · rename_i names prices itemIds _ _ hasIds
        rw [filterMap_of_mapM hasIds]
        rfl
      · exact absurd idle presents
    · exact absurd idle presents

namespace World

/-- One device uses the basket screen, and every write is done before the next gesture. -/
def UsesBasketScreen (number : Nat) (world : World) (event : Event) : Prop :=
  event.By number Gesture.usesBasketScreen ∧ world.WritesDone event

instance (number : Nat) (world : World) (event : Event) : Decidable (world.UsesBasketScreen number event) :=
  inferInstanceAs (Decidable (_ ∧ _))

variable {world next final : World} {number : Nat} {uid : String}

theorem Settled.uses (settled : Settled number uid world) {event : Event}
    (uses : world.UsesBasketScreen number event) (taken : world.step event = some next) :
    Settled number uid next := by
  refine (settled.step (uses.1.mono ?_) uses.2 taken).1
  intro gesture listed
  cases gesture <;> first | rfl | cases listed

/-- Answers and callbacks keep the accumulator, the payment, and the upcoming record. -/
theorem Settled.replies (settled : Settled number uid world) {events : List Event}
    (met : world.Along (UsesBasketScreen number) events) (replies : ∀ event ∈ events, event.isGesture = false)
    (ran : world.run events = some final) :
    Settled number uid final ∧
      (final.devices number).screen.purchasedItemIds = (world.devices number).screen.purchasedItemIds ∧
      (final.devices number).screen.payment = (world.devices number).screen.payment ∧
      (final.replica number uid).upcoming = (world.replica number uid).upcoming := by
  refine Transition.run_invariant (fun state => Settled number uid state ∧
    (state.devices number).screen.purchasedItemIds = (world.devices number).screen.purchasedItemIds ∧
    (state.devices number).screen.payment = (world.devices number).screen.payment ∧
    (state.replica number uid).upcoming = (world.replica number uid).upcoming) ?_ ?_
    (met.and (.of_forall replies)) ran
  · intro state event next ⟨settled, ids, payment, upcoming⟩ ⟨uses, reply⟩ taken
    obtain ⟨sameIds, samePayment⟩ := step_checkout reply taken number
    have stays : event.By number Gesture.stays := by
      cases event with
      | gesture device made => cases reply
      | serve index answer => trivial
      | callback index uuid => trivial
    refine ⟨settled.uses uses taken, sameIds.trans ids, samePayment.trans payment, ?_⟩
    exact (settled.upcoming_step stays uses.2 reply taken).trans upcoming
  · exact ⟨settled, rfl, rfl, rfl⟩

/-- A completed payment appends the whole accumulator to the history that the server keeps. -/
theorem Settled.records {paying completed : World} {after : List Event} {user : MUser}
    (settled : Settled number uid paying)
    (met : paying.Along (UsesBasketScreen number) (.gesture number .completePayment :: after))
    (current : (paying.devices number).currentUser = some (some user))
    (completes : paying.step (.gesture number .completePayment) = some completed)
    (drained : completed.run after = some final) (replies : ∀ event ∈ after, event.isGesture = false)
    (answered : ∀ flight ∈ final.flights, flight.request.isWrite = false) :
    final.store.purchasedItemIds uid =
      paying.store.purchasedItemIds uid ++ (paying.devices number).screen.purchasedItemIds := by
  obtain ⟨uses, rest⟩ := met
  obtain ⟨allowed, same⟩ := step_gesture.mp completes
  obtain ⟨record, cached, stored, upcoming⟩ := settled.agree (running_of_allowed allowed) uses.2
  obtain ⟨owner, copy, signedIn, sameCopy, decoded⟩ := Device.currentUser_eq_some current
  obtain rfl : record = copy := Option.some.inj (cached.symm.trans sameCopy)
  have view := Session.gesture_view paying number uid (show Gesture.completePayment.stays = true from rfl)
  rw [← same] at view
  simp only [Gesture.handle, Device.payPalPaymentDidComplete_of_user signedIn cached decoded] at view
  obtain ⟨kept, _, _, later⟩ := (settled.uses uses completes).replies (rest completed completes) replies drained
  obtain ⟨served, hasServed⟩ := kept.stored
  have waiting := (Settled.replica_eq_nil number uid (Settled.calls_eq_nil answered)).2
  have written : served = record.patch (purchasedValues
      (user.purchasedItemIds ++ (paying.devices number).screen.purchasedItemIds)) := by
    have upcomingFinal : (final.replica number uid).upcoming = served := by
      unfold State.upcoming
      rw [waiting]
      simp [replica, hasServed]
    rw [← upcomingFinal, later, view, ← upcoming]
    simp [State.upcoming, List.foldl_append]
  simp only [Store.purchasedItemIds, hasServed, stored, written, Option.map_some, Option.getD_some,
    Dictionary.purchasedItemIds_patch, ← MUser.ofDictionary_purchasedItemIds decoded]
  rfl

/-- The tap that presents a payment has a current user, makes no call, and extends the accumulator. -/
theorem checkOut_presents {tapped presented : World} {processable : Bool}
    (tap : tapped.step (.gesture number (.checkOut processable)) = some presented)
    (presents : (presented.devices number).screen.payment ≠ none) :
    ∃ user, (tapped.devices number).currentUser = some (some user) ∧
      (presented.replica number uid).upcoming = (tapped.replica number uid).upcoming ∧
      (presented.devices number).screen.purchasedItemIds =
        (tapped.devices number).screen.purchasedItemIds ++
          (tapped.devices number).screen.allItems.filterMap fun item => item.id := by
  obtain ⟨allowed, rfl⟩ := step_gesture.mp tap
  have idle : (tapped.devices number).screen.payment = none := by
    simp only [Gesture.allowed, Bool.and_eq_true, Option.isNone_iff_eq_none] at allowed
    exact allowed.1.2
  have device : ((tapped.perform number (Gesture.handle (.checkOut processable)
      (tapped.devices number))).devices number) =
      ((tapped.devices number).checkOutButtonWasTapped processable).device := by
    simp [World.perform, Gesture.handle]
  have silent : (Gesture.handle (.checkOut processable) (tapped.devices number)).issued.filterMap
      Request.call = [] := by
    apply List.filterMap_eq_nil_iff.mpr
    intro request member
    cases Gesture.issues_of_mem member
  have view := Session.gesture_view tapped number uid (show (Gesture.checkOut processable).stays = true from rfl)
  rw [silent, List.append_nil] at view
  rw [device] at presents ⊢
  obtain ⟨user, current, ids⟩ := Device.checkOutButtonWasTapped_presents idle presents
  exact ⟨user, current, congrArg State.upcoming view, ids⟩

end World

/-- A completed payment records exactly the items of its own payment if and only if the accumulator was
empty at the checkout tap that presented the payment. -/
theorem payment_recorded_iff {world tapped presented paying completed final : World}
    {before between after : List Event} {number : Nat} {uid : String} {record : Dictionary}
    {processable : Bool} (quiet : world.Quiet) (signedIn : (world.devices number).auth = some uid)
    (cached : (world.devices number).defaults = some record)
    (stored : world.store.data .user uid = some record)
    (met : world.Along (World.UsesBasketScreen number)
      (before ++ .gesture number (.checkOut processable) ::
        (between ++ .gesture number .completePayment :: after)))
    (ran : world.run before = some tapped)
    (tap : tapped.step (.gesture number (.checkOut processable)) = some presented)
    (waited : presented.run between = some paying) (presenting : ∀ event ∈ between, event.isGesture = false)
    (completes : paying.step (.gesture number .completePayment) = some completed)
    (drained : completed.run after = some final) (replies : ∀ event ∈ after, event.isGesture = false)
    (answered : ∀ flight ∈ final.flights, flight.request.isWrite = false) :
    (final.store.purchasedItemIds uid : Multiset String) =
        paying.store.purchasedItemIds uid +
          ((tapped.devices number).screen.allItems.filterMap fun item => item.id : List String) ↔
      (tapped.devices number).screen.purchasedItemIds = [] := by
  obtain ⟨session, synced⟩ := quiet.synced signedIn cached stored
  have empty : world.flights = [] := quiet
  obtain ⟨first, rest⟩ := met.append ran
  have atTap : tapped.Settled number uid := by
    refine Transition.run_invariant (World.Settled number uid) ?_ ?_ first ran
    · intro state event next settled uses taken
      exact settled.uses uses taken
    · exact ⟨session, by simp [empty], fun _ => synced⟩
  obtain ⟨waiting, last⟩ := (rest.2 presented tap).append waited
  obtain ⟨atPayment, kept, payment, upcoming⟩ := (atTap.uses rest.1 tap).replies waiting presenting waited
  obtain ⟨tapAllowed, _⟩ := World.step_gesture.mp tap
  obtain ⟨payAllowed, _⟩ := World.step_gesture.mp completes
  have presents : (presented.devices number).screen.payment ≠ none := by
    simp only [Gesture.allowed, Bool.and_eq_true, Option.isSome_iff_ne_none] at payAllowed
    rw [← payment]
    exact payAllowed.2
  obtain ⟨user, current, sameUpcoming, extended⟩ := World.checkOut_presents tap presents
  obtain ⟨early, hasEarly, _, upcomingEarly⟩ := atTap.agree (World.running_of_allowed tapAllowed) rest.1.2
  obtain ⟨late, hasLate, _, upcomingLate⟩ := atPayment.agree (World.running_of_allowed payAllowed) last.1.2
  have sameRecord : late = early := by
    rw [← upcomingLate, upcoming, sameUpcoming, upcomingEarly]
  have sameUser : (paying.devices number).currentUser = (tapped.devices number).currentUser := by
    unfold Device.currentUser
    rw [hasLate, hasEarly, sameRecord, atPayment.auth, atTap.auth]
  have records := atPayment.records last (sameUser.trans current) completes drained replies answered
  rw [records, kept, extended, ← List.append_assoc, ← Multiset.coe_add, ← Multiset.coe_add]
  constructor
  · intro same
    have nothing := add_eq_left.mp (add_right_cancel same)
    exact (Multiset.coe_eq_zero _).mp nothing
  · intro same
    simp [same]

/-- The first checkout tap of a visit leads to a payment that is recorded exactly. -/
theorem payment_recorded_first :
    ∃ tapped presented completed final, (openShop ["a"]).run loadOneItem = some tapped ∧
      tapped.step (.gesture 0 (.checkOut true)) = some presented ∧
      presented.step (.gesture 0 .completePayment) = some completed ∧
      completed.run bothWrites = some final ∧
      (final.store.purchasedItemIds "u" : Multiset String) =
        presented.store.purchasedItemIds "u" +
          ((tapped.devices 0).screen.allItems.filterMap fun item => item.id : List String) := by
  have met : (openShop ["a"]).Along (World.UsesBasketScreen 0)
      (loadOneItem ++ .gesture 0 (.checkOut true) ::
        ([] ++ .gesture 0 .completePayment :: bothWrites)) := by decide
  have quiet : (openShop ["a"]).Quiet := rfl
  refine ⟨_, _, _, _, rfl, rfl, rfl, rfl, ?_⟩
  exact (payment_recorded_iff quiet rfl rfl rfl met rfl rfl rfl (by decide) rfl rfl (by decide)
    (by decide)).mpr rfl

/-- The payment that follows a cancelled one records the items of both. -/
theorem payment_recorded_twice :
    let before := loadOneItem ++ [.gesture 0 (.checkOut true), .gesture 0 .cancelPayment]
    (openShop ["a"]).Along (World.UsesBasketScreen 0)
        (before ++ .gesture 0 (.checkOut true) :: .gesture 0 .completePayment :: bothWrites) ∧
      ∃ tapped presented completed final, (openShop ["a"]).run before = some tapped ∧
        tapped.step (.gesture 0 (.checkOut true)) = some presented ∧
        presented.step (.gesture 0 .completePayment) = some completed ∧
        completed.run bothWrites = some final ∧ final.Quiet ∧
        (final.store.purchasedItemIds "u" : Multiset String) ≠
          presented.store.purchasedItemIds "u" +
            ((tapped.devices 0).screen.allItems.filterMap fun item => item.id : List String) :=
  ⟨by decide, _, _, _, _, rfl, rfl, rfl, rfl, rfl, by decide⟩

end ShoppingApp
