import ShoppingApp.Proof.CacheAgreement

namespace ShoppingApp

/-- A waiting call will write this history to the document of the account. -/
def Flight.waitingHistory (uid : String) (flight : Flight) : Option (Multiset String) :=
  match flight.reply, flight.request with
  | none, .updateUser name values _ =>
      if name = uid ∧ values .purchasedItemIds ≠ none then some values.purchasedItemIds else none
  | _, _ => none

/-- These requests neither change the account nor replace a user document. -/
def Request.keepsSession : Request → Bool
  | .getUser _ _ | .setUser _ _ | .signIn _ | .createUser _ => false
  | _ => true

theorem Request.isAuth_of_keepsSession {request : Request} (keeps : request.keepsSession = true) :
    request.isAuth = false := by
  cases request with
  | signIn email => cases keeps
  | createUser email => cases keeps
  | _ => rfl

/-- Only a waiting call writes a history. -/
theorem Flight.waitingHistory_eq_none {uid : String} {flight : Flight}
    (silent : flight.waitingCall = none) : flight.waitingHistory uid = none := by
  obtain ⟨device, request, reply⟩ := flight
  cases reply with
  | some reply => rfl
  | none =>
      cases request with
      | updateUser name values userObject => cases silent
      | _ => rfl

/-- The screens offer these gestures to one account that stays signed in. -/
def Gesture.shops (gesture : Gesture) : Bool :=
  gesture.stays && match gesture with
    | .updateUser _ => false
    | _ => true

def Gesture.pays : Gesture → Bool
  | .completePayment => true
  | _ => false

namespace World

/-- The history on the server comes first, and then the histories of the waiting calls. -/
def histories (world : World) (uid : String) : List (Multiset String) :=
  (world.store.purchasedItemIds uid : Multiset String) :: world.flights.filterMap (Flight.waitingHistory uid)

/-- The cached record of a paying user contains every history that was issued for the account. -/
def HistoryCached (world : World) : Event → Prop
  | .gesture number made => made.pays = true →
      ∀ uid ∈ (world.devices number).auth, ∀ user ∈ (world.devices number).currentUser.join,
        ∀ history ∈ world.histories uid, history ≤ user.purchasedItemIds
  | .serve _ _ | .callback _ _ => True

instance (world : World) : ∀ event, Decidable (world.HistoryCached event)
  | .gesture _ made => inferInstanceAs (Decidable (made.pays = true → ∀ _ ∈ _, ∀ _ ∈ _, ∀ _ ∈ _, _ ≤ _))
  | .serve _ _ | .callback _ _ => inferInstanceAs (Decidable True)

/-- The histories grow along the order of their calls. -/
structure Growing (uid : String) (world : World) : Prop where
  requests : ∀ flight ∈ world.flights, flight.request.keepsSession = true
  chain : (world.histories uid).Pairwise (· ≤ ·)

end World

theorem Dictionary.purchasedItemIds_patch (base values : Dictionary) :
    Dictionary.purchasedItemIds (base.patch values) =
      if values .purchasedItemIds = none then base.purchasedItemIds else values.purchasedItemIds := by
  unfold Dictionary.purchasedItemIds Dictionary.read Record.patch
  cases values .purchasedItemIds <;> rfl

namespace World.Growing

variable {world next : World} {number : Nat} {uid : String}

/-- Only a completed payment issues a history, and it extends the cached one. -/
theorem history_of_issued {gesture : Gesture} {device : Device} {request : Request}
    {history : Multiset String} (shops : gesture.shops = true)
    (member : request ∈ (gesture.handle device).issued)
    (written : Flight.waitingHistory uid ⟨number, request, none⟩ = some history) :
    gesture = .completePayment ∧ ∃ user, device.auth = some uid ∧
      device.currentUser = some (some user) ∧
      history = (user.purchasedItemIds ++ device.screen.purchasedItemIds : List String) := by
  cases Gesture.issues_of_mem member with
  | recordPurchase signedIn cached decoded =>
      simp only [Flight.waitingHistory] at written
      split at written
      · rename_i named
        obtain rfl := Option.some.inj written
        refine ⟨rfl, _, named.1 ▸ signedIn, ?_, rfl⟩
        simp [Device.currentUser, signedIn, cached, decoded]
      · cases written
  | saveProfile signedIn cached => simp [Flight.waitingHistory, profileValues, Record.ofArrays] at written
  | finishOnboarding signedIn cached =>
      simp [Flight.waitingHistory, onboardingValues, Record.ofArrays] at written
  | updateUser signedIn cached => cases shops
  | _ => cases written

theorem issued_keepsSession {gesture : Gesture} {device : Device} {request : Request}
    (stays : gesture.stays = true) (member : request ∈ (gesture.handle device).issued) :
    request.keepsSession = true := by
  cases Gesture.issues_of_mem member with
  | login => cases stays
  | register => cases stays
  | _ => rfl

/-- The requests of a completion keep the session, and none of them is a call. -/
theorem follows_keepsSession {request issued : Request} {reply : Reply} {uuid : String} {device : Device}
    (keeps : request.keepsSession = true)
    (member : issued ∈ (request.complete uuid reply device).issued) :
    issued.keepsSession = true ∧ Flight.waitingHistory uid ⟨number, issued, none⟩ = none := by
  cases Request.follows_of_mem member with
  | saveUser missing => cases keeps
  | downloadUser => cases keeps
  | _ => exact ⟨rfl, rfl⟩

theorem gesture (growing : Growing uid world) {gesture : Gesture} (shops : gesture.shops = true)
    (cached : world.HistoryCached (.gesture number gesture)) :
    Growing uid (world.perform number (gesture.handle (world.devices number))) := by
  have stays : gesture.stays = true := (Bool.and_eq_true_iff.mp shops).1
  let issued := (gesture.handle (world.devices number)).issued.map fun request =>
    (⟨number, request, none⟩ : Flight)
  have view : (world.perform number (gesture.handle (world.devices number))).histories uid =
      world.histories uid ++ issued.filterMap (Flight.waitingHistory uid) := by
    simp only [histories, World.perform, List.filterMap_append, List.cons_append, issued]
  have new : ∀ history ∈ issued.filterMap (Flight.waitingHistory uid), gesture = .completePayment ∧
      ∃ user, (world.devices number).auth = some uid ∧
        (world.devices number).currentUser = some (some user) ∧
        history = (user.purchasedItemIds ++ (world.devices number).screen.purchasedItemIds : List String) := by
    intro history member
    obtain ⟨flight, present, written⟩ := List.mem_filterMap.mp member
    obtain ⟨request, inside, rfl⟩ := List.mem_map.mp present
    exact history_of_issued shops inside written
  refine ⟨?_, ?_⟩
  · exact forall_perform growing.requests fun request => issued_keepsSession stays
  · rw [view]
    apply List.pairwise_append.mpr
    refine ⟨growing.chain, ?_, ?_⟩
    · apply List.Pairwise.imp_of_mem _ (List.pairwise_of_forall fun _ _ => trivial)
      intro first second memberFirst memberSecond _
      obtain ⟨_, user, _, current, rfl⟩ := new first memberFirst
      obtain ⟨_, other, _, sameUser, rfl⟩ := new second memberSecond
      obtain rfl := Option.some.inj (Option.some.inj (current.symm.trans sameUser))
      exact le_rfl
    · intro earlier memberEarlier history member
      obtain ⟨rfl, user, signedIn, current, rfl⟩ := new history member
      have known : user ∈ (world.devices number).currentUser.join := by rw [current]; rfl
      have contained := cached rfl uid signedIn user known earlier memberEarlier
      rw [← Multiset.coe_add]
      exact contained.trans (Multiset.le_add_right _ _)

/-- An applied request keeps the history on the server or writes the history of its call. -/
theorem answer_history (store : Store) (uid : String) (number : Nat) {request : Request}
    (keeps : request.keepsSession = true) :
    (store.answer request).1.purchasedItemIds uid = store.purchasedItemIds uid ∨
      Flight.waitingHistory uid ⟨number, request, none⟩ =
        some ((store.answer request).1.purchasedItemIds uid : Multiset String) := by
  unfold Store.purchasedItemIds
  rw [Store.answer_user]
  cases request with
  | getUser userId email => cases keeps
  | setUser name data => cases keeps
  | signIn email => cases keeps
  | createUser email => cases keeps
  | updateUser name values userObject =>
      by_cases own : name = uid
      · cases found : store.data .user uid with
        | none => simp [Request.onUser]
        | some old =>
            by_cases named : values .purchasedItemIds = none
            · simp [Request.onUser, own, Dictionary.purchasedItemIds_patch, named]
            · simp [Request.onUser, own, Dictionary.purchasedItemIds_patch, named, Flight.waitingHistory]
      · simp [Request.onUser, own]
  | _ => exact .inl rfl

/-- The answers consume the histories from the front. -/
theorem serve (growing : Growing uid world) {index device : Nat} {request : Request} {answer : Answer}
    (inOrder : world.InIssueOrder (.serve index answer))
    (found : world.flights[index]? = some ⟨device, request, none⟩)
    (served : world.serve index device request answer = some next) :
    (∀ flight ∈ next.flights, flight.request.keepsSession = true) ∧
      (next.histories uid).Sublist (world.histories uid) := by
  have keeps : request.keepsSession = true := growing.requests _ (List.mem_of_getElem? found)
  have whole := Pool.filterMap_split (Flight.waitingHistory uid) found
  have replied : ∀ reply, (world.flights.set index ⟨device, request, some reply⟩).filterMap
        (Flight.waitingHistory uid) =
      (world.flights.take index).filterMap (Flight.waitingHistory uid) ++
        (world.flights.drop (index + 1)).filterMap (Flight.waitingHistory uid) := by
    intro reply
    rw [Pool.filterMap_set _ found]
    rfl
  have shorter : ((world.flights.take index).filterMap (Flight.waitingHistory uid) ++
        (world.flights.drop (index + 1)).filterMap (Flight.waitingHistory uid)).Sublist
      (world.flights.filterMap (Flight.waitingHistory uid)) := by
    rw [whole]
    exact (List.Sublist.refl _).append (List.sublist_append_right _ _)
  rcases serve_cases served with ⟨_, rfl⟩ | ⟨_, _, rfl⟩ | ⟨name, isEmailVerified, _, auth, _⟩
  · refine ⟨Pool.forall_set growing.requests keeps, ?_⟩
    simp only [histories, World.record, replied]
    exact shorter.cons_cons _
  · refine ⟨Pool.forall_set growing.requests keeps, ?_⟩
    simp only [histories, World.record, replied]
    rcases answer_history world.store uid device keeps with same | written
    · rw [same]
      exact shorter.cons_cons _
    · have early : (world.flights.take index).filterMap (Flight.waitingHistory uid) = [] := by
        apply List.filterMap_eq_nil_iff.mpr
        intro earlier member
        rcases inOrder with silent | waiting
        · have none : Flight.waitingHistory uid ⟨device, request, none⟩ = none :=
            Flight.waitingHistory_eq_none (by rwa [found] at silent)
          exact absurd (none.symm.trans written) (by simp)
        · exact Flight.waitingHistory_eq_none (waiting earlier member)
      rw [whole, early, written]
      exact (List.Sublist.refl _).cons _
  · rw [Request.isAuth_of_keepsSession keeps] at auth
    cases auth

/-- A callback leaves the histories as they are. -/
theorem callback (growing : Growing uid world) {index device : Nat} {request : Request} {reply : Reply}
    (uuid : String) (found : world.flights[index]? = some ⟨device, request, some reply⟩) :
    (∀ flight ∈ (world.callback index device request reply uuid).flights,
        flight.request.keepsSession = true) ∧
      (world.callback index device request reply uuid).histories uid = world.histories uid := by
  have keeps : request.keepsSession = true := growing.requests _ (List.mem_of_getElem? found)
  let outcome := if (world.devices device).trapped then (world.devices device).done
    else request.complete uuid reply (world.devices device)
  have issued : ∀ other ∈ outcome.issued, other.keepsSession = true ∧
      Flight.waitingHistory uid ⟨device, other, none⟩ = none := by
    intro other member
    unfold outcome at member
    split at member
    · cases member
    · exact follows_keepsSession keeps member
  have flights : (world.callback index device request reply uuid).flights =
      world.flights.eraseIdx index ++ outcome.issued.map fun other => ⟨device, other, none⟩ := rfl
  refine ⟨?_, ?_⟩
  · apply forall_perform
    · exact Pool.forall_eraseIdx growing.requests
    · exact fun other inside => (issued other inside).1
  · unfold histories
    apply congrArg
    rw [flights, Pool.filterMap_append_silent, Pool.filterMap_eraseIdx_silent _ found rfl]
    intro flight member
    obtain ⟨other, inside, rfl⟩ := List.mem_map.mp member
    exact (issued other inside).2

/-- Every step keeps the order of the histories, and the history on the server grows. -/
theorem step (growing : Growing uid world) {event : Event} (shops : event.By number Gesture.shops)
    (inOrder : world.InIssueOrder event) (cached : world.HistoryCached event)
    (taken : world.step event = some next) :
    Growing uid next ∧
      (world.store.purchasedItemIds uid : Multiset String) ≤ next.store.purchasedItemIds uid := by
  cases event with
  | gesture device made =>
      obtain ⟨rfl, shops⟩ := shops
      obtain ⟨_, rfl⟩ := step_gesture.mp taken
      exact ⟨growing.gesture shops cached, le_rfl⟩
  | serve index answer =>
      obtain ⟨device, request, found, served⟩ := step_serve.mp taken
      obtain ⟨requests, consumed⟩ := growing.serve inOrder found served
      refine ⟨⟨requests, growing.chain.sublist consumed⟩, ?_⟩
      rcases List.mem_cons.mp (consumed.subset List.mem_cons_self) with same | later
      · exact same.ge
      · exact (List.pairwise_cons.mp growing.chain).1 _ later
  | callback index uuid =>
      obtain ⟨device, request, reply, found, _, rfl⟩ := step_callback.mp taken
      obtain ⟨requests, same⟩ := growing.callback uuid found
      exact ⟨⟨requests, same ▸ growing.chain⟩, le_rfl⟩

end World.Growing

namespace World

/-- One device shops, saves profiles, and pays, and its calls are applied and acknowledged in the order
of their issue. -/
def Shopping (number : Nat) (world : World) (event : Event) : Prop :=
  event.By number Gesture.shops ∧ world.InIssueOrder event

instance (number : Nat) (world : World) (event : Event) : Decidable (world.Shopping number event) :=
  inferInstanceAs (Decidable (_ ∧ _))

end World

/-- No step takes a purchase away, if each payment completes with a cached record that contains the
histories issued before. -/
theorem history_grows {world middle next : World} {events : List Event} {event : Event} {number : Nat}
    (quiet : world.Quiet)
    (met : world.Along (fun world event => world.Shopping number event ∧ world.HistoryCached event)
      (events ++ [event]))
    (ran : world.run events = some middle) (taken : middle.step event = some next) (uid : String) :
    (middle.store.purchasedItemIds uid : Multiset String) ≤ next.store.purchasedItemIds uid := by
  obtain ⟨before, last⟩ := met.append ran
  have growing : middle.Growing uid := by
    refine Transition.run_invariant (World.Growing uid) ?_ ?_ before ran
    · intro state event next growing ⟨⟨shops, inOrder⟩, cached⟩ taken
      exact (growing.step shops inOrder cached taken).1
    · have empty : world.flights = [] := quiet
      refine ⟨?_, ?_⟩
      · simp [empty]
      · simp [World.histories, empty]
  obtain ⟨⟨shops, inOrder⟩, cached⟩ := last.1
  exact (growing.step shops inOrder cached taken).2

def onboardedUser : MUser := { MUser.new "u" "u@mail" "Ann" "Lee" with onBoard := true }

def soldItem (itemId : String) : Item :=
  { id := itemId, categoryId := "c", name := "Item " ++ itemId, description := "", price := Double.zero,
    imageLinks := some [] }

/-- An onboarded account owns the basket `d`, and the shop sells the items `a` and `b`. -/
def openShop (itemIds : List String) : World :=
  { World.signedInAs "u" onboardedUser with
    store := Store.ofEntries [("u", userDictionaryFrom onboardedUser)]
      [("a", itemDictionaryFrom (soldItem "a")), ("b", itemDictionaryFrom (soldItem "b"))]
      [("d", basketDictionaryFrom { id := "d", ownerId := "u", itemIds := some itemIds })] }

/-- The basket screen loads a basket of one item. -/
def loadOneItem : List Event :=
  [.gesture 0 .viewDidAppear, .serve 0 .success, .callback 0 "n", .serve 0 .success, .callback 0 "n"]

def visitAndPay : List Event :=
  loadOneItem ++ [.gesture 0 (.checkOut true), .gesture 0 .completePayment]

/-- Both writes of a completed payment succeed. -/
def bothWrites : List Event :=
  [.serve 0 .success, .serve 1 .success, .callback 0 "n", .callback 0 "n"]

def addItem (item : Item) : List Event :=
  [.gesture 0 (.addToBasket item), .serve 0 .success, .callback 0 "n", .serve 0 .success, .callback 0 "n"]

/-- A second purchase follows after every request of the first one. -/
def twoPurchases : List Event :=
  visitAndPay ++ bothWrites ++ addItem (soldItem "b") ++ visitAndPay

/-- A second purchase extends the history of the first one. -/
theorem history_grows_twoPurchases :
    ∃ middle next, (openShop ["a"]).run twoPurchases = some middle ∧
      middle.step (.serve 0 .success) = some next ∧
      (middle.store.purchasedItemIds "u" : Multiset String) ≤ next.store.purchasedItemIds "u" := by
  have met : (openShop ["a"]).Along (fun world event =>
      world.Shopping 0 event ∧ world.HistoryCached event) (twoPurchases ++ [.serve 0 .success]) := by
    decide
  have quiet : (openShop ["a"]).Quiet := rfl
  exact ⟨_, _, rfl, rfl, history_grows quiet met rfl rfl "u"⟩

/-- The profile is saved while the first purchase is in flight, and a second purchase follows. -/
def savedProfile : List Event :=
  visitAndPay ++ [.gesture 0 (.saveProfile "Ann" "Lee" "Here"), .serve 0 .success, .serve 1 .success,
    .serve 2 .success, .callback 0 "n", .callback 0 "n", .callback 0 "n"] ++
    addItem (soldItem "b") ++ visitAndPay

/-- The profile copy without the first purchase is saved last, and the second purchase erases the first. -/
theorem history_shrinks :
    (openShop ["a"]).Along (World.Shopping 0) (savedProfile ++ [.serve 0 .success]) ∧
      (∀ event ∈ savedProfile, event.Succeeds) ∧
      ∃ middle next, (openShop ["a"]).run savedProfile = some middle ∧
        middle.step (.serve 0 .success) = some next ∧
        ¬ (middle.store.purchasedItemIds "u" : Multiset String) ≤ next.store.purchasedItemIds "u" :=
  ⟨by decide, by decide, _, _, rfl, rfl, by decide⟩

end ShoppingApp
