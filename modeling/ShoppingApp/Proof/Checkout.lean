import ShoppingApp.Proof.Payment

namespace ShoppingApp

/-- The write of the purchase history. -/
def Request.isHistory (request : Request) : Bool := request.call.isSome

/-- The write that empties the basket. -/
def Request.isClear : Request → Bool
  | .updateBasket _ _ .emptyTheBasket => true
  | _ => false

/-- The server applies a request when it answers without a failure. -/
def World.applied (world : World) : Event → List Request
  | .serve index answer =>
      if answer.succeeds then (world.flights[index]?.map fun flight => flight.request).toList else []
  | .gesture _ _ | .callback _ _ => []

namespace World

/-- A completed payment leads to these requests. -/
def CheckoutRequest (uid name : String) (values userObject : Dictionary) (request : Request) : Prop :=
  request = .updateUser uid values userObject ∨
    request = .updateBasket name (itemIdsValues []) .emptyTheBasket ∨
    ∃ itemId download, request = .getItem itemId download

/-- The two documents of a checkout are as the applied writes left them. -/
structure CheckedOut (uid name : String) (profile data values userObject : Dictionary) (world : World)
    (applied : List Request) : Prop where
  user : world.store.data .user uid =
    some (if applied.any Request.isHistory then profile.patch values else profile)
  basket : world.store.data .basket name =
    some (if applied.any Request.isClear then data.patch (itemIdsValues []) else data)
  flights : ∀ flight ∈ world.flights, CheckoutRequest uid name values userObject flight.request

namespace CheckedOut

variable {uid name : String} {profile data values userObject : Dictionary} {world next : World}
  {past : List Request}

theorem answer (checked : CheckedOut uid name profile data values userObject world past)
    {request : Request} (one : CheckoutRequest uid name values userObject request) :
    (world.store.answer request).1.data .user uid =
        some (if (past ++ [request]).any Request.isHistory then profile.patch values else profile) ∧
      (world.store.answer request).1.data .basket name =
        some (if (past ++ [request]).any Request.isClear then data.patch (itemIdsValues []) else data) := by
  rw [Store.answer_user, Store.answer_basket, checked.user, checked.basket, List.any_append, List.any_append]
  rcases one with rfl | rfl | ⟨itemId, download, rfl⟩
  · refine ⟨?_, ?_⟩
    · cases past.any Request.isHistory <;>
        simp [Request.onUser, Request.isHistory, Request.call, Record.patch_patch_self]
    · simp [Request.onBasket, Request.isClear]
  · refine ⟨?_, ?_⟩
    · simp [Request.onUser, Request.isHistory, Request.call]
    · cases past.any Request.isClear <;> simp [Request.onBasket, Request.isClear, Record.patch_patch_self]
  · simp [Request.onUser, Request.onBasket, Request.isHistory, Request.isClear, Request.call]

theorem step (checked : CheckedOut uid name profile data values userObject world past) {event : Event}
    (reply : event.isGesture = false) (taken : world.step event = some next) :
    CheckedOut uid name profile data values userObject next (past ++ world.applied event) := by
  cases event with
  | gesture device made => cases reply
  | serve index answer =>
      obtain ⟨device, request, found, served⟩ := step_serve.mp taken
      have one : CheckoutRequest uid name values userObject request :=
        checked.flights _ (List.mem_of_getElem? found)
      have kept : ∀ answered, ∀ flight ∈ world.flights.set index ⟨device, request, some answered⟩,
          CheckoutRequest uid name values userObject flight.request :=
        fun answered => Pool.forall_set checked.flights one
      rcases serve_cases served with ⟨rfl, rfl⟩ | ⟨rfl, _, rfl⟩ | ⟨account, isEmailVerified, _, auth, _⟩
      · have nothing : world.applied (.serve index .failure) = [] := rfl
        rw [nothing, List.append_nil]
        exact ⟨checked.user, checked.basket, kept _⟩
      · have applied : world.applied (.serve index .success) = [request] := by
          simp [World.applied, Answer.succeeds, found]
        rw [applied]
        obtain ⟨user, basket⟩ := checked.answer one
        exact ⟨user, basket, kept _⟩
      · rcases one with rfl | rfl | ⟨itemId, download, rfl⟩ <;> cases auth
  | callback index uuid =>
      obtain ⟨device, request, answered, found, _, rfl⟩ := step_callback.mp taken
      have nothing : world.applied (.callback index uuid) = [] := rfl
      rw [nothing, List.append_nil]
      refine ⟨checked.user, checked.basket, ?_⟩
      have one : CheckoutRequest uid name values userObject request :=
        checked.flights _ (List.mem_of_getElem? found)
      apply forall_perform
      · exact Pool.forall_eraseIdx checked.flights
      · intro issued inside
        split at inside
        · cases inside
        · rcases one with rfl | rfl | ⟨itemId, download, rfl⟩
          · cases Request.follows_of_mem inside
          · cases Request.follows_of_mem inside with
            | readEmptied => exact .inr (.inr ⟨_, _, rfl⟩)
          · cases Request.follows_of_mem inside

end CheckedOut

variable {world completed final : World} {rest : List Event} {number : Nat} {uid name : String}
  {record profile data : Dictionary} {user : MUser} {copy : Basket}

/-- A completed payment on a quiet server leads to the two writes of its checkout. -/
theorem Quiet.checkedOut (quiet : world.Quiet) (signedIn : (world.devices number).auth = some uid)
    (cached : (world.devices number).defaults = some record) (decoded : MUser.ofDictionary record = some user)
    (hasBasket : (world.devices number).screen.basket = some copy) (hasName : copy.id = some name)
    (account : world.store.data .user uid = some profile) (stored : world.store.data .basket name = some data)
    (completes : world.step (.gesture number .completePayment) = some completed) :
    let values := purchasedValues (user.purchasedItemIds ++ (world.devices number).screen.purchasedItemIds)
    CheckedOut uid name profile data values (record.patch values) completed [] := by
  obtain ⟨_, rfl⟩ := step_gesture.mp completes
  have empty : world.flights = [] := quiet
  refine ⟨account, stored, ?_⟩
  apply forall_perform
  · simp [empty]
  · intro request inside
    cases Gesture.issues_of_mem inside with
    | recordPurchase sameUid sameRecord sameUser =>
        obtain rfl := Option.some.inj (signedIn.symm.trans sameUid)
        obtain rfl := Option.some.inj (cached.symm.trans sameRecord)
        obtain rfl := Option.some.inj (decoded.symm.trans sameUser)
        exact .inl rfl
    | emptyTheBasket sameBasket sameName =>
        obtain rfl := Option.some.inj (hasBasket.symm.trans sameBasket)
        obtain rfl := Option.some.inj (hasName.symm.trans sameName)
        exact .inr (.inl rfl)

/-- The log of the applied requests describes the two documents after any answers and callbacks. -/
theorem CheckedOut.run {values userObject : Dictionary}
    (checked : CheckedOut uid name profile data values userObject completed [])
    (replies : ∀ event ∈ rest, event.isGesture = false) (ran : completed.run rest = some final) :
    CheckedOut uid name profile data values userObject final
      (Transition.log World.step World.applied completed rest) := by
  have preserved : ∀ (state : World) (event : Event) (next : World) (past : List Request),
      CheckedOut uid name profile data values userObject state past → event.isGesture = false →
      state.step event = some next →
      CheckedOut uid name profile data values userObject next (past ++ state.applied event) :=
    fun _ _ _ _ checked reply taken => checked.step reply taken
  have logged := Transition.run_log _ preserved checked (.of_forall replies) ran
  rwa [List.nil_append] at logged

/-- The applied writes decide the history and the basket of the account. -/
theorem CheckedOut.contents {paid : List String} {userObject : Dictionary} {applied : List Request}
    (checked : CheckedOut uid name profile data (purchasedValues (user.purchasedItemIds ++ paid)) userObject
      final applied) :
    final.store.purchasedItemIds uid =
        (if applied.any Request.isHistory then user.purchasedItemIds ++ paid else profile.purchasedItemIds) ∧
      final.store.itemIds name = (if applied.any Request.isClear then [] else data.itemIds) := by
  unfold Store.purchasedItemIds Store.itemIds
  rw [checked.user, checked.basket]
  refine ⟨?_, ?_⟩
  · cases applied.any Request.isHistory with
    | false => rfl
    | true => simp
  · cases applied.any Request.isClear with
    | false => rfl
    | true => simp

/-- The writes that succeed must fit the cached history, the server history, and the server basket. -/
def ConservingOutcome (history clear : Bool) (cached paid purchased basket : Multiset String) : Prop :=
  match history, clear with
  | false, false => True
  | true, true => cached + paid = purchased + basket ∧ basket ≤ paid
  | false, true => basket = 0
  | true, false => cached + paid = purchased

instance (cached paid purchased basket : Multiset String) :
    ∀ history clear, Decidable (ConservingOutcome history clear cached paid purchased basket)
  | false, false => inferInstanceAs (Decidable True)
  | true, true => inferInstanceAs (Decidable (_ ∧ _))
  | false, true => inferInstanceAs (Decidable (_ = _))
  | true, false => inferInstanceAs (Decidable (_ = _))

theorem conservingOutcome_iff (history clear : Bool) (cached paid purchased basket : Multiset String) :
    ((if history then cached + paid else purchased) + (if clear then 0 else basket) = purchased + basket ∧
        basket ≤ (if clear then 0 else basket) + paid) ↔
      ConservingOutcome history clear cached paid purchased basket := by
  have grows : basket ≤ basket + paid := Multiset.le_add_right basket paid
  cases history with
  | false =>
      cases clear with
      | false => simp [ConservingOutcome, grows]
      | true =>
          simp only [ConservingOutcome, if_true, Bool.false_eq_true, if_false, add_zero, zero_add, left_eq_add]
          constructor
          · exact And.left
          · intro empty
            exact ⟨empty, empty ▸ Multiset.zero_le _⟩
  | true =>
      cases clear with
      | false => simp [ConservingOutcome, grows]
      | true => simp [ConservingOutcome]

end World

/-- A completed payment keeps the occurrences in the history and the basket, and it takes only paid ones
out of the basket, if and only if the outcomes of its two writes fit the contents before it. -/
theorem checkout_conserves_iff {world completed final : World} {rest : List Event} {number : Nat}
    {uid name : String} {record profile data : Dictionary} {user : MUser} {copy : Basket}
    (quiet : world.Quiet) (signedIn : (world.devices number).auth = some uid)
    (cached : (world.devices number).defaults = some record) (decoded : MUser.ofDictionary record = some user)
    (hasBasket : (world.devices number).screen.basket = some copy) (hasName : copy.id = some name)
    (account : world.store.data .user uid = some profile) (stored : world.store.data .basket name = some data)
    (completes : world.step (.gesture number .completePayment) = some completed)
    (replies : ∀ event ∈ rest, event.isGesture = false) (ran : completed.run rest = some final) :
    let paid : Multiset String := (world.devices number).screen.purchasedItemIds
    let purchased : Multiset String := world.store.purchasedItemIds uid
    let basket : Multiset String := world.store.itemIds name
    let applied := Transition.log World.step World.applied completed rest
    ((final.store.purchasedItemIds uid : Multiset String) + final.store.itemIds name = purchased + basket ∧
        basket ≤ final.store.itemIds name + paid) ↔
      World.ConservingOutcome (applied.any Request.isHistory) (applied.any Request.isClear)
        user.purchasedItemIds paid purchased basket := by
  intro paid purchased basket applied
  have start := quiet.checkedOut signedIn cached decoded hasBasket hasName account stored completes
  have checked := start.run replies ran
  obtain ⟨history, items⟩ := checked.contents
  have before : world.store.purchasedItemIds uid = profile.purchasedItemIds := by
    simp [Store.purchasedItemIds, account]
  have held : world.store.itemIds name = data.itemIds := by
    simp [Store.itemIds, stored]
  rw [history, items, ← before, ← held, ← World.conservingOutcome_iff]
  cases applied.any Request.isHistory <;> cases applied.any Request.isClear <;> rfl

/-- The user checks out a basket of one item. -/
def presentPayment : List Event := loadOneItem ++ [.gesture 0 (.checkOut true)]

/-- Both writes succeed for a basket that was shown in full. -/
theorem checkout_conserves_shown :
    ∃ world completed final, (openShop ["a"]).run presentPayment = some world ∧
      world.step (.gesture 0 .completePayment) = some completed ∧
      completed.run bothWrites = some final ∧ final.Quiet ∧
      ((final.store.purchasedItemIds "u" : Multiset String) + final.store.itemIds "d" =
          (world.store.purchasedItemIds "u" : Multiset String) + world.store.itemIds "d" ∧
        (world.store.itemIds "d" : Multiset String) ≤
          (final.store.itemIds "d" : Multiset String) + (world.devices 0).screen.purchasedItemIds) := by
  refine ⟨_, _, _, rfl, rfl, rfl, rfl, ?_⟩
  have quiet : World.Quiet (((openShop ["a"]).run presentPayment).get rfl) := rfl
  have replies : ∀ event ∈ bothWrites, event.isGesture = false := by decide
  exact (checkout_conserves_iff quiet rfl rfl rfl rfl rfl rfl rfl rfl replies rfl).mpr (by decide)

/-- The other device adds an item while the payment is presented, and the clear loses it. -/
theorem checkout_loses_added :
    let added := [.gesture 1 (.addToBasket (soldItem "b")), .serve 0 .success, .callback 0 "n",
      .serve 0 .success, .callback 0 "n"]
    ∃ world completed final, (openShop ["a"]).run (presentPayment ++ added) = some world ∧ world.Quiet ∧
      (world.devices 0).screen.purchasedItemIds =
        ((world.devices 0).screen.allItems.filterMap fun item => item.id) ∧
      world.step (.gesture 0 .completePayment) = some completed ∧
      completed.run bothWrites = some final ∧ final.Quiet ∧
      (final.store.purchasedItemIds "u" : Multiset String) + final.store.itemIds "d" ≠
        (world.store.purchasedItemIds "u" : Multiset String) + world.store.itemIds "d" :=
  ⟨_, _, _, rfl, rfl, rfl, rfl, rfl, rfl, by decide⟩

end ShoppingApp
