import ShoppingApp.Proof.Checkout
import ShoppingApp.Proof.SingleRequest

namespace ShoppingApp

/-- One gesture on an item screen has a read and a write, and the server decides whether they succeed. -/
structure AddAttempt where
  device : Nat
  item : Item
  readOk : Bool
  writeOk : Bool
  uuid : String
  spare : String

def Answer.of (ok : Bool) : Answer := if ok then .success else .failure

@[simp] theorem Answer.succeeds_of (ok : Bool) : (Answer.of ok).succeeds = ok := by cases ok <;> rfl

/-- The requests of the gesture are answered before the next gesture. -/
def AddAttempt.events (attempt : AddAttempt) : List Event :=
  [.gesture attempt.device (.addToBasket attempt.item), .serve 0 (Answer.of attempt.readOk),
    .callback 0 attempt.uuid, .serve 0 (Answer.of attempt.writeOk), .callback 0 attempt.spare]

def AddAttempt.failed (attempt : AddAttempt) : Bool := !(attempt.readOk && attempt.writeOk)

namespace World

def attempt (world : World) (attempt : AddAttempt) : Option World := world.run attempt.events

/-- The gestures are made one at a time. -/
abbrev attempts (world : World) (attempts : List AddAttempt) : Option World :=
  Transition.run World.attempt world attempts

variable {store : Store} {devices : Nat → Device} {number : Nat} {request : Request} {next : World}

/-- This is the write that follows the query of an item screen, under the answer that the query got. -/
inductive AddWrite (store : Store) (uid : String) (attempt : AddAttempt) (itemId : String) : Request → Prop where
  | create (absent : attempt.readOk = false ∨ store.basketsOf uid = [])
      (fresh : store.data .basket attempt.uuid = none) :
      AddWrite store uid attempt itemId
        (.setBasket attempt.uuid (basketDictionaryFrom ⟨some attempt.uuid, some uid, some [itemId]⟩))
  | append {name key : String} {data : Dictionary} {rest : List (String × Dictionary)}
      {itemIds : List String} (readOk : attempt.readOk = true)
      (first : store.basketsOf uid = (key, data) :: rest)
      (hasName : (Basket.ofDictionary data).id = some name)
      (hasItems : (Basket.ofDictionary data).itemIds = some itemIds) :
      AddWrite store uid attempt itemId
        (.updateBasket name (itemIdsValues (itemIds ++ [itemId])) (.addToBasket itemId))

/-- The basket that the completion receives is the first one of a successful query. -/
def queriedBasket (store : Store) (uid : String) (readOk : Bool) : Option Basket :=
  if readOk then (store.basketsOf uid).head?.map fun entry => Basket.ofDictionary entry.2 else none

theorem basket_of_query (uid : String) (item : Item) (readOk : Bool) :
    Reply.basket (if (Answer.of readOk).succeeds then
      (store.answer (.getBaskets uid (.addToBasket item))).2 else .error) = queriedBasket store uid readOk := by
  rw [Answer.succeeds_of]
  cases readOk with
  | false => rfl
  | true => exact store.basket_of_answer uid _

theorem AddWrite.document {attempt : AddAttempt} {uid itemId : String}
    (write : AddWrite store uid attempt itemId request) : request.isAuth = false := by
  cases write <;> rfl

theorem AddWrite.complete {attempt : AddAttempt} {uid itemId : String}
    (write : AddWrite store uid attempt itemId request) (uuid : String) (reply : Reply) (device : Device) :
    request.complete uuid reply device = device.done := by
  cases write <;> rfl

/-- The completion of the query issues nothing or the write that follows it. -/
theorem AddWrite.of_completion {device : Device} {attempt : AddAttempt} {uid : String}
    (signedIn : device.auth = some uid) (fresh : store.data .basket attempt.uuid = none) :
    (device.addToBasketCompletion attempt.item attempt.uuid (queriedBasket store uid attempt.readOk)).issued = [] ∨
      ∃ itemId request, attempt.item.id = some itemId ∧ AddWrite store uid attempt itemId request ∧
        device.addToBasketCompletion attempt.item attempt.uuid (queriedBasket store uid attempt.readOk) =
          device.issue request := by
  rcases Device.addToBasketCompletion_eq signedIn attempt.item attempt.uuid
      (queriedBasket store uid attempt.readOk) with
    silent | ⟨itemId, hasId, absent, created⟩ |
      ⟨itemId, basket, name, itemIds, hasId, found, hasName, hasItems, appended⟩
  · exact .inl silent
  · refine .inr ⟨itemId, _, hasId, .create ?_ fresh, created⟩
    cases readOk : attempt.readOk with
    | false => exact .inl rfl
    | true =>
        rw [queriedBasket, if_pos readOk] at absent
        simpa using absent
  · cases readOk : attempt.readOk with
    | false =>
        rw [queriedBasket, if_neg (by simp [readOk])] at found
        cases found
    | true =>
        rw [readOk] at appended
        rw [queriedBasket, if_pos readOk] at found
        obtain ⟨entry, head, rfl⟩ := Option.map_eq_some_iff.mp found
        obtain ⟨rest, first⟩ := List.head?_eq_some_iff.mp head
        exact .inr ⟨itemId, _, hasId, .append readOk first hasName hasItems, appended⟩

/-- A gesture that runs to its end writes once and leaves the devices as they were. -/
theorem attempt_spec {attempt : AddAttempt} {uid : String} (signedIn : (devices attempt.device).auth = some uid)
    (ran : World.attempt ⟨store, devices, []⟩ attempt = some next) :
    ∃ itemId request, attempt.item.id = some itemId ∧ AddWrite store uid attempt itemId request ∧
      next = ⟨if attempt.writeOk then (store.answer request).1 else store, devices, []⟩ := by
  obtain ⟨asked, tapped, ran⟩ := Transition.run_cons.mp ran
  obtain ⟨answered, read, ran⟩ := Transition.run_cons.mp ran
  obtain ⟨decided, completed, ran⟩ := Transition.run_cons.mp ran
  obtain ⟨written, wrote, ran⟩ := Transition.run_cons.mp ran
  obtain ⟨final, finished, ran⟩ := Transition.run_cons.mp ran
  obtain rfl := Option.some.inj ran
  obtain ⟨_, rfl⟩ := step_gesture.mp tapped
  simp only [Gesture.handle] at read
  rcases Device.addToBasketTapped_eq signedIn attempt.item with silent | query
  · rw [serve_perform_nil silent] at read
    cases read
  · rw [query, perform_issue] at read
    obtain rfl := serve_single rfl read
    have kept : (if (Answer.of attempt.readOk).succeeds then
        (store.answer (.getBaskets uid (.addToBasket attempt.item))).1 else store) = store := ite_self _
    rw [kept] at completed
    obtain ⟨fresh, rfl⟩ := callback_single completed
    by_cases stopped : (devices attempt.device).trapped = true
    · rw [if_pos stopped, serve_perform_nil rfl] at wrote
      cases wrote
    · rw [if_neg stopped] at wrote
      simp only [Request.complete, basket_of_query] at wrote
      rcases AddWrite.of_completion signedIn fresh with silent | ⟨itemId, request, hasId, write, issues⟩
      · rw [serve_perform_nil silent] at wrote
        cases wrote
      · rw [issues, perform_issue] at wrote
        have ended := finish_single write.document (write.complete attempt.spare) wrote finished
        rw [Answer.succeeds_of] at ended
        exact ⟨itemId, request, hasId, write, ended⟩

end World

namespace Store

/-- The basket documents of an account carry their own names. -/
def Named (store : Store) (uid : String) : Prop :=
  ∀ entry ∈ store.basketsOf uid, (Basket.ofDictionary entry.2).id = some entry.1

instance (store : Store) (uid : String) : Decidable (store.Named uid) :=
  inferInstanceAs (Decidable (∀ _ ∈ _, _ = _))

/-- A successful download returns a basket that holds the item. -/
def FirstHolds (store : Store) (uid itemId : String) : Prop :=
  ∃ basket ∈ (store.answer (.getBaskets uid .loadBasket)).2.basket, ∃ itemIds ∈ basket.itemIds,
    itemId ∈ itemIds

instance (store : Store) (uid itemId : String) : Decidable (store.FirstHolds uid itemId) :=
  inferInstanceAs (Decidable (∃ _ ∈ _, ∃ _ ∈ _, _ ∈ _))

variable {store : Store} {uid itemId : String} {attempt : AddAttempt} {request : Request}

/-- The first basket of the query is the one that a download returns. -/
theorem firstHolds_cons {key : String} {data : Dictionary} {rest : List (String × Dictionary)}
    (first : store.basketsOf uid = (key, data) :: rest) :
    store.FirstHolds uid itemId ↔ ∃ itemIds ∈ (Basket.ofDictionary data).itemIds, itemId ∈ itemIds := by
  unfold FirstHolds
  rw [Store.basket_of_answer, first]
  simp

theorem not_firstHolds_nil (none : store.basketsOf uid = []) : ¬ store.FirstHolds uid itemId := by
  unfold FirstHolds
  rw [Store.basket_of_answer, none]
  simp

/-- A creation after a failed read changes the baskets of the account. -/
theorem basketsOf_ne_of_failed_read (written : World.AddWrite store uid attempt itemId request)
    (failed : attempt.readOk = false) : (store.answer request).1.basketsOf uid ≠ store.basketsOf uid := by
  cases written with
  | create absent fresh =>
      intro same
      have longer := (basketsOf_create uid itemId fresh).length_eq
      rw [same, List.length_cons] at longer
      omega
  | append readOk first hasName hasItems =>
      rw [failed] at readOk
      cases readOk

/-- A write after a successful read keeps what the first basket holds and adds the item. -/
theorem firstHolds_of_read (named : store.Named uid) (written : World.AddWrite store uid attempt itemId request)
    (readOk : attempt.readOk = true) :
    (store.answer request).1.Named uid ∧ (store.answer request).1.FirstHolds uid itemId ∧
      ∀ kept, store.FirstHolds uid kept → (store.answer request).1.FirstHolds uid kept := by
  cases written with
  | create absent fresh =>
      have none : store.basketsOf uid = [] := by
        rcases absent with failed | none
        · rw [readOk] at failed
          cases failed
        · exact none
      have single := basketsOf_create uid itemId fresh
      rw [none] at single
      have first := List.perm_singleton.mp single
      refine ⟨?_, ?_, fun kept holds => absurd holds (not_firstHolds_nil none)⟩
      · intro entry member
        rw [first] at member
        obtain rfl := List.mem_singleton.mp member
        rfl
      · exact (firstHolds_cons first).mpr ⟨[itemId], rfl, List.mem_singleton_self itemId⟩
  | @append name key data rest itemIds _ first hasName hasItems =>
      have own : (Basket.ofDictionary data).id = some key :=
        named (key, data) (first ▸ List.mem_cons_self)
      obtain rfl : name = key := Option.some.inj (hasName.symm.trans own)
      have changed := store.basketsOf_updateBasket name uid (itemIds ++ [itemId]) (.addToBasket itemId)
      have second := changed
      rw [first, List.map_cons, if_pos rfl] at second
      refine ⟨?_, ?_, fun kept holds => ?_⟩
      · intro entry member
        rw [changed] at member
        obtain ⟨old, inside, rfl⟩ := List.mem_map.mp member
        have ownName := named old inside
        split
        · rename_i atName
          rw [← atName]
          exact ownName
        · exact ownName
      · exact (firstHolds_cons second).mpr ⟨itemIds ++ [itemId], rfl, by simp⟩
      · obtain ⟨earlier, hasEarlier, member⟩ := (firstHolds_cons first).mp holds
        obtain rfl := Option.some.inj (hasItems.symm.trans hasEarlier)
        exact (firstHolds_cons second).mpr ⟨itemIds ++ [itemId], rfl, List.mem_append_left _ member⟩

end Store

namespace World

variable {store : Store} {devices : Nat → Device} {uid : String} {final : World} {attempts : List AddAttempt}

/-- A failed gesture leaves the baskets of the account as they were. -/
def Harmless (uid : String) (world : World) (attempt : AddAttempt) : Prop :=
  attempt.failed = true →
    ∀ next, world.attempt attempt = some next → next.store.basketsOf uid = world.store.basketsOf uid

/-- Without a creation after a failed read, every failure is harmless and every success is kept. -/
theorem attempts_kept (named : store.Named uid)
    (signedIn : ∀ attempt ∈ attempts, (devices attempt.device).auth = some uid)
    (careful : ∀ attempt ∈ attempts, attempt.readOk = false → attempt.writeOk = false)
    (ran : World.attempts ⟨store, devices, []⟩ attempts = some final) :
    Transition.Along World.attempt (Harmless uid) ⟨store, devices, []⟩ attempts ∧
      (∀ itemId, store.FirstHolds uid itemId → final.store.FirstHolds uid itemId) ∧
      ∀ attempt ∈ attempts, attempt.failed = false →
        ∀ itemId ∈ attempt.item.id, final.store.FirstHolds uid itemId := by
  induction attempts generalizing store with
  | nil =>
      obtain rfl := Option.some.inj ran
      exact ⟨trivial, fun _ holds => holds, fun _ member => by cases member⟩
  | cons attempt rest ih =>
      obtain ⟨next, taken, ran⟩ := Transition.run_cons.mp ran
      obtain ⟨itemId, request, hasId, written, rfl⟩ := attempt_spec (signedIn attempt List.mem_cons_self) taken
      have onlyNext : ∀ other, World.attempt ⟨store, devices, []⟩ attempt = some other → other = _ :=
        fun other reached => Option.some.inj (reached.symm.trans taken)
      have signedLater : ∀ other ∈ rest, (devices other.device).auth = some uid :=
        fun other member => signedIn other (List.mem_cons_of_mem _ member)
      have carefulLater : ∀ other ∈ rest, other.readOk = false → other.writeOk = false :=
        fun other member => careful other (List.mem_cons_of_mem _ member)
      cases wrote : attempt.writeOk with
      | false =>
          simp only [wrote, Bool.false_eq_true, if_false] at ran onlyNext
          obtain ⟨harmless, kept, succeeded⟩ := ih named signedLater carefulLater ran
          refine ⟨⟨fun _ other reached => onlyNext other reached ▸ rfl,
            fun other reached => onlyNext other reached ▸ harmless⟩, kept, ?_⟩
          intro other member whole
          rcases List.mem_cons.mp member with rfl | member
          · simp [AddAttempt.failed, wrote] at whole
          · exact succeeded other member whole
      | true =>
          have readOk : attempt.readOk = true := by
            cases read : attempt.readOk with
            | true => rfl
            | false => exact absurd (careful attempt List.mem_cons_self read) (by simp [wrote])
          simp only [wrote, if_true] at ran onlyNext
          obtain ⟨named, holds, old⟩ := Store.firstHolds_of_read named written readOk
          obtain ⟨harmless, kept, succeeded⟩ := ih named signedLater carefulLater ran
          refine ⟨⟨fun failed => ?_, fun other reached => onlyNext other reached ▸ harmless⟩,
            fun itemId before => kept itemId (old itemId before), ?_⟩
          · simp [AddAttempt.failed, readOk, wrote] at failed
          · intro other member whole added hasAdded
            rcases List.mem_cons.mp member with rfl | member
            · obtain rfl := Option.some.inj (hasId.symm.trans hasAdded)
              exact kept itemId holds
            · exact succeeded other member whole added hasAdded

/-- A harmless sequence creates no basket after a failed read. -/
theorem careful_of_harmless (signedIn : ∀ attempt ∈ attempts, (devices attempt.device).auth = some uid)
    (harmless : Transition.Along World.attempt (Harmless uid) ⟨store, devices, []⟩ attempts)
    (ran : World.attempts ⟨store, devices, []⟩ attempts = some final) :
    ∀ attempt ∈ attempts, attempt.readOk = false → attempt.writeOk = false := by
  induction attempts generalizing store with
  | nil => exact fun _ member => by cases member
  | cons attempt rest ih =>
      obtain ⟨next, taken, ran⟩ := Transition.run_cons.mp ran
      obtain ⟨itemId, request, _, written, rfl⟩ := attempt_spec (signedIn attempt List.mem_cons_self) taken
      intro other member failedRead
      rcases List.mem_cons.mp member with rfl | member
      · cases wrote : other.writeOk with
        | false => rfl
        | true =>
            have unchanged := harmless.1 (by simp [AddAttempt.failed, failedRead]) _ taken
            simp only [wrote, if_true] at unchanged
            exact absurd unchanged (Store.basketsOf_ne_of_failed_read written failedRead)
      · exact ih (fun later inside => signedIn later (List.mem_cons_of_mem _ inside)) (harmless.2 _ taken) ran
          other member failedRead

end World

/-- Failed requests leave the baskets as they were and the first basket holds every added item, if and only
if no gesture creates a basket after a failed read. -/
theorem failed_adds_harmless_iff {world final : World} {attempts : List AddAttempt} {uid : String}
    (quiet : world.Quiet) (named : world.store.Named uid)
    (signedIn : ∀ attempt ∈ attempts, (world.devices attempt.device).auth = some uid)
    (ran : world.attempts attempts = some final) :
    (Transition.Along World.attempt (World.Harmless uid) world attempts ∧
        ∀ attempt ∈ attempts, attempt.failed = false →
          ∀ itemId ∈ attempt.item.id, final.store.FirstHolds uid itemId) ↔
      ∀ attempt ∈ attempts, attempt.readOk = false → attempt.writeOk = false := by
  obtain ⟨store, devices, flights⟩ := world
  obtain rfl : flights = [] := quiet
  constructor
  · intro both
    exact World.careful_of_harmless signedIn both.1 ran
  · intro careful
    obtain ⟨harmless, _, succeeded⟩ := World.attempts_kept named signedIn careful ran
    exact ⟨harmless, succeeded⟩

/-- This gesture adds the item `b`, and both of its requests succeed. -/
def addedItem : AddAttempt := ⟨0, soldItem "b", true, true, "n", "m"⟩

/-- A gesture whose read and write both fail does no harm. -/
theorem failed_adds_harmless_twice :
    let attempts := [addedItem, ⟨0, soldItem "a", false, false, "n", "m"⟩]
    ∃ final, (openShop ["a"]).attempts attempts = some final ∧
      Transition.Along World.attempt (World.Harmless "u") (openShop ["a"]) attempts ∧
      ∀ attempt ∈ attempts, attempt.failed = false →
        ∀ itemId ∈ attempt.item.id, final.store.FirstHolds "u" itemId := by
  have quiet : (openShop ["a"]).Quiet := rfl
  exact ⟨_, rfl, (failed_adds_harmless_iff quiet (by decide) (by decide) rfl).mpr (by decide)⟩

/-- The basket that is created after a failed read comes first and hides the item `b`. -/
theorem failed_read_hides_item :
    let attempts := [addedItem, ⟨0, soldItem "a", false, true, "c", "m"⟩]
    (openShop ["a"]).Quiet ∧ (openShop ["a"]).store.Named "u" ∧
      ∃ final, (openShop ["a"]).attempts attempts = some final ∧
        ¬ (Transition.Along World.attempt (World.Harmless "u") (openShop ["a"]) attempts ∧
          ∀ attempt ∈ attempts, attempt.failed = false →
            ∀ itemId ∈ attempt.item.id, final.store.FirstHolds "u" itemId) := by
  refine ⟨rfl, by decide, _, rfl, fun both => ?_⟩
  have holds := both.2 addedItem List.mem_cons_self rfl "b" rfl
  revert holds
  decide

end ShoppingApp
