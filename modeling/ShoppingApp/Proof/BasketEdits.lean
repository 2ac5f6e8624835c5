import ShoppingApp.Proof.PurchaseHistory

namespace ShoppingApp

/-- These gestures edit the basket or show it. -/
def Gesture.edits : Gesture → Bool
  | .addToBasket _ | .viewDidAppear | .deleteRow _ => true
  | _ => false

/-- The identifiers that the edits add. -/
def added (edits : List BasketUpdate) : Multiset String :=
  (edits.filterMap fun
    | .addToBasket itemId => some itemId
    | .deleteRow _ | .emptyTheBasket => none : List String)

/-- The identifiers that the edits remove. -/
def deleted (edits : List BasketUpdate) : Multiset String :=
  (edits.filterMap fun
    | .deleteRow itemId => some itemId
    | .addToBasket _ | .emptyTheBasket => none : List String)

@[simp] theorem added_append (first second : List BasketUpdate) :
    added (first ++ second) = added first + added second := by
  simp [added, List.filterMap_append]

@[simp] theorem deleted_append (first second : List BasketUpdate) :
    deleted (first ++ second) = deleted first + deleted second := by
  simp [deleted, List.filterMap_append]

theorem added_perm {first second : List BasketUpdate} (perm : first.Perm second) :
    added first = added second := Multiset.coe_eq_coe.mpr (perm.filterMap _)

theorem deleted_perm {first second : List BasketUpdate} (perm : first.Perm second) :
    deleted first = deleted second := Multiset.coe_eq_coe.mpr (perm.filterMap _)

@[simp] theorem added_nil : added [] = 0 := rfl

@[simp] theorem deleted_nil : deleted [] = 0 := rfl

@[simp] theorem added_addToBasket (itemId : String) : added [.addToBasket itemId] = {itemId} := rfl

@[simp] theorem added_deleteRow (itemId : String) : added [.deleteRow itemId] = 0 := rfl

@[simp] theorem deleted_addToBasket (itemId : String) : deleted [.addToBasket itemId] = 0 := rfl

@[simp] theorem deleted_deleteRow (itemId : String) : deleted [.deleteRow itemId] = {itemId} := rfl

/-- A request asks for the edit of its gesture. -/
def Request.edit : Request → Option BasketUpdate
  | .getBaskets _ (.addToBasket item) => item.id.map .addToBasket
  | .updateBasket _ _ completion => some completion
  | _ => none

/-- An edit is pending from its gesture until the server answers its write. -/
def Flight.pending (flight : Flight) : Option BasketUpdate :=
  match flight.request, flight.reply with
  | .updateBasket _ _ _, some _ => none
  | request, _ => request.edit

/-- The row shows an identifier that the copy of the basket contains. -/
def Device.ShowsRow (device : Device) (row : Nat) : Prop :=
  ∃ item ∈ device.screen.allItems[row]?, ∃ itemId ∈ item.id, ∃ basket ∈ device.screen.basket,
    ∃ itemIds ∈ basket.itemIds, itemId ∈ itemIds

instance (device : Device) (row : Nat) : Decidable (device.ShowsRow row) :=
  inferInstanceAs (Decidable (∃ _ ∈ _, ∃ _ ∈ _, ∃ _ ∈ _, ∃ _ ∈ _, _ ∈ _))

/-- A gesture makes this edit. -/
def Gesture.edit (device : Device) : Gesture → Option BasketUpdate
  | .addToBasket item => item.id.map .addToBasket
  | .deleteRow row => (device.screen.allItems[row]?.bind fun item => item.id).map .deleteRow
  | _ => none

/-- An added item has an identifier, and a deleted row shows one of the copy. -/
def Gesture.KeepsRunning (device : Device) : Gesture → Prop
  | .addToBasket item => item.id ≠ none
  | .deleteRow row => device.ShowsRow row
  | _ => True

instance (device : Device) : ∀ gesture : Gesture, Decidable (gesture.KeepsRunning device)
  | .addToBasket _ => inferInstanceAs (Decidable (_ ≠ _))
  | .deleteRow _ => inferInstanceAs (Decidable (Device.ShowsRow _ _))
  | .viewDidAppear | .checkOut _ | .cancelPayment | .completePayment | .login _ | .register _ | .logOut _
  | .saveProfile _ _ _ | .finishOnboarding _ _ _ | .updateUser _ => inferInstanceAs (Decidable True)

/-- The basket whose array is written for an edit. -/
def Request.editedBasket : Request → Option String
  | .updateBasket name _ (.addToBasket _) | .updateBasket name _ (.deleteRow _) => some name
  | _ => none

/-- The array of the basket that a query has read. -/
def Reply.basketArray (reply : Reply) : List String := (reply.basket.bind Basket.itemIds).getD []

/-- The array of the basket that the screen has a copy of. -/
def Device.basketArray (device : Device) : List String := (device.screen.basket.bind Basket.itemIds).getD []

/-- An edit computes the written array from the array that was read. -/
def BasketUpdate.Computes (array written : List String) : BasketUpdate → Prop
  | .addToBasket itemId => (written : Multiset String) = itemId ::ₘ array
  | .deleteRow itemId => itemId ::ₘ (written : Multiset String) = array
  | .emptyTheBasket => False

namespace World

/-- A gesture computes from the copy on its screen, and a callback from the basket of its reply. -/
def arrayAtHand (world : World) : Event → List String
  | .gesture number _ => (world.devices number).basketArray
  | .callback index _ => ((world.flights[index]?.bind Flight.reply).map Reply.basketArray).getD []
  | .serve _ _ => []

/-- Each request in flight keeps the array that its step had at hand. -/
def arrays (world : World) (event : Event) (next : World) (arrays : List (List String)) : List (List String) :=
  let kept := match event with
    | .callback index _ => arrays.eraseIdx index
    | .gesture _ _ | .serve _ _ => arrays
  kept ++ List.replicate (next.flights.length - kept.length) (world.arrayAtHand event)

def pending (world : World) : List BasketUpdate := world.flights.filterMap Flight.pending

def edit (world : World) : Event → List BasketUpdate
  | .gesture number made => (made.edit (world.devices number)).toList
  | .serve _ _ | .callback _ _ => []

/-- The server applies the write of an edit while its array is the array that the write was computed from. -/
def WritesCurrent (world : World) (arrays : List (List String)) : Event → Prop
  | .serve index _ => ∀ name ∈ world.flights[index]?.bind fun flight => flight.request.editedBasket,
      ∀ array ∈ arrays[index]?, (array : Multiset String) = world.store.itemIds name
  | .gesture _ _ | .callback _ _ => True

instance (world : World) (arrays : List (List String)) : ∀ event, Decidable (world.WritesCurrent arrays event)
  | .serve _ _ => inferInstanceAs (Decidable (∀ _ ∈ _, ∀ _ ∈ _, _ = _))
  | .gesture _ _ | .callback _ _ => inferInstanceAs (Decidable True)

/-- No gesture stops its application, and no callback meets a stopped one. -/
def KeepsRunning (world : World) : Event → Prop
  | .gesture number made => made.KeepsRunning (world.devices number)
  | .callback index _ => ∀ flight ∈ world.flights[index]?, (world.devices flight.device).trapped = false
  | .serve _ _ => True

instance (world : World) : ∀ event, Decidable (world.KeepsRunning event)
  | .gesture _ _ => inferInstanceAs (Decidable (Gesture.KeepsRunning _ _))
  | .callback _ _ => inferInstanceAs (Decidable (∀ _ ∈ _, _ = _))
  | .serve _ _ => inferInstanceAs (Decidable True)

end World

/-- The account is signed in with a record, and the screen has at most a copy of this basket. -/
structure Device.Shops (uid name : String) (device : Device) : Prop where
  auth : device.auth = some uid
  user : ∃ user, device.currentUser = some (some user)
  copy : ∀ copy, device.screen.basket = some copy → copy.id = some name

/-- The query shows the basket of this name. -/
def Shown (uid name : String) (reply : Option Reply) : Prop :=
  ∀ replied, reply = some replied → ∃ itemIds, replied.basket = some ⟨some name, some uid, some itemIds⟩

/-- These flights edit or show one basket of one account, and a write is computed from its array. -/
inductive Flight.Edits (uid name : String) : Flight → List String → Prop where
  | add {number : Nat} {item : Item} {itemId : String} {reply : Option Reply} {array : List String}
      (hasId : item.id = some itemId) (shown : Shown uid name reply) :
      Edits uid name ⟨number, .getBaskets uid (.addToBasket item), reply⟩ array
  | load {number : Nat} {reply : Option Reply} {array : List String} (shown : Shown uid name reply) :
      Edits uid name ⟨number, .getBaskets uid .loadBasket, reply⟩ array
  | write {number : Nat} {array itemIds : List String} {completion : BasketUpdate} {reply : Option Reply}
      (computed : completion.Computes array itemIds) :
      Edits uid name ⟨number, .updateBasket name (itemIdsValues itemIds) completion, reply⟩ array
  | read {number download : Nat} {itemId : String} {reply : Option Reply} {array : List String} :
      Edits uid name ⟨number, .getItem itemId download, reply⟩ array

/-- The outcome keeps the shopper, and its requests ask for these edits and are computed from this array. -/
structure Outcome.Edits (uid name : String) (number : Nat) (array : List String) (edits : List BasketUpdate)
    (outcome : Outcome) : Prop where
  shops : outcome.device.Shops uid name
  flights : ∀ request ∈ outcome.issued, Flight.Edits uid name ⟨number, request, none⟩ array
  edits : outcome.issued.filterMap Request.edit = edits

namespace Device.Shops

variable {uid name : String} {device after : Device} {array : List String}

theorem narrows (shops : device.Shops uid name) (narrows : device.Narrows after) : after.Shops uid name := by
  obtain ⟨user, current⟩ := shops.user
  refine ⟨narrows.auth.trans shops.auth, ⟨user, ?_⟩, fun copy has => ?_⟩
  · unfold currentUser at current ⊢
    rwa [narrows.auth, narrows.defaults]
  · obtain ⟨earlier, hadCopy, shrinks⟩ := narrows.basket copy has
    exact shrinks.id.trans (shops.copy earlier hadCopy)

/-- The reads of items make no edit. -/
theorem reads (shops : device.Shops uid name) {number : Nat} {outcome : Outcome}
    (reads : Outcome.Reads device outcome) : Outcome.Edits uid name number array [] outcome := by
  refine ⟨shops.narrows reads.keeps.trims.toNarrows, fun request member => ?_, ?_⟩
  · obtain ⟨itemId, download, rfl⟩ := reads.reads request member
    exact .read
  · apply List.filterMap_eq_nil_iff.mpr
    intro request member
    obtain ⟨itemId, download, rfl⟩ := reads.reads request member
    rfl

/-- One request is issued, and the device stays as it is. -/
theorem issue (shops : device.Shops uid name) {number : Nat} {request : Request}
    (edits : Flight.Edits uid name ⟨number, request, none⟩ array) :
    Outcome.Edits uid name number array request.edit.toList (device.issue request) := by
  refine ⟨shops, fun issued member => ?_, ?_⟩
  · obtain rfl := List.mem_singleton.mp member
    exact edits
  · cases asked : request.edit <;> simp [Device.issue, asked]

end Device.Shops

/-- A gesture that keeps running asks for its edit, which it computes from the copy on the screen. -/
theorem Gesture.handle_edits {uid name : String} {device : Device} {gesture : Gesture} (number : Nat)
    (shops : device.Shops uid name) (running : device.trapped = false) (edits : gesture.edits = true)
    (keeps : gesture.KeepsRunning device) :
    Outcome.Edits uid name number device.basketArray (gesture.edit device).toList (gesture.handle device) := by
  obtain ⟨user, current⟩ := shops.user
  cases gesture with
  | addToBasket item =>
      obtain ⟨itemId, hasId⟩ := Option.ne_none_iff_exists'.mp keeps
      have tapped : device.addToBasketTapped item = device.issue (.getBaskets uid (.addToBasket item)) := by
        unfold Device.addToBasketTapped
        rw [Device.withCurrentUser_of_some current, Device.withCurrentId_of_some shops.auth]
      rw [handle, tapped]
      exact shops.issue (.add hasId fun replied impossible => by cases impossible)
  | viewDidAppear =>
      have appeared : device.viewDidAppear = device.issue (.getBaskets uid .loadBasket) := by
        unfold Device.viewDidAppear Device.loadBasketFromFirestore
        rw [Device.withCurrentUser_of_some current, Device.withCurrentId_of_some shops.auth]
      rw [handle, appeared]
      exact shops.issue (.load fun replied impossible => by cases impossible)
  | deleteRow row =>
      obtain ⟨item, present, itemId, hasId, basket, hasBasket, itemIds, hasItems, member⟩ := keeps
      have deleted := Device.deleteRow_eq running present hasId hasBasket hasItems
        (shops.copy basket hasBasket) member
      have shorter : Device.Shops uid name { device with screen :=
          { device.screen with
            allItems := device.screen.allItems.eraseIdx row
            basket := some { basket with itemIds := some (itemIds.erase itemId) } } } := by
        refine ⟨shops.auth, ⟨user, current⟩, fun copy has => ?_⟩
        obtain rfl := Option.some.inj has
        exact shops.copy basket hasBasket
      have reloaded : Outcome.Edits uid name number device.basketArray [] _ :=
        shorter.reads (Device.getBasketItems_reads _)
      have copy : device.basketArray = itemIds := by
        rw [Device.basketArray, Option.mem_def.mp hasBasket, Option.bind_some, Option.mem_def.mp hasItems,
          Option.getD_some]
      have edit : (Gesture.deleteRow row).edit device = some (.deleteRow itemId) := by
        rw [Gesture.edit, Option.mem_def.mp present, Option.bind_some, Option.mem_def.mp hasId, Option.map_some]
      rw [handle, deleted, edit]
      refine ⟨reloaded.shops, fun request issued => ?_, ?_⟩
      · rcases List.mem_cons.mp issued with rfl | read
        · rw [copy]
          exact .write (Multiset.coe_eq_coe.mpr (List.perm_cons_erase member).symm)
        · exact reloaded.flights request read
      · rw [List.filterMap_cons]
        exact congrArg (BasketUpdate.deleteRow itemId :: ·) reloaded.edits
  | _ => cases edits

/-- A completion passes the pending edit of its flight on, and it computes the edit from the basket of its reply. -/
theorem Flight.Edits.complete {uid name : String} {device : Device} {number : Nat} {request : Request}
    {reply : Reply} {array : List String} (edits : Flight.Edits uid name ⟨number, request, some reply⟩ array)
    (uuid : String) (shops : device.Shops uid name) :
    Outcome.Edits uid name number reply.basketArray (Flight.pending ⟨number, request, some reply⟩).toList
      (request.complete uuid reply device) := by
  cases edits with
  | add hasId shown =>
      rename_i item itemId
      obtain ⟨itemIds, found⟩ := shown reply rfl
      have appended : Device.addToBasketCompletion item uuid reply.basket device = device.issue
          (.updateBasket name (itemIdsValues (itemIds ++ [itemId])) (.addToBasket itemId)) := by
        simp [Device.addToBasketCompletion, found, hasId, Device.updateBasketInFirestore]
      have pending : Flight.pending ⟨number, .getBaskets uid (.addToBasket item), some reply⟩ =
          some (.addToBasket itemId) := by
        simp [Flight.pending, Request.edit, hasId]
      have read : reply.basketArray = itemIds := by
        rw [Reply.basketArray, found]
        rfl
      have computed : BasketUpdate.Computes itemIds (itemIds ++ [itemId]) (.addToBasket itemId) :=
        Multiset.coe_eq_coe.mpr (List.perm_append_singleton itemId itemIds)
      rw [pending, Request.complete, appended, read]
      exact shops.issue (.write computed)
  | load shown =>
      obtain ⟨itemIds, found⟩ := shown reply rfl
      have loaded : Device.Shops uid name
          { device with screen := { device.screen with basket := reply.basket } } := by
        refine ⟨shops.auth, shops.user, fun copy has => ?_⟩
        obtain rfl := Option.some.inj (found.symm.trans has)
        rfl
      exact loaded.reads (Device.getBasketItems_reads _)
  | write computed =>
      rename_i itemIds completion
      have idle : (Request.updateBasket name (itemIdsValues itemIds) completion).complete uuid reply =
          Device.done := by
        cases completion with
        | emptyTheBasket => exact computed.elim
        | _ => rfl
      rw [idle]
      exact shops.reads (.done (.refl device))
  | read =>
      exact shops.reads (device.itemCompletion_reads _ _)

namespace World

/-- All devices shop for one account, and the account owns one basket. -/
structure Editing (uid name : String) (arrays : List (List String)) (world : World) : Prop where
  devices : ∀ number, (world.devices number).Shops uid name
  document : ∃ data itemIds, world.store.basketsOf uid = [(name, data)] ∧
    Basket.ofDictionary data = ⟨some name, some uid, some itemIds⟩
  flights : List.Forall₂ (Flight.Edits uid name) world.flights arrays

/-- The server and the pending edits account for the edits of the past. -/
def Balanced (name : String) (initial : Multiset String) (world : World) (past : List BasketUpdate) : Prop :=
  (world.store.itemIds name : Multiset String) + added world.pending + deleted past =
    initial + added past + deleted world.pending

variable {world next : World} {uid name : String} {arrays : List (List String)}

theorem pending_perform (world : World) (number : Nat) (outcome : Outcome) :
    (world.perform number outcome).pending = world.pending ++ outcome.issued.filterMap Request.edit := by
  have same : Flight.pending ∘ (fun request => (⟨number, request, none⟩ : Flight)) = Request.edit := by
    funext request
    cases request <;> rfl
  unfold pending perform
  rw [List.filterMap_append, List.filterMap_map, same]

/-- The requests of an outcome keep the array that they were computed from. -/
theorem Editing.perform (editing : Editing uid name arrays world) {number : Nat} {array : List String}
    {edits : List BasketUpdate} {outcome : Outcome} (ofOutcome : outcome.Edits uid name number array edits) :
    Editing uid name (arrays ++ List.replicate ((world.perform number outcome).flights.length - arrays.length) array)
        (world.perform number outcome) ∧
      (world.perform number outcome).pending = world.pending ++ edits := by
  refine ⟨⟨fun device => ?_, editing.document, ?_⟩, ?_⟩
  · by_cases same : device = number
    · subst same
      simpa [World.perform] using ofOutcome.shops
    · simpa [World.perform, Function.update_of_ne same] using editing.devices device
  · have ofIssued : ∀ flight ∈ outcome.issued.map (fun request => (⟨number, request, none⟩ : Flight)),
        flight.Edits uid name array := by
      intro flight member
      obtain ⟨request, issued, rfl⟩ := List.mem_map.mp member
      exact ofOutcome.flights request issued
    have noted := Pool.forall₂_append editing.flights ofIssued
    rwa [World.perform, List.length_append, editing.flights.length_eq, Nat.add_sub_cancel_left]
  · rw [pending_perform, ofOutcome.edits]

/-- The items of the basket on the server are the items of the decoded document. -/
theorem Editing.itemIds_eq {data : Dictionary} {itemIds : List String} {store : Store}
    (only : store.basketsOf uid = [(name, data)])
    (decoded : Basket.ofDictionary data = ⟨some name, some uid, some itemIds⟩) :
    store.itemIds name = itemIds := by
  have stored : store.data .basket name = some data :=
    (Store.mem_basketsOf.mp (only ▸ List.mem_singleton.mpr rfl)).1
  have listed : data.read Value.asStrings .itemIds = some itemIds := congrArg Basket.itemIds decoded
  simp [Store.itemIds, stored, Dictionary.itemIds, listed]

/-- A successful answer keeps the basket, and it applies the pending edit of its flight. -/
theorem Editing.answer (editing : Editing uid name arrays world) {number : Nat} {request : Request}
    {array : List String} (edits : Flight.Edits uid name ⟨number, request, none⟩ array)
    (current : ∀ edited ∈ request.editedBasket, (array : Multiset String) = world.store.itemIds edited) :
    let store := (world.store.answer request).1
    let reply := (world.store.answer request).2
    (∃ data itemIds, store.basketsOf uid = [(name, data)] ∧
        Basket.ofDictionary data = ⟨some name, some uid, some itemIds⟩) ∧
      Flight.Edits uid name ⟨number, request, some reply⟩ array ∧
      (store.itemIds name : Multiset String) + added (Flight.pending ⟨number, request, some reply⟩).toList +
          deleted request.edit.toList =
        world.store.itemIds name + added request.edit.toList +
          deleted (Flight.pending ⟨number, request, some reply⟩).toList := by
  obtain ⟨data, itemIds, only, decoded⟩ := editing.document
  have shown (completion : BasketQuery) :
      Shown uid name (some (world.store.answer (.getBaskets uid completion)).2) := by
    intro replied same
    obtain rfl := Option.some.inj same
    rw [Store.basket_of_answer, only]
    exact ⟨itemIds, congrArg some decoded⟩
  cases edits with
  | add hasId _ => exact ⟨editing.document, .add hasId (shown _), rfl⟩
  | load _ => exact ⟨editing.document, .load (shown _), rfl⟩
  | read => exact ⟨editing.document, .read, rfl⟩
  | write computed =>
      rename_i written completion
      have listed := Store.basketsOf_updateBasket world.store name uid written completion
      rw [only, List.map_singleton, if_pos rfl] at listed
      have ofWritten : Basket.ofDictionary (data.patch (itemIdsValues written)) =
          ⟨some name, some uid, some written⟩ := by
        rw [Basket.ofDictionary_patch_itemIdsValues, decoded]
      refine ⟨⟨_, written, listed, ofWritten⟩, .write computed, ?_⟩
      rw [itemIds_eq listed ofWritten]
      cases completion with
      | emptyTheBasket => exact computed.elim
      | addToBasket itemId =>
          have same : (written : Multiset String) = itemId ::ₘ world.store.itemIds name :=
            computed.trans (congrArg _ (current name rfl))
          simp [Request.edit, Flight.pending, same, ← Multiset.singleton_add, add_comm]
      | deleteRow itemId =>
          have same : itemId ::ₘ written = (world.store.itemIds name : Multiset String) :=
            computed.trans (current name rfl)
          simp [Request.edit, Flight.pending, ← same, ← Multiset.singleton_add, add_comm]

theorem Editing.serve (editing : Editing uid name arrays world) {index device : Nat} {request : Request}
    {answer : Answer} (found : world.flights[index]? = some ⟨device, request, none⟩)
    (succeeds : answer.succeeds = true) (current : world.WritesCurrent arrays (.serve index answer))
    {initial : Multiset String} {past : List BasketUpdate} (balanced : Balanced name initial world past)
    (served : world.serve index device request answer = some next) :
    Editing uid name (world.arrays (.serve index answer) next arrays) next ∧ Balanced name initial next past := by
  obtain ⟨array, noted, ofRequest⟩ := Pool.note_of_forall₂ editing.flights found
  have document : request.isAuth = false := by cases ofRequest <;> rfl
  obtain rfl := serve_applies document succeeds served
  have read : ∀ edited ∈ request.editedBasket, (array : Multiset String) = world.store.itemIds edited :=
    fun edited isEdited => current edited (by rw [found]; exact isEdited) array noted
  obtain ⟨document, answered, moved⟩ := editing.answer ofRequest read
  have kept := Pool.forall₂_set editing.flights found noted answered
  refine ⟨⟨editing.devices, document, ?_⟩, ?_⟩
  · change List.Forall₂ _ (world.flights.set index _)
      (arrays ++ List.replicate ((world.flights.set index _).length - arrays.length) [])
    rw [kept.length_eq, Nat.sub_self, List.replicate_zero, List.append_nil]
    exact kept
  have before := Pool.filterMap_perm Flight.pending found
  have after := Pool.filterMap_set_perm Flight.pending found
    ⟨device, request, some (world.store.answer request).2⟩
  have waiting : Flight.pending ⟨device, request, none⟩ = request.edit := by cases request <;> rfl
  rw [waiting] at before
  have old : (world.store.itemIds name : Multiset String) + added world.pending + deleted past =
      initial + added past + deleted world.pending := balanced
  unfold Balanced pending record at *
  rw [added_perm before, deleted_perm before, added_append, deleted_append] at old
  rw [added_perm after, deleted_perm after, added_append, deleted_append]
  ext itemId
  have countOld := congrArg (Multiset.count itemId) old
  have countMoved := congrArg (Multiset.count itemId) moved
  simp only [Multiset.count_add] at countOld countMoved ⊢
  omega

/-- A gesture adds what it asks for to the pending edits. -/
theorem Editing.gesture (editing : Editing uid name arrays world) {number : Nat} {made : Gesture}
    {initial : Multiset String} {past : List BasketUpdate} (balanced : Balanced name initial world past)
    (edits : made.edits = true) (keeps : world.KeepsRunning (.gesture number made))
    (running : (world.devices number).trapped = false) :
    let next := world.perform number (made.handle (world.devices number))
    Editing uid name (world.arrays (.gesture number made) next arrays) next ∧
      Balanced name initial next (past ++ world.edit (.gesture number made)) := by
  have outcome := made.handle_edits number (editing.devices number) running edits keeps
  obtain ⟨kept, asked⟩ := editing.perform outcome
  refine ⟨kept, ?_⟩
  have old : (world.store.itemIds name : Multiset String) + added world.pending + deleted past =
      initial + added past + deleted world.pending := balanced
  unfold Balanced
  change (world.store.itemIds name : Multiset String) + _ + _ = _
  rw [asked]
  simp only [added_append, deleted_append, World.edit]
  ext itemId
  have countOld := congrArg (Multiset.count itemId) old
  simp only [Multiset.count_add] at countOld ⊢
  omega

/-- A callback turns its reply into the pending edit of the request that it issues. -/
theorem Editing.callback (editing : Editing uid name arrays world) {index number : Nat} {request : Request}
    {reply : Reply} {uuid : String} {initial : Multiset String} {past : List BasketUpdate}
    (balanced : Balanced name initial world past)
    (found : world.flights[index]? = some ⟨number, request, some reply⟩)
    (running : (world.devices number).trapped = false) :
    let next := world.callback index number request reply uuid
    Editing uid name (world.arrays (.callback index uuid) next arrays) next ∧ Balanced name initial next past := by
  obtain ⟨array, _, ofFlight⟩ := Pool.note_of_forall₂ editing.flights found
  have outcome := ofFlight.complete uuid (editing.devices number)
  let erased : World := { world with flights := world.flights.eraseIdx index }
  have keptErased : Editing uid name (arrays.eraseIdx index) erased :=
    ⟨editing.devices, editing.document, Pool.forall₂_eraseIdx editing.flights index⟩
  obtain ⟨kept, asked⟩ := keptErased.perform outcome
  have atHand : world.arrayAtHand (.callback index uuid) = reply.basketArray := by
    rw [arrayAtHand, found]
    rfl
  dsimp only
  rw [World.arrays, atHand, callback_of_running running]
  refine ⟨kept, ?_⟩
  have moved := (Pool.filterMap_perm Flight.pending found).trans List.perm_append_comm
  have same : (erased.perform number (request.complete uuid reply (world.devices number))).pending.Perm
      world.pending := by
    rw [asked]
    exact moved.symm
  unfold Balanced
  rw [added_perm same, deleted_perm same]
  exact balanced

/-- A step keeps the basket and the balance of its edits. -/
theorem Editing.step (editing : Editing uid name arrays world) {event : Event} {initial : Multiset String}
    {past : List BasketUpdate} (balanced : Balanced name initial world past)
    (edits : event.Listed Gesture.edits) (succeeds : event.Succeeds) (current : world.WritesCurrent arrays event)
    (keeps : world.KeepsRunning event) (taken : world.step event = some next) :
    Editing uid name (world.arrays event next arrays) next ∧
      Balanced name initial next (past ++ world.edit event) := by
  cases event with
  | gesture number made =>
      obtain ⟨allowed, rfl⟩ := step_gesture.mp taken
      exact editing.gesture balanced edits keeps (running_of_allowed allowed)
  | serve index answer =>
      obtain ⟨number, request, found, served⟩ := step_serve.mp taken
      have nothing : world.edit (.serve index answer) = [] := rfl
      rw [nothing, List.append_nil]
      exact editing.serve found succeeds current balanced served
  | callback index uuid =>
      obtain ⟨number, request, reply, found, _, rfl⟩ := step_callback.mp taken
      have nothing : world.edit (.callback index uuid) = [] := rfl
      rw [nothing, List.append_nil]
      exact editing.callback balanced found (keeps _ found)

end World

/-- The basket holds the initial items with the added and without the deleted ones when every request is answered, if
the server applies each write while its array is the one that the write was computed from, and no application stops. -/
theorem basket_edits_counted {world final : World} {events : List Event} {uid name : String} {data : Dictionary}
    {itemIds : List String} (quiet : world.Quiet) (devices : ∀ number, (world.devices number).Shops uid name)
    (only : world.store.basketsOf uid = [(name, data)])
    (decoded : Basket.ofDictionary data = ⟨some name, some uid, some itemIds⟩)
    (listed : ∀ event ∈ events, event.Listed Gesture.edits ∧ event.Succeeds)
    (met : Transition.Along (Transition.remembering World.step World.arrays)
      (fun remembered event => remembered.1.WritesCurrent remembered.2 event ∧ remembered.1.KeepsRunning event)
      (world, []) events)
    (ran : world.run events = some final) (idle : final.Quiet) :
    let edits := Transition.log World.step World.edit world events
    (final.store.itemIds name : Multiset String) + deleted edits = itemIds + added edits := by
  intro edits
  have empty : world.flights = [] := quiet
  have start : world.Editing uid name [] := by
    refine ⟨devices, ⟨data, itemIds, only, decoded⟩, ?_⟩
    rw [empty]
    exact .nil
  have balanced : world.Balanced name itemIds [] := by
    unfold World.Balanced World.pending
    rw [World.Editing.itemIds_eq only decoded, empty]
    rfl
  obtain ⟨⟨arrays, remembered⟩, (same : _ = edits)⟩ := Transition.run_remembering World.arrays World.edit [] ran
  have logged : final.Editing uid name arrays ∧ final.Balanced name itemIds ([] ++ edits) := by
    rw [← same]
    refine Transition.run_log (fun remembered past =>
      remembered.1.Editing uid name remembered.2 ∧ remembered.1.Balanced name itemIds past) ?_ ⟨start, balanced⟩
      (Transition.Along.and (.of_forall listed) met) remembered
    intro state event next past held conditions taken
    obtain ⟨reached, stepped, rfl⟩ := Option.map_eq_some_iff.mp taken
    exact held.1.step held.2 conditions.1.1 conditions.1.2 conditions.2.1 conditions.2.2 stepped
  have settled : final.flights = [] := idle
  have total := logged.2
  unfold World.Balanced World.pending at total
  rw [settled, List.nil_append] at total
  simpa using total

/-- The only row is deleted, and two other items are added one after the other. -/
def deleteThenAdd : List Event :=
  loadOneItem ++ [.gesture 0 (.deleteRow 0), .serve 0 .success, .callback 0 "n"] ++ addItem (soldItem "b") ++
    addItem (soldItem "a")

/-- Edits that wait for each other are all counted. -/
theorem basket_edits_counted_successive :
    ∃ final, (openShop ["a"]).run deleteThenAdd = some final ∧ final.store.itemIds "d" = ["b", "a"] ∧
      let edits := Transition.log World.step World.edit (openShop ["a"]) deleteThenAdd
      (final.store.itemIds "d" : Multiset String) + deleted edits = ["a"] + added edits := by
  have listed : ∀ event ∈ deleteThenAdd, event.Listed Gesture.edits ∧ event.Succeeds := by decide
  have met : Transition.Along (Transition.remembering World.step World.arrays)
      (fun remembered event => remembered.1.WritesCurrent remembered.2 event ∧ remembered.1.KeepsRunning event)
      (openShop ["a"], []) deleteThenAdd := by decide
  have quiet : (openShop ["a"]).Quiet := rfl
  have devices : ∀ number, ((openShop ["a"]).devices number).Shops "u" "d" :=
    fun number => ⟨rfl, ⟨_, rfl⟩, fun copy has => by cases has⟩
  exact ⟨_, rfl, rfl, basket_edits_counted quiet devices rfl rfl listed met rfl rfl⟩

/-- Both gestures read the basket before either of them writes it. -/
def overlappingReads : List Event :=
  [.gesture 0 (.addToBasket (soldItem "a")), .gesture 0 (.addToBasket (soldItem "b")), .serve 0 .success,
    .serve 1 .success, .callback 0 "n", .callback 0 "n", .serve 0 .success, .serve 1 .success,
    .callback 0 "n", .callback 0 "n"]

/-- The second of two overlapping gestures overwrites the array of the first one, but for the item that both have
read. -/
theorem basket_edit_lost :
    (∀ event ∈ overlappingReads, event.Listed Gesture.edits ∧ event.Succeeds) ∧
      ∃ final, (openShop ["c"]).run overlappingReads = some final ∧ final.Quiet ∧
        final.store.itemIds "d" = ["c", "b"] ∧
        let edits := Transition.log World.step World.edit (openShop ["c"]) overlappingReads
        (final.store.itemIds "d" : Multiset String) + deleted edits ≠
          (openShop ["c"]).store.itemIds "d" + added edits :=
  ⟨by decide, _, rfl, rfl, rfl, by decide⟩

end ShoppingApp
