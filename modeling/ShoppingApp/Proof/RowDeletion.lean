import ShoppingApp.Proof.BasketScreen

namespace ShoppingApp

/-- Rows need a copy of the basket, and the copy holds each identifier at least as often as they show it. -/
def FitRows (rowIds : List (Option String)) (basket : Option Basket) : Prop :=
  (rowIds ≠ [] → basket ≠ none) ∧ ∀ itemId, rowIds.count (some itemId) ≤ (Basket.ids basket).count itemId

/-- The rows of a running application fit its copy of the basket. -/
def Device.RowsFit (device : Device) : Prop :=
  device.trapped = false → FitRows device.rowIds device.screen.basket

/-- A load brings an empty basket or one that the rows fit, and an item read shows nothing or rows that fit the
copy. -/
def Device.BringsFit (device : Device) : Request → Reply → Prop
  | .getBaskets _ .loadBasket, reply =>
      reply.basket ≠ none ∧ Basket.ids reply.basket = [] ∨ FitRows device.rowIds reply.basket
  | .getItem _ download, reply => ∀ shared ∈ device.downloads[download]?, ∀ items ∈ (shared.receive reply.read).2,
      (∀ item ∈ items, item.price.isSome) → FitRows (items.map fun item => item.id) device.screen.basket
  | _, _ => True

/-- The loads and the item reads that come back to the running application fit. -/
def World.BringsFit (number : Nat) (world : World) : Event → Prop
  | .callback index _ => ∀ flight ∈ world.flights[index]?, ∀ reply ∈ flight.reply, flight.device = number →
      (world.devices number).trapped = false → (world.devices number).BringsFit flight.request reply
  | .gesture _ _ | .serve _ _ => True

theorem FitRows.nil (basket : Option Basket) : FitRows [] basket :=
  ⟨fun some => absurd rfl some, fun itemId => by simp⟩

/-- A row and one occurrence of its identifier leave together. -/
theorem FitRows.erase {rowIds : List (Option String)} {basket : Basket} {itemIds : List String} {row : Nat}
    {itemId : String} (fit : FitRows rowIds (some basket)) (hasItems : basket.itemIds = some itemIds)
    (present : rowIds[row]? = some (some itemId)) :
    FitRows (rowIds.eraseIdx row) (some { basket with itemIds := some (itemIds.erase itemId) }) := by
  refine ⟨fun _ => Option.some_ne_none _, fun other => ?_⟩
  have before : rowIds.count (some other) ≤ itemIds.count other := by
    have counted := fit.2 other
    rwa [show Basket.ids (some basket) = itemIds by simp [Basket.ids, hasItems]] at counted
  have taken := (Pool.perm_eraseIdx present).count_eq (some other)
  rw [taken, List.count_cons] at before
  change _ ≤ (itemIds.erase itemId).count other
  rw [List.count_erase]
  by_cases same : itemId = other
  · simp only [same, beq_self_eq_true, if_true] at before ⊢
    omega
  · have different : ¬ (some itemId == some other) = true := by simpa using same
    rw [if_neg different] at before
    rw [if_neg (by simpa using same)]
    exact before

/-- The identifier of a row that fits is found by the loop of the delete gesture. -/
theorem FitRows.removes {rowIds : List (Option String)} {basket : Option Basket} {row : Nat} {itemId : String}
    (fit : FitRows rowIds basket) (present : rowIds[row]? = some (some itemId)) :
    ∃ copy itemIds, basket = some copy ∧ copy.itemIds = some itemIds ∧
      removeItemFromBasket itemIds itemId = some (itemIds.erase itemId) := by
  have inside := List.mem_of_getElem? present
  have counted : 0 < (Basket.ids basket).count itemId :=
    (List.count_pos_iff.mpr inside).trans_le (fit.2 itemId)
  cases basket with
  | none => exact absurd rfl (fit.1 (List.ne_nil_of_mem inside))
  | some copy =>
      cases hasItems : copy.itemIds with
      | none => simp [Basket.ids, hasItems] at counted
      | some itemIds =>
          refine ⟨copy, itemIds, rfl, hasItems, ?_⟩
          rw [removeItemFromBasket_eq, if_pos]
          simpa [Basket.ids, hasItems] using counted

namespace Device

variable {device : Device}

theorem RowsFit.of_stopped (stopped : device.trapped = true) : device.RowsFit := fun running => by
  rw [stopped] at running
  cases running

theorem RowsFit.congr {after : Device} (fit : device.RowsFit) (running : device.trapped = false)
    (rows : after.rowIds = device.rowIds) (basket : after.screen.basket = device.screen.basket) :
    after.RowsFit := fun _ => by
  rw [rows, basket]
  exact fit running

theorem RowsFit.of_keepsOffer {after : Device} (fit : device.RowsFit) (running : device.trapped = false)
    (keeps : device.KeepsOffer after) : after.RowsFit :=
  fit.congr running (by rw [rowIds, keeps.rows, rowIds]) keeps.basket

/-- The reload keeps rows that fit, and it clears the rows of an empty copy. -/
theorem getBasketItems_rowsFit (fit : FitRows device.rowIds device.screen.basket) :
    device.getBasketItems.device.RowsFit := by
  intro running
  obtain ⟨_, same⟩ | ⟨_, same⟩ | ⟨_, same⟩ := getBasketItems_cases running
  · rw [same]
    exact fit
  · rw [same, device.showItems_empty.1]
    exact .nil _
  · rw [same]
    exact fit

/-- Shown items are the rows. -/
theorem showItems_rowsFit (device : Device) (running : device.trapped = false) {items : List Item} :
    (device.showItems items).device.RowsFit ↔
      ((∀ item ∈ items, item.price.isSome) → FitRows (items.map fun item => item.id) device.screen.basket) := by
  rw [showItems_device]
  by_cases priced : (items.all fun item => item.price.isSome) = true
  · have all : ∀ item ∈ items, item.price.isSome := List.all_eq_true.mp priced
    simp only [RowsFit, priced, if_true, running, true_implies]
    exact (imp_iff_right all).symm
  · refine iff_of_true (.of_stopped (if_neg priced)) fun all => ?_
    exact absurd (List.all_eq_true.mpr all) priced

/-- No gesture takes the rows and the copy apart. -/
theorem handle_rowsFit (made : Gesture) (running : device.trapped = false) (fit : device.RowsFit) :
    (made.handle device).device.RowsFit := by
  by_cases leaves : made.leavesOffer = true
  · exact fit.of_keepsOffer running (made.handle_keepsOffer device leaves)
  · cases made with
    | viewDidAppear =>
        obtain ⟨_, screen⟩ := device.viewDidAppear_screen
        exact fit.congr running screen.rows screen.copy
    | logOut signedOut => cases signedOut <;> exact fit.congr running rfl rfl
    | completePayment =>
        rcases device.payPalPaymentDidComplete_device running with ⟨stopped, _⟩ | ⟨_, basket, name, _, _, same⟩
        · exact .of_stopped stopped
        · rw [Gesture.handle, same]
          exact fun _ => .nil _
    | deleteRow row =>
        rcases device.deleteRow_device row running with
          stopped | ⟨item, itemId, basket, name, itemIds, present, hasId, hasBasket, _, hasItems, _, same⟩
        · exact .of_stopped stopped
        · rw [Gesture.handle, same]
          apply getBasketItems_rowsFit
          have shown : device.rowIds[row]? = some (some itemId) := by simp [rowIds, present, hasId]
          have shorter := (hasBasket ▸ fit running).erase hasItems shown
          rwa [rowIds, List.eraseIdx_map] at shorter
    | _ => exact absurd rfl leaves

/-- The copy that a load brings keeps the rows unless it is empty. -/
theorem loadBasketCompletion_rowsFit {basket : Option Basket} (running : device.trapped = false) :
    (device.loadBasketCompletion basket).device.RowsFit ↔
      basket ≠ none ∧ Basket.ids basket = [] ∨ FitRows device.rowIds basket := by
  let loaded : Device := { device with screen := { device.screen with basket := basket } }
  constructor
  · intro fit
    by_cases empty : basket ≠ none ∧ Basket.ids basket = []
    · exact .inl empty
    · right
      cases basket with
      | none => exact fit running
      | some copy =>
          cases hasItems : copy.itemIds with
          | none => exact absurd ⟨Option.some_ne_none copy, by simp [Basket.ids, hasItems]⟩ empty
          | some itemIds =>
              have some : itemIds ≠ [] := fun none =>
                empty ⟨Option.some_ne_none copy, by simp [Basket.ids, hasItems, none]⟩
              have reloaded := loaded.getBasketItems_device rfl hasItems
              rw [if_neg some] at reloaded
              rw [loadBasketCompletion, reloaded] at fit
              exact fit running
  · rintro (⟨present, empty⟩ | fit)
    · intro alive
      obtain ⟨absent, _⟩ | ⟨_, same⟩ | ⟨some, _⟩ := getBasketItems_cases alive
      · exact absurd absent present
      · rw [loadBasketCompletion, same, showItems_empty _ |>.1]
        exact .nil _
      · exact absurd empty some
    · exact loaded.getBasketItems_rowsFit fit

/-- The rows fit after an item read exactly when the array that it delivers fits. -/
theorem itemCompletion_rowsFit {download : Nat} {read : DocumentRead} (running : device.trapped = false)
    (fit : device.RowsFit) :
    (device.itemCompletion download read).device.RowsFit ↔
      ∀ shared ∈ device.downloads[download]?, ∀ items ∈ (shared.receive read).2,
        (∀ item ∈ items, item.price.isSome) → FitRows (items.map fun item => item.id) device.screen.basket := by
  unfold itemCompletion
  cases present : device.downloads[download]? with
  | none => exact iff_of_true fit fun shared absent => by cases absent
  | some shared =>
      dsimp only
      let updated : Device := { device with downloads := device.downloads.set download (shared.receive read).1 }
      by_cases silent : (shared.receive read).2 = []
      · rw [silent, deliver]
        refine iff_of_true fit ?_
        intro other same items member
        obtain rfl := Option.some.inj same
        rw [silent] at member
        exact absurd member List.not_mem_nil
      · obtain ⟨items, member⟩ := List.exists_mem_of_ne_nil _ silent
        have shown : (updated.deliver (shared.receive read).2).device = (updated.showItems items).device :=
          deliver_same member fun other inside => receive_same inside member
        rw [shown, updated.showItems_rowsFit running]
        constructor
        · intro condition other same others isOther
          obtain rfl := Option.some.inj same
          obtain rfl := receive_same isOther member
          exact condition
        · exact fun condition => condition shared rfl items member

end Device

/-- A completion leaves rows that fit exactly when it brings what fits. -/
theorem Request.complete_rowsFit (uuid : String) {request : Request} {reply : Reply} {device : Device}
    (running : device.trapped = false) (fit : device.RowsFit) :
    (request.complete uuid reply device).device.RowsFit ↔ device.BringsFit request reply := by
  by_cases fills : request.fillsScreen = true
  · cases request with
    | getBaskets owner completion =>
        cases completion with
        | addToBasket item => cases fills
        | loadBasket => exact Device.loadBasketCompletion_rowsFit running
    | updateBasket name values completion =>
        cases completion with
        | emptyTheBasket => exact iff_of_true (Device.getBasketItems_rowsFit (fit running)) trivial
        | _ => cases fills
    | getItem name download => exact Device.itemCompletion_rowsFit running fit
    | _ => cases fills
  · have keeps := request.complete_keepsOffer uuid reply device (Bool.eq_false_iff.mpr fills)
    refine iff_of_true (fit.of_keepsOffer running keeps) ?_
    cases request with
    | getBaskets owner completion =>
        cases completion with
        | addToBasket item => trivial
        | loadBasket => exact absurd rfl fills
    | getItem name download => exact absurd rfl fills
    | _ => trivial

namespace World

variable {world next : World} {number : Nat}

/-- The rows still fit after a step exactly when the step brings what fits. -/
theorem step_rowsFit {event : Event} (fit : (world.devices number).RowsFit) (taken : world.step event = some next) :
    (next.devices number).RowsFit ↔ world.BringsFit number event := by
  cases stopped : (world.devices number).trapped with
  | true =>
      have after : (next.devices number).trapped = true := by
        by_contra running
        rw [step_trapped taken (Bool.eq_false_iff.mpr running)] at stopped
        cases stopped
      refine iff_of_true (.of_stopped after) ?_
      cases event with
      | callback index uuid =>
          intro flight _ reply _ _ running
          rw [stopped] at running
          cases running
      | _ => trivial
  | false =>
      cases event with
      | gesture device made =>
          obtain ⟨_, rfl⟩ := step_gesture.mp taken
          refine iff_of_true ?_ trivial
          by_cases own : number = device
          · subst own
            rw [perform_devices]
            exact Device.handle_rowsFit made stopped fit
          · rw [world.perform_other _ own]
            exact fit
      | serve index answer =>
          obtain ⟨device, request, _, served⟩ := step_serve.mp taken
          refine iff_of_true ?_ trivial
          rcases serve_cases served with ⟨_, rfl⟩ | ⟨_, _, rfl⟩ | ⟨uid, isEmailVerified, _, _, rfl⟩
          · exact fit
          · exact fit
          · obtain ⟨auth, _, signedIn⟩ := world.signIn_device device number uid
            change ((world.signIn device uid).devices number).RowsFit
            rw [signedIn]
            exact fit.congr stopped rfl rfl
      | callback index uuid =>
          obtain ⟨device, request, reply, found, _, rfl⟩ := step_callback.mp taken
          have brings : world.BringsFit number (.callback index uuid) ↔
              (device = number → (world.devices number).BringsFit request reply) := by
            simp [World.BringsFit, found, stopped]
          rw [brings]
          by_cases own : device = number
          · subst own
            rw [callback_of_running stopped, perform_devices, request.complete_rowsFit uuid stopped fit]
            exact (imp_iff_right rfl).symm
          · refine iff_of_true ?_ fun same => absurd same own
            rw [callback, perform_other _ _ (Ne.symm own)]
            exact fit

end World

/-- The rows of the basket screen fit its copy in every state of a run exactly when the loads and the item reads that
come back fit, and the loop of a delete gesture finds the identifier of each row that fits. -/
theorem rows_fit_basket_iff {world final : World} {events : List Event} {number : Nat}
    (initial : (world.devices number).RowsFit) (ran : world.run events = some final) :
    ((∀ before after reached, events = before ++ after → world.run before = some reached →
        (reached.devices number).RowsFit) ↔ world.Along (World.BringsFit number) events) ∧
      ∀ device : Device, device.RowsFit → device.trapped = false → ∀ (row : Nat) (item : Item) (itemId : String),
        device.screen.allItems[row]? = some item → item.id = some itemId →
          ∃ basket itemIds, device.screen.basket = some basket ∧ basket.itemIds = some itemIds ∧
            removeItemFromBasket itemIds itemId = some (itemIds.erase itemId) := by
  refine ⟨?_, fun device fit running row item itemId present hasId => ?_⟩
  · have every : world.Along (fun _ _ => True) events := .of_all (fun _ _ => trivial) world events
    exact Transition.reached_iff_along (fun _ => True)
      (fun state event next _ fit _ taken => ⟨trivial, World.step_rowsFit fit taken⟩) trivial initial every ran
  · have shown : device.rowIds[row]? = some (some itemId) := by
      rw [Device.rowIds, List.getElem?_map, present, Option.map_some, hasId]
    exact (fit running).removes shown

instance (rowIds : List (Option String)) (basket : Option Basket) : Decidable (FitRows rowIds basket) :=
  decidable_of_iff ((rowIds ≠ [] → basket ≠ none) ∧ ∀ rowId ∈ rowIds, ∀ itemId ∈ rowId,
      rowIds.count (some itemId) ≤ (Basket.ids basket).count itemId) <| by
    refine and_congr_right fun _ => ⟨fun all itemId => ?_, fun all rowId _ itemId _ => all itemId⟩
    by_cases shown : some itemId ∈ rowIds
    · exact all _ shown itemId rfl
    · rw [List.count_eq_zero_of_not_mem shown]
      exact Nat.zero_le _

instance (device : Device) : Decidable device.RowsFit := inferInstanceAs (Decidable (_ → _))

instance (device : Device) : ∀ request reply, Decidable (device.BringsFit request reply)
  | .getBaskets _ .loadBasket, _ => inferInstanceAs (Decidable (_ ∧ _ ∨ _))
  | .getItem _ _, _ => inferInstanceAs (Decidable (∀ _ ∈ _, ∀ _ ∈ _, _ → _))
  | .getBaskets _ (.addToBasket _), _ | .setBasket _ _, _ | .updateBasket _ _ _, _ | .getUser _ _, _
  | .setUser _ _, _ | .updateUser _ _ _, _ | .signIn _, _ | .createUser _, _ => inferInstanceAs (Decidable True)

instance (number : Nat) (world : World) : ∀ event, Decidable (world.BringsFit number event)
  | .callback _ _ => inferInstanceAs (Decidable (∀ _ ∈ _, ∀ _ ∈ _, _ → _ → _))
  | .gesture _ _ | .serve _ _ => inferInstanceAs (Decidable True)

/-- The row is loaded and deleted. -/
def loadAndDelete : List Event :=
  loadOneItem ++ [.gesture 0 (.deleteRow 0), .serve 0 .success, .callback 0 "n"]

theorem rows_fit_basket_deleted :
    ∃ final, (openShop ["a"]).run loadAndDelete = some final ∧ (final.devices 0).RowsFit := by
  have initial : ((openShop ["a"]).devices 0).RowsFit := by decide
  have fits : (openShop ["a"]).Along (World.BringsFit 0) loadAndDelete := by decide
  exact ⟨_, rfl, (rows_fit_basket_iff initial rfl).1.mpr fits loadAndDelete [] _ (List.append_nil _).symm rfl⟩

/-- The screen appears again, and the row is deleted before the callback of its item runs. -/
def staleRow : List Event :=
  loadOneItem ++ [.gesture 0 .viewDidAppear, .serve 0 .success, .callback 0 "n", .serve 0 .success,
    .gesture 0 (.deleteRow 0), .callback 0 "n"]

/-- The callback brings the deleted row back, and its second deletion stops the application. -/
theorem stale_row_traps :
    (openShop ["a"]).Quiet ∧ ((openShop ["a"]).devices 0).screen = {} ∧ (∀ event ∈ staleRow, event.Succeeds) ∧
      ∃ reached, (openShop ["a"]).run staleRow = some reached ∧ (reached.devices 0).trapped = false ∧
        (reached.devices 0).rowIds = [some "a"] ∧ Basket.ids (reached.devices 0).screen.basket = [] ∧
        ¬ (reached.devices 0).RowsFit ∧
        ∃ final, reached.run [.gesture 0 (.deleteRow 0)] = some final ∧ (final.devices 0).trapped = true :=
  ⟨rfl, rfl, by decide, _, rfl, rfl, rfl, rfl, by decide, _, rfl, rfl⟩

/-- The loop of `removeItemFromBasket` removes the first occurrence of the identifier, or nothing if there is none,
exactly if the identifier occurs, and otherwise it reads past the end. -/
theorem removes_first_occurrence_iff (itemIds : List String) (itemId : String) :
    (∃ left, removeItemFromBasket itemIds itemId = some left ∧
      ((∃ before after, itemIds = before ++ itemId :: after ∧ itemId ∉ before ∧ left = before ++ after) ∨
        itemId ∉ itemIds ∧ left = itemIds)) ↔ itemId ∈ itemIds := by
  constructor
  · rintro ⟨left, removed, _⟩
    by_contra absent
    rw [removeItemFromBasket_eq, if_neg absent] at removed
    cases removed
  · intro present
    obtain ⟨before, after, rfl, first⟩ := List.eq_append_cons_of_mem present
    refine ⟨before ++ after, ?_, .inl ⟨before, after, rfl, first, rfl⟩⟩
    rw [removeItemFromBasket_eq, if_pos present, List.erase_append_right _ first, List.erase_cons_head]

/-- The closed range reads one position past the end, of the empty list too. -/
theorem absent_item_traps :
    removeItemFromBasket [] "a" = none ∧ removeItemFromBasket ["b"] "a" = none :=
  ⟨rfl, by decide⟩

end ShoppingApp
