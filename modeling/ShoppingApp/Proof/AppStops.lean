import ShoppingApp.Proof.FormRun
import ShoppingApp.Proof.Sessions
import ShoppingApp.Proof.WholeData

namespace ShoppingApp

/-- A gesture or a completion stops the application of this device. -/
inductive World.Stops (world : World) (number : Nat) : Event → Prop where
  | gesture {made : Gesture} (stops : made.Stops (world.devices number)) : Stops world number (.gesture number made)
  | callback {index : Nat} {uuid : String} {request : Request} {reply : Reply}
      (found : world.flights[index]? = some ⟨number, request, some reply⟩)
      (stops : request.Stops reply (world.devices number)) : Stops world number (.callback index uuid)

/-- The upload of a completed form stops at an image that is nil or cannot be encoded. -/
inductive Market.Stops (market : Market) (number : Nat) : MarketEvent → Prop where
  | shop {event : Event} (stops : market.shop.Stops number event) : Stops market number (.shop event)
  | uploadImages {own : Nat} {uuids : String × String} {screen : AddItemScreen}
      (shown : market.screens[own]? = some screen) (here : screen.device = number)
      (completed : screen.fieldsAreCompleted = true) (unencodable : ¬ Encodable screen.itemImages) :
      Stops market number (.doneButtonWasTapped own true uuids)

/-- A selected search result asks for a screen that the storyboard does not have. -/
inductive App.Stops (app : App) (number : Nat) : AppEvent → Prop where
  | market {event : MarketEvent} (stops : app.market.Stops number event) : Stops app number (.market event)
  | showItemView {row : Nat} : Stops app number (.didSelectSearchResult number row)

theorem AddItemScreen.saveToFireStore_trapped_iff (double : String → Option Double) (connected : Bool)
    (uuids : String × String) (own number : Nat) (screen : AddItemScreen) :
    (screen.saveToFireStore double connected uuids own number).screen.device = screen.device ∧
      ((screen.saveToFireStore double connected uuids own number).trapped = true ↔
        connected = true ∧ ¬ Encodable screen.itemImages) := by
  unfold saveToFireStore
  dsimp only
  split
  · cases connected with
    | true => exact ⟨rfl, (uploadImages_encodable number uuids.1 0 screen.itemImages).1.trans (by simp)⟩
    | false => exact ⟨rfl, by simp⟩
  · rename_i plain
    have none : screen.itemImages = [] := List.length_eq_zero_iff.mp (Nat.eq_zero_of_not_pos plain)
    exact ⟨rfl, by simp [Publication.finish_eq, none, Encodable]⟩

theorem Publication.imageSaved_running (number : Nat) (uuid : String) (imageLink : Option String)
    (screen : AddItemScreen) (publication : Publication) :
    (publication.imageSaved number uuid imageLink screen).trapped = false := by
  unfold imageSaved
  cases imageLink with
  | none => rfl
  | some imageLink =>
      dsimp only
      split <;> rfl

theorem World.stop_trapped_iff (world : World) (stopped number : Nat) :
    ((world.stop stopped).devices number).trapped = true ↔
      (world.devices number).trapped = true ∨ stopped = number := by
  by_cases same : stopped = number
  · subst same
    simp [World.stop]
  · simp [World.stop, Function.update_of_ne (Ne.symm same), same]

/-- A step of whole data stops a running application exactly in the listed cases. -/
theorem World.Whole.step_trapped_iff {world next : World} {event : Event} {number : Nat} (whole : world.Whole)
    (running : (world.devices number).trapped = false) (taken : world.step event = some next)
    (account : ∀ made, event = .gesture number made → made.savesProfile = true → (world.devices number).auth ≠ none) :
    (next.devices number).trapped = true ↔ world.Stops number event := by
  cases event with
  | gesture device made =>
      obtain ⟨allowed, rfl⟩ := step_gesture.mp taken
      by_cases same : device = number
      · subst same
        rw [perform_devices, Gesture.handle_trapped_iff (whole.devices device running) allowed (account made rfl)]
        refine ⟨.gesture, fun stops => ?_⟩
        cases stops with
        | gesture stops => exact stops
      · rw [perform_other _ _ (Ne.symm same), running]
        refine ⟨fun impossible => (by cases impossible), fun stops => ?_⟩
        cases stops with
        | gesture stops => exact absurd rfl same
  | serve index answer =>
      have alive : (next.devices number).trapped = false := by
        obtain ⟨device, request, _, served⟩ := step_serve.mp taken
        rcases serve_cases served with ⟨_, rfl⟩ | ⟨_, _, rfl⟩ | ⟨uid, isEmailVerified, _, _, rfl⟩
        · exact running
        · exact running
        · obtain ⟨auth, _, same⟩ := world.signIn_device device number uid
          simp only [record, same]
          exact running
      rw [alive]
      refine ⟨fun impossible => (by cases impossible), fun stops => ?_⟩
      cases stops
  | callback index uuid =>
      obtain ⟨device, request, reply, found, _, rfl⟩ := step_callback.mp taken
      by_cases same : device = number
      · subst same
        obtain ⟨lists, copied⟩ := whole.flights _ (List.mem_of_getElem? found)
        have baskets : ∀ uid completion, request = .getBaskets uid completion → ∀ basket, reply.basket = some basket →
            basket.Whole := by
          rintro uid completion rfl basket shown
          exact copied reply rfl basket shown
        rw [callback_of_running running, perform_devices,
          Request.complete_trapped_iff (whole.devices device running) running lists baskets uuid]
        refine ⟨.callback found, fun stops => ?_⟩
        cases stops with
        | callback other stops =>
            obtain ⟨_, rfl, same⟩ := Flight.mk.inj (Option.some.inj (found.symm.trans other))
            exact Option.some.inj same ▸ stops
      · have alive : ((world.callback index device request reply uuid).devices number).trapped = false := by
          rw [World.callback, perform_other _ _ (Ne.symm same)]
          exact running
        rw [alive]
        refine ⟨fun impossible => (by cases impossible), fun stops => ?_⟩
        cases stops with
        | callback other stops =>
            exact absurd (Flight.mk.inj (Option.some.inj (found.symm.trans other))).1 same

namespace Market

variable {market next : Market} {double : String → Option Double} {link : StoragePath → String} {number : Nat}

theorem perform_trapped_iff (market : Market) (publication number : Nat) (outcome : PublishOutcome) :
    ((market.perform publication outcome).shop.devices number).trapped = true ↔
      (market.shop.devices number).trapped = true ∨ outcome.trapped = true ∧ outcome.screen.device = number := by
  unfold perform
  dsimp only
  split
  · rename_i stops
    rw [World.stop_trapped_iff, stops]
    simp
  · rename_i runs
    simp [runs]

/-- The completion of an image stops nothing. -/
theorem complete_shop (uuid : String) (market : Market) (request : PublishRequest) (reply : PublishReply) :
    (market.complete uuid request reply).shop = market.shop := by
  rcases complete_cases uuid market request reply with
    ⟨number, fileName, imageLink, _, _, _, same⟩ | ⟨_, ⟨number, fileName, imageData, _, _, same⟩ | same⟩
  · rw [same]
    rcases imageSaved_cases uuid number imageLink market with same | ⟨publication, screen, _, _, same⟩
    · rw [same]
    · rw [same, perform, Publication.imageSaved_running]
      rfl
  · rw [same]
  · rw [same]

theorem apply_devices (link : StoragePath → String) (market : Market) (request : PublishRequest) :
    (market.apply link request).1.shop.devices = market.shop.devices := by
  cases request <;> rfl

/-- Outside the shop only the upload of a completed form stops an application. -/
theorem step_trapped_iff {event : MarketEvent} (other : ∀ made, event ≠ .shop made)
    (taken : market.step double link event = some next) :
    (next.shop.devices number).trapped = true ↔
      (market.shop.devices number).trapped = true ∨ market.Stops number event := by
  have silent (same : next.shop.devices = market.shop.devices) (never : ¬ market.Stops number event) :
      (next.shop.devices number).trapped = true ↔
        (market.shop.devices number).trapped = true ∨ market.Stops number event := by
    rw [same]
    exact ⟨.inl, fun stops => stops.resolve_right never⟩
  have edited {own : Nat} {change : AddItemScreen → AddItemScreen} (taken : market.edit own change = some next) :
      next.shop.devices = market.shop.devices := by
    obtain ⟨screens, rfl⟩ := edit_screens taken
    rfl
  cases event with
  | shop made => exact absurd rfl (other made)
  | openAddItem device category =>
      obtain rfl := Option.some.inj taken
      exact silent rfl fun stops => by cases stops
  | editFields own title price description => exact silent (edited taken) fun stops => by cases stops
  | cameraButtonWasTapped own => exact silent (edited taken) fun stops => by cases stops
  | didSelectImages own resolvedImages => exact silent (edited taken) fun stops => by cases stops
  | doneButtonWasTapped own connected uuids =>
      obtain ⟨screen, shown, _, ⟨incomplete, rfl⟩ | ⟨completed, _, _, _, rfl⟩⟩ := step_doneButtonWasTapped taken
      · refine silent rfl fun stops => ?_
        cases stops with
        | uploadImages present here completed unencodable =>
            obtain rfl := Option.some.inj (shown.symm.trans present)
            rw [incomplete] at completed
            cases completed
      · obtain ⟨device, trapped⟩ :=
          screen.saveToFireStore_trapped_iff double connected uuids own market.publications.length
        rw [perform_trapped_iff, trapped, device]
        refine or_congr Iff.rfl ⟨?_, fun stops => ?_⟩
        · rintro ⟨⟨rfl, unencodable⟩, here⟩
          exact .uploadImages shown here completed unencodable
        · cases stops with
          | uploadImages present here _ unencodable =>
              obtain rfl := Option.some.inj (shown.symm.trans present)
              exact ⟨⟨rfl, unencodable⟩, here⟩
  | saveCategoryToFireStore category uuid =>
      obtain ⟨_, rfl⟩ := step_saveCategoryToFireStore taken
      exact silent rfl fun stops => by cases stops
  | serve index succeeds =>
      obtain ⟨request, _, ⟨_, rfl⟩ | ⟨_, rfl⟩⟩ := step_serve taken
      · exact silent (apply_devices link market request) fun stops => by cases stops
      · exact silent rfl fun stops => by cases stops
  | callback index uuid =>
      obtain ⟨request, reply, _, _, ⟨_, rfl⟩ | ⟨_, rfl⟩⟩ := step_callback taken
      · exact silent rfl fun stops => by cases stops
      · refine silent ?_ fun stops => by cases stops
        rw [complete_shop]

/-- A stopped application stays stopped. -/
theorem step_trapped {event : MarketEvent} (taken : market.step double link event = some next)
    (running : (next.shop.devices number).trapped = false) : (market.shop.devices number).trapped = false := by
  by_cases ofShop : ∃ made, event = .shop made
  · obtain ⟨made, rfl⟩ := ofShop
    obtain ⟨_, shop, stepped, rfl⟩ := step_shop taken
    exact World.step_trapped stepped running
  · rw [Bool.eq_false_iff] at running ⊢
    have stops : (next.shop.devices number).trapped = true ↔
        (market.shop.devices number).trapped = true ∨ market.Stops number event :=
      step_trapped_iff (fun made same => ofShop ⟨made, same⟩) taken
    exact fun stopped => running (stops.mpr (.inl stopped))

end Market

/-- A stopped application of the app stays stopped. -/
theorem App.Steps.stopped {app next : App} {double : String → Option Double} {link : StoragePath → String}
    {event : AppEvent} {number : Nat} (steps : app.Steps double link event next)
    (stopped : (app.device number).trapped = true) : (next.device number).trapped = true := by
  refine steps.market_of (fun market => (market.shop.devices number).trapped = true) ?_ stopped ?_
  · exact fun market other held => (market.shop.stop_trapped_iff other number).mpr (.inl held)
  · intro given after _ taken
    by_contra running
    have before := Market.step_trapped taken (Bool.eq_false_iff.mpr running)
    exact absurd stopped (Bool.eq_false_iff.mp before)

end ShoppingApp
