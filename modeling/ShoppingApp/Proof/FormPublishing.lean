import ShoppingApp.Proof.FormRun

namespace ShoppingApp

/-- The identifier under which an item has been saved. -/
def Written.saved : Saved → Written → Option String
  | .document, .document _ name _ => some name
  | .record, .record _ withID => some withID
  | _, _ => none

/-- The Done button of the form is tapped with a connection, and every request succeeds. -/
def MarketEvent.SucceedsOnForm (own : Nat) : MarketEvent → Prop
  | .doneButtonWasTapped screen connected _ => screen = own ∧ connected = true
  | .serve _ succeeds => succeeds = true
  | .callback _ _ => True
  | _ => False

/-- A request goes on. -/
def MarketEvent.OfRequest : MarketEvent → Prop
  | .serve _ _ | .callback _ _ => True
  | _ => False

theorem MarketEvent.SucceedsOnForm.onForm {own : Nat} {event : MarketEvent} (succeeds : event.SucceedsOnForm own) :
    event.OnForm own := by
  cases event with
  | doneButtonWasTapped other connected uuids => exact succeeds.1
  | serve index outcome => trivial
  | callback index uuid => trivial
  | _ => exact succeeds

/-- A step of a request is on every form and taps nothing. -/
theorem MarketEvent.OfRequest.onForm {event : MarketEvent} (request : event.OfRequest) (own : Nat) :
    event.OnForm own ∧ event.tap = none := by
  cases event with
  | serve index outcome => exact ⟨trivial, rfl⟩
  | callback index uuid => exact ⟨trivial, rfl⟩
  | _ => exact absurd request id

/-- A request of a publication uploads an image, or it saves the document or the search record. -/
theorem PublishRequest.kinds {request : PublishRequest} {number : Nat} (owned : request.publication = some number) :
    ((request.saved .record).isSome = true ↔
      request.upload number = none ∧ request.saved .document = none) := by
  cases request with
  | putData owner fileName imageData =>
      refine ⟨fun saves => Bool.noConfusion saves, fun ⟨silent, _⟩ => ?_⟩
      cases (if_pos (Option.some.inj owned)).symm.trans silent
  | downloadURL owner fileName =>
      refine ⟨fun saves => Bool.noConfusion saves, fun ⟨silent, _⟩ => ?_⟩
      cases (if_pos (Option.some.inj owned)).symm.trans silent
  | setItem owner name data =>
      refine ⟨fun saves => Bool.noConfusion saves, fun ⟨_, silent⟩ => ?_⟩
      cases silent
  | addObject owner object withID => exact ⟨fun _ => ⟨rfl, rfl⟩, fun _ => rfl⟩
  | setCategory name data => cases owned

namespace FormEntry

def Succeeds : FormEntry → Prop
  | .tapped _ connected => connected = true
  | .answered _ succeeds => succeeds = true

/-- The identifier under which a successful request has saved an item. -/
def stored (saved : Saved) : FormEntry → Option String
  | .tapped _ _ | .answered _ false => none
  | .answered request true => request.saved saved

theorem mem_outcome {past : List FormEntry} {saved : Saved} {succeeds : Bool} :
    succeeds ∈ past.filterMap (outcome saved) ↔
      ∃ request, .answered request succeeds ∈ past ∧ (request.saved saved).isSome = true := by
  constructor
  · intro member
    obtain ⟨entry, inside, shown⟩ := List.mem_filterMap.mp member
    cases entry with
    | tapped number connected => cases shown
    | answered request answer =>
        obtain ⟨name, saves, rfl⟩ := Option.map_eq_some_iff.mp shown
        exact ⟨request, inside, Option.isSome_of_eq_some saves⟩
  · rintro ⟨request, inside, saves⟩
    obtain ⟨name, saves⟩ := Option.isSome_iff_exists.mp saves
    exact List.mem_filterMap.mpr ⟨_, inside, Option.map_eq_some_iff.mpr ⟨name, saves, rfl⟩⟩

/-- Something is saved by a request that succeeds. -/
theorem stored_ne_nil {past : List FormEntry} {saved : Saved} :
    past.filterMap (stored saved) ≠ [] ↔ true ∈ past.filterMap (outcome saved) := by
  rw [mem_outcome, ne_eq, List.filterMap_eq_nil_iff]
  constructor
  · intro some
    by_contra silent
    refine some fun entry member => ?_
    cases entry with
    | tapped number connected => rfl
    | answered request succeeds =>
        cases succeeds with
        | false => rfl
        | true => exact Option.not_isSome_iff_eq_none.mp fun saves => silent ⟨request, member, saves⟩
  · rintro ⟨request, member, saves⟩ silent
    have none : request.saved saved = Option.none := silent _ member
    rw [none] at saves
    cases saves

end FormEntry

namespace Market

variable {market next : Market}

/-- The taps of a run are its taps in the log. -/
theorem log_taps {double : String → Option Double} {link : StoragePath → String} {events : List MarketEvent}
    (ran : market.run double link events = some next) :
    (Transition.log (Market.step double link) formEntries market events).filterMap FormEntry.tap =
      events.filterMap MarketEvent.tap := by
  refine (Transition.log_filterMap (fun market event => ?_) market events).trans
    (congrArg (List.filterMap MarketEvent.tap) (Transition.log_events ran))
  cases event with
  | serve index succeeds =>
      unfold formEntries
      dsimp only
      split <;> rfl
  | _ => rfl

/-- What has been saved is what a successful request saves. -/
theorem log_saved (double : String → Option Double) (link : StoragePath → String) (saved : Saved)
    (events : List MarketEvent) :
    (Transition.log (Market.step double link) Market.written market events).filterMap (Written.saved saved) =
      (Transition.log (Market.step double link) formEntries market events).filterMap (FormEntry.stored saved) := by
  refine Transition.log_filterMap (fun market event => ?_) market events
  cases event with
  | serve index succeeds =>
      have one (request : PublishRequest) : request.written.filterMap (Written.saved saved) =
          [FormEntry.answered request true].filterMap (FormEntry.stored saved) := by
        cases request <;> cases saved <;> rfl
      cases found : market.flights[index]? with
      | none => cases succeeds <;> simp [formEntries, Market.written, found]
      | some flight =>
          obtain ⟨request, reply⟩ := flight
          cases reply with
          | some reply => cases succeeds <;> simp [formEntries, Market.written, found]
          | none =>
              cases succeeds with
              | true => simpa only [formEntries, Market.written, found] using one request
              | false => simp [formEntries, Market.written, found, FormEntry.stored]
  | _ => rfl

/-- Every entry of a run that succeeds is a success. -/
theorem log_succeeds {double : String → Option Double} {link : StoragePath → String} {own : Nat}
    {events : List MarketEvent} (succeed : ∀ event ∈ events, event.SucceedsOnForm own)
    (ran : market.run double link events = some next) :
    ∀ entry ∈ Transition.log (Market.step double link) formEntries market events, entry.Succeeds := by
  refine Transition.run_log (fun _ past => ∀ entry ∈ past, FormEntry.Succeeds entry)
    (fun market event _ past before succeeds _ => ?_) (fun entry member => absurd member List.not_mem_nil)
    (Transition.Along.of_forall succeed) ran
  refine Pool.forall_append before fun entry member => ?_
  cases event with
  | doneButtonWasTapped screen connected uuids =>
      rw [List.mem_singleton.mp member]
      exact succeeds.2
  | serve index outcome =>
      unfold formEntries at member
      dsimp only at member
      split at member
      · rw [List.mem_singleton.mp member]
        exact succeeds
      · cases member
  | _ => cases member

/-- When every request has succeeded, each finished publication has saved its document and its search record. -/
theorem Form.stored_length {own size : Nat} {screen current : AddItemScreen} {past : List FormEntry}
    (form : market.Form own size screen past current) (answered : market.flights = [])
    (entries : ∀ entry ∈ past, entry.Succeeds) (saved : Saved) :
    (past.filterMap (FormEntry.stored saved)).length = market.finished size := by
  have total := form.saved saved
  rw [answered, List.filterMap_nil, List.length_nil, Nat.add_zero] at total
  rw [← total, List.length_filterMap_eq_countP, List.length_filterMap_eq_countP]
  refine List.countP_congr fun entry member => ?_
  have succeeds := entries entry member
  cases entry with
  | tapped number connected => rfl
  | answered request outcome =>
      obtain rfl : outcome = true := succeeds
      rw [FormEntry.stored, FormEntry.outcome, Option.isSome_map]

/-- When every request has succeeded, all publications of the form are finished, or its images cannot be encoded. -/
theorem Form.finished_eq {own size : Nat} {screen current : AddItemScreen} {past : List FormEntry}
    (form : market.Form own size screen past current) (answered : market.flights = [])
    (entries : ∀ entry ∈ past, entry.Succeeds) :
    (Encodable screen.itemImages → market.finished size = (past.filterMap FormEntry.tap).length) ∧
      (¬ Encodable screen.itemImages → market.finished size = 0) := by
  have decided : ∀ publication ∈ market.publications.drop size,
      (publication.finished = true ↔ Encodable screen.itemImages) := by
    intro publication member
    obtain ⟨index, present⟩ := List.getElem?_of_mem member
    rw [List.getElem?_drop] at present
    have behind := Nat.le_add_right size index
    rw [form.finished_iff answered behind present]
    refine ⟨Sound.encodable, fun encodable => ⟨.inr ⟨?_, encodable⟩, fun request failed => ?_⟩⟩
    · obtain ⟨connected, tapped⟩ := form.tapped _ behind (List.getElem?_eq_some_iff.mp present).1
      obtain rfl : connected = true := entries _ tapped
      exact tapped
    · exact absurd (entries _ failed) Bool.false_ne_true
  constructor
  · intro encodable
    calc
      market.finished size = (market.publications.drop size).length :=
        List.countP_eq_length.mpr fun publication member => (decided publication member).mpr encodable
      _ = (past.filterMap FormEntry.tap).length := by rw [List.length_drop, ← form.taps, Nat.add_sub_cancel]
  · intro broken
    exact List.countP_eq_zero.mpr fun publication member done => broken ((decided publication member).mp done)

end Market

/-- All requests succeed: one document and one search record are saved and the screen is popped once exactly if Done is
tapped once and every image can be encoded. -/
theorem one_item_iff_one_tap (double : String → Option Double) (link : StoragePath → String) {market final : Market}
    {own : Nat} {screen : AddItemScreen} {events : List MarketEvent} (idle : market.flights = [])
    (shown : market.screens[own]? = some screen) (usable : market.usable screen = true)
    (completed : screen.fieldsAreCompleted = true) (succeed : ∀ event ∈ events, event.SucceedsOnForm own)
    (ran : market.run double link events = some final) (answered : final.flights = []) :
    (((Transition.log (Market.step double link) Market.written market events).filterMap
        (Written.saved .document)).length = 1 ∧
      ((Transition.log (Market.step double link) Market.written market events).filterMap
        (Written.saved .record)).length = 1 ∧
      ∃ left, final.screens[own]? = some left ∧ left.popped = 1) ↔
    (events.filterMap MarketEvent.tap).length = 1 ∧ Encodable screen.itemImages := by
  have onForm : ∀ event ∈ events, event.OnForm own := fun event member => (succeed event member).onForm
  obtain ⟨left, form⟩ := (Market.Form.initial idle shown usable).run completed onForm ran
  have entries := Market.log_succeeds succeed ran
  rw [Market.log_saved, Market.log_saved, ← Market.log_taps ran]
  generalize Transition.log (Market.step double link) Market.formEntries market events = past at *
  have popped : (∃ left, final.screens[own]? = some left ∧ left.popped = 1) ↔
      final.finished market.publications.length = 1 := by
    rw [← form.popped]
    refine ⟨fun visible => ?_, fun once => ⟨left, form.shown, once⟩⟩
    obtain ⟨other, found, once⟩ := visible
    obtain rfl := Option.some.inj (form.shown.symm.trans found)
    exact once
  have finished := form.finished_eq answered entries
  rw [form.stored_length answered entries, form.stored_length answered entries, popped, and_self, and_self]
  by_cases encodable : Encodable screen.itemImages
  · rw [finished.1 encodable]
    exact (and_iff_left encodable).symm
  · rw [finished.2 encodable]
    exact ⟨fun impossible => absurd impossible Nat.zero_ne_one, fun both => absurd both.2 encodable⟩

/-- A form with one image is filled. -/
def filledForm : AddItemScreen :=
  { device := 0, category := sellerCategory, titleTextField := "Shirt", priceTextField := "1",
    descriptionTextView := "A shirt", itemImages := [some ⟨some [0]⟩] }

def filledMarket : Market := { sellerMarket with screens := [filledForm] }

/-- The image is stored and linked, and the item is written and indexed. -/
def formPublication : List MarketEvent :=
  [.serve 0 true, .callback 0 "C", .serve 0 true, .callback 0 "D", .serve 0 true, .serve 1 true, .callback 0 "E",
    .callback 0 "F"]

theorem filledForm_encodable : Encodable filledForm.itemImages := by
  intro image member
  rw [List.mem_singleton.mp member]
  rfl

theorem formPublication_succeeds :
    ∀ event ∈ MarketEvent.doneButtonWasTapped 0 true ("A", "B") :: formPublication, event.SucceedsOnForm 0 := by
  simp [formPublication, MarketEvent.SucceedsOnForm]

theorem one_item_of_one_tap :
    ∃ final, filledMarket.run sellerDouble sellerLink (.doneButtonWasTapped 0 true ("A", "B") :: formPublication) =
        some final ∧
      ((Transition.log (Market.step sellerDouble sellerLink) Market.written filledMarket
        (.doneButtonWasTapped 0 true ("A", "B") :: formPublication)).filterMap (Written.saved .document)).length = 1 ∧
      ∃ left, final.screens[0]? = some left ∧ left.popped = 1 := by
  obtain ⟨final, ran, answered⟩ : ∃ final, filledMarket.run sellerDouble sellerLink
      (.doneButtonWasTapped 0 true ("A", "B") :: formPublication) = some final ∧ final.flights = [] := ⟨_, rfl, rfl⟩
  obtain ⟨documents, _, left⟩ := (one_item_iff_one_tap sellerDouble sellerLink rfl rfl rfl rfl formPublication_succeeds
    ran answered).mpr ⟨rfl, filledForm_encodable⟩
  exact ⟨final, ran, documents, left⟩

/-- Done is tapped twice, and every request succeeds. -/
def doublePublication : List MarketEvent :=
  [.doneButtonWasTapped 0 true ("A", "B"), .doneButtonWasTapped 0 true ("C", "D"), .serve 0 true, .serve 1 true,
    .callback 0 "E", .callback 0 "F", .serve 0 true, .serve 1 true, .callback 0 "G", .callback 0 "H", .serve 0 true,
    .serve 1 true, .serve 2 true, .serve 3 true, .callback 0 "I", .callback 0 "J", .callback 0 "K", .callback 0 "L"]

/-- The second tap publishes the item again, and the second pop leaves another screen. -/
theorem two_taps_publish_twice :
    ∃ final left, filledMarket.run sellerDouble sellerLink doublePublication = some final ∧ final.flights = [] ∧
      (Transition.log (Market.step sellerDouble sellerLink) Market.written filledMarket doublePublication).filterMap
        (Written.saved .document) = ["G", "H"] ∧
      (Transition.log (Market.step sellerDouble sellerLink) Market.written filledMarket doublePublication).filterMap
        (Written.saved .record) = ["G", "H"] ∧
      final.screens[0]? = some left ∧ left.popped = 2 :=
  ⟨_, _, rfl, rfl, rfl, rfl, rfl, rfl⟩

/-- The tap on Done finishes exactly if the images can be sent and no request but the one to the search index fails. -/
theorem publishing_finishes_iff (double : String → Option Double) (link : StoragePath → String)
    {market final : Market} {own : Nat} {connected : Bool} {uuids : String × String} {screen : AddItemScreen}
    {rest events : List MarketEvent} (idle : market.flights = []) (shown : market.screens[own]? = some screen)
    (completed : screen.fieldsAreCompleted = true) (requests : ∀ event ∈ rest, event.OfRequest)
    (whole : events = .doneButtonWasTapped own connected uuids :: rest)
    (ran : market.run double link events = some final) (answered : final.flights = []) :
    (∃ left, final.screens[own]? = some left ∧ left.loading = false ∧
      (left.popped = 1 ∧
          (Transition.log (Market.step double link) Market.written market events).filterMap
            (Written.saved .document) ≠ [] ∨
        left.popped = 0 ∧
          (Transition.log (Market.step double link) Market.written market events).filterMap
            (Written.saved .document) = [] ∧
          (Transition.log (Market.step double link) Market.written market events).filterMap
            (Written.saved .record) = [])) ↔
    (screen.itemImages = [] ∨ connected = true ∧ Encodable screen.itemImages) ∧
      ∀ request, .answered request false ∈ Transition.log (Market.step double link) Market.formEntries market events →
        (request.saved .record).isSome = true := by
  have onForm : ∀ event ∈ events, event.OnForm own := by
    rw [whole]
    exact List.forall_mem_cons.mpr ⟨rfl, fun event member => ((requests event member).onForm own).1⟩
  have usable : market.usable screen = true := by
    rw [whole] at ran
    obtain ⟨next, taken, _⟩ := Transition.run_cons.mp ran
    obtain ⟨other, found, usable, _⟩ := Market.step_doneButtonWasTapped taken
    obtain rfl := Option.some.inj (shown.symm.trans found)
    exact usable
  have tapped : events.filterMap MarketEvent.tap = [connected] := by
    have first : MarketEvent.tap (.doneButtonWasTapped own connected uuids) = some connected := rfl
    rw [whole, List.filterMap_cons_some first]
    refine congrArg (List.cons connected) (List.filterMap_eq_nil_iff.mpr fun event member => ?_)
    exact ((requests event member).onForm own).2
  obtain ⟨left, form⟩ := (Market.Form.initial idle shown usable).run completed onForm ran
  rw [Market.log_saved, Market.log_saved]
  rw [← Market.log_taps ran] at tapped
  generalize Transition.log (Market.step double link) Market.formEntries market events = past at *
  obtain ⟨publication, present, stays, leaves⟩ := form.ended answered tapped
  have sound := (form.finished_iff answered (Nat.le_refl _) present).trans (form.single tapped).2
  cases done : publication.finished with
  | false =>
      obtain ⟨_, loading⟩ := stays done
      constructor
      · rintro ⟨other, found, hidden, _⟩
        obtain rfl := Option.some.inj (form.shown.symm.trans found)
        rw [loading] at hidden
        cases hidden
      · rintro ⟨images, failures⟩
        refine absurd (sound.mpr ⟨images, fun request failed => ?_⟩) (by rw [done]; exact Bool.false_ne_true)
        exact ((PublishRequest.kinds (form.owned tapped failed)).mp (failures request failed)).1
  | true =>
      obtain ⟨popped, hidden, succeeds, answer⟩ := leaves done
      obtain ⟨images, succeeded⟩ := sound.mp done
      have written : past.filterMap (FormEntry.stored .document) ≠ [] ↔ succeeds = true := by
        rw [FormEntry.stored_ne_nil, answer, List.mem_singleton, eq_comm]
      constructor
      · rintro ⟨other, found, _, ⟨_, stored⟩ | ⟨never, _⟩⟩
        · refine ⟨images, fun request failed => ?_⟩
          refine (PublishRequest.kinds (form.owned tapped failed)).mpr ⟨succeeded request failed, ?_⟩
          by_contra saves
          have lost : false ∈ past.filterMap (FormEntry.outcome .document) :=
            FormEntry.mem_outcome.mpr ⟨request, failed, Option.isSome_iff_ne_none.mpr saves⟩
          rw [answer, List.mem_singleton] at lost
          rw [← lost] at written
          exact Bool.false_ne_true (written.mp stored)
        · obtain rfl := Option.some.inj (form.shown.symm.trans found)
          rw [popped] at never
          cases never
      · rintro ⟨_, failures⟩
        refine ⟨left, form.shown, hidden, .inl ⟨popped, written.mpr ?_⟩⟩
        cases succeeds with
        | true => rfl
        | false =>
            obtain ⟨request, failed, saves⟩ := FormEntry.mem_outcome.mp (answer ▸ List.mem_singleton_self false)
            have other := ((PublishRequest.kinds (form.owned tapped failed)).mp (failures request failed)).2
            rw [other] at saves
            cases saves

theorem publishing_finishes_with_image :
    ∃ final left, filledMarket.run sellerDouble sellerLink (.doneButtonWasTapped 0 true ("A", "B") :: formPublication) =
      some final ∧ final.screens[0]? = some left ∧ left.loading = false := by
  obtain ⟨final, ran, answered⟩ : ∃ final, filledMarket.run sellerDouble sellerLink
      (.doneButtonWasTapped 0 true ("A", "B") :: formPublication) = some final ∧ final.flights = [] := ⟨_, rfl, rfl⟩
  have requests : ∀ event ∈ formPublication, event.OfRequest := by simp [formPublication, MarketEvent.OfRequest]
  obtain ⟨left, found, hidden, _⟩ :=
    (publishing_finishes_iff sellerDouble sellerLink rfl rfl rfl requests rfl ran answered).mpr
      ⟨.inr ⟨rfl, filledForm_encodable⟩, fun request failed =>
        absurd (Market.log_succeeds formPublication_succeeds ran _ failed) Bool.false_ne_true⟩
  exact ⟨final, left, ran, found, hidden⟩

/-- The only upload fails, every request has been answered, and the loading indicator stays. -/
theorem failed_upload_keeps_loading :
    ∃ final left, filledMarket.run sellerDouble sellerLink
        [.doneButtonWasTapped 0 true ("A", "B"), .serve 0 false, .callback 0 "C"] = some final ∧
      final.flights = [] ∧ final.screens[0]? = some left ∧ left.loading = true ∧ left.popped = 0 :=
  ⟨_, _, rfl, rfl, rfl, rfl, rfl⟩

end ShoppingApp
