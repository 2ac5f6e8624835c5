import ShoppingApp.Proof.ProfileTabs
import ShoppingApp.Proof.References

namespace ShoppingApp

/-- The fields that the forms of the profile ask for. -/
def profileKeys : List Key := [.firstName, .lastName, .fullAddress]

/-- The field has text. -/
def Dictionary.Filled (dictionary : Dictionary) (key : Key) : Prop :=
  ∃ text, dictionary key = some (.string text) ∧ text ≠ ""

/-- An onboarded record has both names and the address, and no update empties one of them. -/
def profileRule : RecordRule where
  holds record := record .onboard = some (.bool true) → ∀ key ∈ profileKeys, record.Filled key
  fits values := (∀ key ∈ profileKeys, values key = none ∨ values.Filled key) ∧
    (values .onboard = none ∨ ∀ key ∈ profileKeys, values.Filled key)
  created _ _ onboarded := by cases onboarded
  patch := by
    intro record values holds fits onboarded key member
    have patched {text : String} (written : values key = some (.string text)) :
        Record.patch record values key = some (.string text) := by rw [Record.patch, written, Option.some_or]
    rcases fits.1 key member with absent | ⟨text, written, some⟩
    · rcases fits.2 with silent | filled
      · rw [Record.patch, silent, Option.none_or] at onboarded
        obtain ⟨text, stored, some⟩ := holds onboarded key member
        exact ⟨text, by rw [Record.patch, absent, Option.none_or, stored], some⟩
      · obtain ⟨text, written, some⟩ := filled key member
        exact ⟨text, patched written, some⟩
    · exact ⟨text, patched written, some⟩

/-- A user with both names and an address can be delivered to. -/
structure MUser.Complete (user : MUser) : Prop where
  firstName : user.firstName ≠ ""
  lastName : user.lastName ≠ ""
  fullAddress : ∃ address, user.fullAddress = some address ∧ address ≠ ""

/-- The forms of the profile tabs are checked. -/
def App.Forms (app : App) : Prop :=
  ∀ number, ∀ tab ∈ app.profiles number, ∀ form, tab.page = .finishRegistration form → form.Checked

/-- A decoded user is complete when the rule holds of the record. -/
theorem MUser.complete_of_onboarded {record : Dictionary} {user : MUser} (holds : profileRule.holds record)
    (decoded : MUser.ofDictionary record = some user) (onboarded : user.onBoard = true) : user.Complete := by
  simp only [ofDictionary, Option.bind_eq_bind, Option.bind_eq_some_iff, Option.some.injEq] at decoded
  obtain ⟨objectId, _, email, _, firstName, hasFirst, lastName, hasLast, fullAddress, hasAddress, onBoard,
    hasOnBoard, history, _, rfl⟩ := decoded
  have flag : record .onboard = some (.bool true) := by
    unfold Dictionary.force at hasOnBoard
    split at hasOnBoard
    · rw [← Option.some.inj hasOnBoard] at onboarded
      cases onboarded
    · rename_i value present
      cases value <;> simp_all [Value.asBool]
  have read {key : Key} {text : String} (forced : record.force Value.asString key "" = some text)
      (member : key ∈ profileKeys) : text ≠ "" := by
    obtain ⟨written, stored, some⟩ := holds flag key member
    rw [Dictionary.force, stored] at forced
    exact Option.some.inj forced ▸ some
  exact ⟨read hasFirst (by decide), read hasLast (by decide), fullAddress, rfl, read hasAddress (by decide)⟩

/-- The values of a form with text in all fields fit the rule. -/
theorem profileRule_fits {name surname address : String} (filled : name ≠ "" ∧ surname ≠ "" ∧ address ≠ "") :
    profileRule.fits (profileValues name surname address) ∧
      profileRule.fits (onboardingValues name surname address) := by
  have values (dictionary : Dictionary) (first : dictionary .firstName = some (.string name))
      (last : dictionary .lastName = some (.string surname))
      (whole : dictionary .fullAddress = some (.string address)) :
      ∀ key ∈ profileKeys, dictionary.Filled key := by
    intro key member
    simp only [profileKeys, List.mem_cons, List.not_mem_nil, or_false] at member
    rcases member with rfl | rfl | rfl
    · exact ⟨name, first, filled.1⟩
    · exact ⟨surname, last, filled.2.1⟩
    · exact ⟨address, whole, filled.2.2⟩
  have profile := values (profileValues name surname address) rfl rfl rfl
  have onboarding := values (onboardingValues name surname address) rfl rfl rfl
  exact ⟨⟨fun key member => .inr (profile key member), .inl rfl⟩,
    fun key member => .inr (onboarding key member), .inr onboarding⟩

/-- The gestures of the screens fit the rule when the onboarding form is filled. -/
theorem Gesture.fits_profileRule {device : Device} {made : Gesture} (offered : made.offered = true)
    (filled : ∀ name surname address, made = .finishOnboarding name surname address →
      name ≠ "" ∧ surname ≠ "" ∧ address ≠ "") : made.Fits profileRule device := by
  intro uid values userObject member
  cases made with
  | saveProfile name surname address =>
      simp only [handle, Device.saveBarButtonPressed] at member
      split at member
      · rename_i complete
        obtain ⟨_, _, _, _, same⟩ := Device.updateCurrentUserInFirestore_issued member
        cases same
        exact (profileRule_fits complete).1
      · cases member
  | finishOnboarding name surname address =>
      obtain ⟨_, _, _, _, same⟩ := Device.updateCurrentUserInFirestore_issued member
      cases same
      exact (profileRule_fits (filled name surname address rfl)).2
  | completePayment =>
      cases issues_of_mem member
      refine ⟨fun key member => .inl ?_, .inl rfl⟩
      simp only [profileKeys, List.mem_cons, List.not_mem_nil, or_false] at member
      rcases member with rfl | rfl | rfl <;> rfl
  | updateUser withValues => cases offered
  | _ => cases issues_of_mem member

namespace App

variable {app next : App} {double : String → Option Double} {link : StoragePath → String} {event : AppEvent}

/-- The forms stay checked. -/
theorem Forms.step (forms : app.Forms) (steps : app.Steps double link event next) : next.Forms := by
  rcases steps.turns with same | ⟨number, tab, turns, same⟩
  · exact fun other shown member => forms other shown (same ▸ member)
  · have checked : ∀ form, tab.page = .finishRegistration form → form.Checked := by
      intro form page
      cases turns with
      | @appears user appeared current => cases user <;> cases page
      | editProfile shown enabled => cases page
      | finishRegistration shown enabled checked =>
          cases page
          exact checked
      | purchasedHistory shown enabled opened => cases page
      | back shown => cases page
    intro other
    rw [same]
    revert other
    refine (Function.forall_update_iff app.profiles fun _ shown => ∀ tab ∈ shown, ∀ form,
      tab.page = .finishRegistration form → form.Checked).mpr ⟨?_, fun other _ => forms other⟩
    rintro _ ⟨⟩
    exact checked

/-- The records are onboarded only with a whole profile. -/
structure Profiled (app : App) : Prop where
  forms : app.Forms
  records : app.market.shop.Ruled profileRule

theorem Profiled.step (profiled : app.Profiled) (taken : app.step double link event = some next) : next.Profiled := by
  have steps := steps_of_step taken
  refine ⟨profiled.forms.step steps, ?_⟩
  refine steps.shop_of (World.Ruled profileRule) (fun _ _ aside ruled => aside.ruled ruled) profiled.records ?_
  intro made shop hands stepped
  refine profiled.records.step ?_ stepped
  rintro number gesture rfl
  refine Gesture.fits_profileRule hands.offered ?_
  rintro name surname address rfl
  cases hands with
  | market direct => cases direct
  | @finishOnboarding _ tab form shown page enabled =>
      exact profiled.forms number tab (tab_profiles shown) form page enabled

theorem Profiled.start : App.start.Profiled := by
  refine ⟨fun number tab shown => ?_, World.Ruled.initial (fun _ => rfl) (fun _ => rfl) rfl⟩
  cases shown

theorem Profiled.run {events : List AppEvent} (profiled : app.Profiled)
    (ran : app.run double link events = some next) : next.Profiled :=
  Transition.run_invariant Profiled (fun _ _ _ profiled _ taken => profiled.step taken) profiled
    (.of_all (fun _ _ => trivial) app events) ran

theorem Profiled.complete (profiled : app.Profiled) {number : Nat} {user : MUser}
    (current : (app.device number).currentUser = some (some user)) (onboarded : user.onBoard = true) :
    user.Complete := by
  obtain ⟨_, record, _, cached, decoded⟩ := Device.currentUser_eq_some current
  exact MUser.complete_of_onboarded (profiled.records.cached number record cached) decoded onboarded

end App

/-- Only an onboarded user is shown a payment. -/
theorem Device.checkOutButtonWasTapped_onBoard {device : Device} {processable : Bool}
    (uncovered : device.screen.payment = none)
    (shown : (device.checkOutButtonWasTapped processable).device.screen.payment ≠ none) :
    ∃ user, device.currentUser = some (some user) ∧ user.onBoard = true := by
  unfold checkOutButtonWasTapped withCurrentUser at shown
  split at shown
  · exact absurd uncovered shown
  · exact absurd uncovered shown
  · rename_i user current
    dsimp only at shown
    split at shown
    · rename_i onboarded
      exact ⟨user, current, onboarded⟩
    · exact absurd uncovered shown

/-- In every run, a stored or current user that is onboarded has both names and an address, and so has the user of each
checkout tap that presents a payment. -/
theorem onboarded_users_are_complete (double : String → Option Double) (link : StoragePath → String) {final : App}
    {events : List AppEvent} (ran : App.start.run double link events = some final) :
    (∀ userId record user, final.market.shop.store.data .user userId = some record →
      MUser.ofDictionary record = some user → user.onBoard = true → user.Complete) ∧
    (∀ number user, (final.device number).currentUser = some (some user) → user.onBoard = true → user.Complete) ∧
    ∀ number processable next,
      final.step double link (.market (.shop (.gesture number (.checkOut processable)))) = some next →
      (next.device number).screen.payment ≠ none →
        ∃ user, (final.device number).currentUser = some (some user) ∧ user.Complete := by
  have profiled := App.Profiled.start.run ran
  refine ⟨fun userId record user stored decoded onboarded => ?_, fun number user => profiled.complete, ?_⟩
  · exact MUser.complete_of_onboarded (profiled.records.stored userId record stored) decoded onboarded
  · intro number processable next taken paying
    obtain ⟨market, stepped, rfl⟩ := Option.map_eq_some_iff.mp taken
    obtain ⟨_, shop, made, rfl⟩ := Market.step_shop stepped
    obtain ⟨allowed, rfl⟩ := World.step_gesture.mp made
    have uncovered : (final.device number).screen.payment = none := by
      simp only [Gesture.allowed, Bool.and_eq_true, Option.isNone_iff_eq_none] at allowed
      exact allowed.1.2
    have shown : ((final.device number).checkOutButtonWasTapped processable).device.screen.payment ≠ none := by
      simpa [App.device, Gesture.handle] using paying
    obtain ⟨user, current, onboarded⟩ := Device.checkOutButtonWasTapped_onBoard uncovered shown
    exact ⟨user, current, profiled.complete current onboarded⟩

/-- A new account finishes its registration. -/
def firstRegistration : List AppEvent :=
  [.market (.shop (.gesture 0 (.login "a@mail"))), .market (.shop (.serve 0 (.account "a" true))),
    .market (.shop (.callback 0 "n1")), .market (.shop (.serve 0 .success)), .market (.shop (.callback 0 "n2")),
    .market (.shop (.serve 0 .success)), .market (.shop (.callback 0 "n3")), .profileDidAppear 0,
    .finishRegistrationTapped 0, .textFieldDidChange 0 "Ann" "Lee" "1 Road", .doneButtonPressed 0,
    .market (.shop (.serve 0 .success)), .market (.shop (.callback 0 "n4"))]

/-- The new account is onboarded with its name. -/
theorem onboarded_users_are_complete_first :
    ∃ final user, App.start.run sellerDouble sellerLink firstRegistration = some final ∧
      (final.device 0).currentUser = some (some user) ∧ user.firstName = "Ann" ∧ user.Complete := by
  have complete := (onboarded_users_are_complete sellerDouble sellerLink
    (rfl : App.start.run sellerDouble sellerLink firstRegistration = some _)).2.1 0 _ rfl rfl
  exact ⟨_, _, rfl, rfl, rfl, complete⟩

end ShoppingApp
