import ShoppingApp.Proof.ProfileTabs

namespace ShoppingApp

/-- A profile tab with an enabled button or an opened page belongs to a signed-in user, and an opened history exists. -/
structure App.Tabs (app : App) : Prop where
  session : ∀ number, ∀ tab ∈ app.profiles number, tab = .ofUser none ∨ (app.device number).SignedIn
  histories : ∀ number, ∀ tab ∈ app.profiles number, ∀ own, tab.page = .purchasedHistory own →
    own < app.histories.length

theorem Device.SignedIn.congr {before after : Device} (signedIn : before.SignedIn) (auth : after.auth = before.auth)
    (defaults : after.defaults = before.defaults) : after.SignedIn :=
  ⟨auth ▸ signedIn.auth, defaults ▸ signedIn.defaults⟩

/-- A current user is signed in. -/
theorem Device.signedIn_of_current {device : Device} {user : MUser} (current : device.currentUser = some (some user)) :
    device.SignedIn := by
  obtain ⟨uid, record, signedIn, cached, _⟩ := currentUser_eq_some current
  exact ⟨signedIn ▸ Option.some_ne_none uid, cached ▸ Option.some_ne_none record⟩

/-- A completion signs nobody out. -/
theorem Request.complete_signedIn {device : Device} (signedIn : device.SignedIn) (uuid : String) (request : Request)
    (reply : Reply) : (request.complete uuid reply device).device.SignedIn := by
  refine ⟨(complete_checkout uuid request reply device).1 ▸ signedIn.auth, ?_⟩
  rw [complete_defaults]
  cases request.saved reply with
  | none => exact signedIn.defaults
  | some record => exact Option.some_ne_none record

/-- Only a successful logout ends the session of a device. -/
theorem World.step_signedIn {world next : World} {event : Event} {number : Nat} (taken : world.step event = some next)
    (signedIn : (world.devices number).SignedIn) (stays : event ≠ .gesture number (.logOut true)) :
    (next.devices number).SignedIn := by
  have elsewhere (device : Nat) (outcome : Outcome) (here : device = number → outcome.device.SignedIn) :
      ((world.perform device outcome).devices number).SignedIn := by
    by_cases same : device = number
    · subst same
      rw [perform_devices]
      exact here rfl
    · rw [perform_other _ _ (Ne.symm same)]
      exact signedIn
  cases event with
  | gesture device made =>
      obtain ⟨_, rfl⟩ := step_gesture.mp taken
      refine elsewhere device _ fun same => ?_
      subst same
      by_cases leaves : ∃ signedOut, made = .logOut signedOut
      · obtain ⟨signedOut, rfl⟩ := leaves
        cases signedOut with
        | true => exact absurd rfl stays
        | false => exact signedIn
      · have narrows := made.handle_narrows (world.devices device) fun signedOut same => leaves ⟨signedOut, same⟩
        exact signedIn.congr narrows.auth narrows.defaults
  | serve index answer =>
      obtain ⟨device, request, _, served⟩ := step_serve.mp taken
      rcases serve_cases served with ⟨_, rfl⟩ | ⟨_, _, rfl⟩ | ⟨uid, isEmailVerified, _, _, rfl⟩
      · exact signedIn
      · exact signedIn
      · obtain ⟨auth, changed, same⟩ := world.signIn_device device number uid
        simp only [record, same]
        refine ⟨?_, signedIn.defaults⟩
        rcases changed with rfl | rfl
        · exact Option.some_ne_none uid
        · exact signedIn.auth
  | callback index uuid =>
      obtain ⟨device, request, reply, _, _, rfl⟩ := step_callback.mp taken
      cases stopped : (world.devices device).trapped with
      | true =>
          rw [callback_of_stopped stopped]
          exact signedIn
      | false =>
          rw [callback_of_running stopped]
          refine elsewhere device _ fun same => ?_
          subst same
          exact Request.complete_signedIn signedIn uuid request reply

theorem World.Aside.signedIn {world next : World} (aside : world.Aside next) {number : Nat}
    (signedIn : (world.devices number).SignedIn) : (next.devices number).SignedIn := by
  obtain ⟨trapped, same⟩ := aside.devices number
  rw [same]
  exact signedIn.congr rfl rfl

namespace App

variable {app next : App} {double : String → Option Double} {link : StoragePath → String} {event : AppEvent}

/-- Only the logout button ends a session. -/
theorem Steps.signedIn (steps : app.Steps double link event next) {number : Nat}
    (signedIn : (app.device number).SignedIn) (stays : event ≠ .logOutButtonPressed number true) :
    (next.device number).SignedIn := by
  refine steps.shop_of (fun shop => (shop.devices number).SignedIn) (fun _ _ aside held => aside.signedIn held)
    signedIn ?_
  intro made shop hands stepped
  refine World.step_signedIn stepped signedIn ?_
  rintro rfl
  cases hands with
  | market direct => cases direct
  | logOut shown page => exact stays rfl

/-- After a successful logout nobody is signed in. -/
theorem take_logOut {number : Nat}
    (taken : app.take double link (.shop (.gesture number (.logOut true))) = some next) :
    (next.device number).currentUser = some none := by
  obtain ⟨market, stepped, rfl⟩ := Option.map_eq_some_iff.mp taken
  obtain ⟨_, shop, made, rfl⟩ := Market.step_shop stepped
  obtain ⟨_, rfl⟩ := World.step_gesture.mp made
  simp [device, Gesture.handle, Device.logOutCurrentUser, Device.done, Device.currentUser]

/-- After a successful logout the profile tab shows nobody. -/
theorem Steps.loggedOut {number : Nat} (steps : app.Steps double link (.logOutButtonPressed number true) next) :
    (next.device number).currentUser = some none ∧ next.profiles number = some (.ofUser none) := by
  cases steps with
  | @logOutButtonPressed _ _ tab left shown page taken =>
      have nobody := take_logOut taken
      rw [if_pos rfl]
      rcases left.profileAppears_turns number with ⟨undecoded, _⟩ | ⟨user, current, same⟩
      · rw [nobody] at undecoded
        cases undecoded
      · obtain rfl := Option.some.inj (current.symm.trans nobody)
        rw [same]
        exact ⟨nobody, Function.update_self ..⟩

/-- The tabs keep to the session of their device. -/
theorem Tabs.step (tabs : app.Tabs) (steps : app.Steps double link event next) : next.Tabs := by
  have older {number own : Nat} {tab : ProfileTab} (member : tab ∈ app.profiles number)
      (page : tab.page = .purchasedHistory own) : own < next.histories.length :=
    (tabs.histories number tab member own page).trans_le steps.histories_length
  refine ⟨fun number tab member => ?_, fun number tab member own page => ?_⟩
  · by_cases leaves : event = .logOutButtonPressed number true
    · subst leaves
      exact .inl (Option.some.inj (member.symm.trans steps.loggedOut.2))
    · have kept (old : ProfileTab) (present : old ∈ app.profiles number) :
          old = .ofUser none ∨ (next.device number).SignedIn :=
        (tabs.session number old present).imp id fun signedIn => steps.signedIn signedIn leaves
      rcases steps.turns with same | ⟨turned, changed, turns, same⟩
      · exact kept tab (same ▸ member)
      · by_cases here : number = turned
        · subst here
          rw [same, Function.update_self] at member
          obtain rfl := Option.some.inj member
          cases turns with
          | @appears user appeared current =>
              cases user with
              | none => exact .inl rfl
              | some user => exact .inr (Device.signedIn_of_current current)
          | editProfile shown enabled =>
              refine .inr ((kept _ (tab_profiles shown)).resolve_left ?_)
              rintro rfl
              exact enabled rfl
          | finishRegistration shown enabled checked =>
              refine .inr ((kept _ (tab_profiles shown)).resolve_left ?_)
              rintro rfl
              rcases enabled with impossible | ⟨_, impossible⟩ <;> cases impossible
          | purchasedHistory shown enabled opened =>
              refine .inr ((kept _ (tab_profiles shown)).resolve_left ?_)
              rintro rfl
              cases enabled
          | back shown =>
              refine (kept _ (tab_profiles shown)).imp ?_ id
              rintro rfl
              rfl
        · rw [same, Function.update_of_ne here] at member
          exact kept tab member
  · rcases steps.turns with same | ⟨turned, changed, turns, same⟩
    · exact older (same ▸ member) page
    · by_cases here : number = turned
      · subst here
        rw [same, Function.update_self] at member
        obtain rfl := Option.some.inj member
        cases turns with
        | @appears user appeared current => cases user <;> cases page
        | editProfile shown enabled => cases page
        | finishRegistration shown enabled checked => cases page
        | purchasedHistory shown enabled opened =>
            cases page
            exact opened
        | back shown => cases page
      · rw [same, Function.update_of_ne here] at member
        exact older member page

theorem Tabs.start : App.start.Tabs := by
  refine ⟨fun number tab member => ?_, fun number tab member => ?_⟩ <;> cases member

end App

end ShoppingApp
