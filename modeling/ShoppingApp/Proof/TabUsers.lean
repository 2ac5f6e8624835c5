import ShoppingApp.Proof.Crashes
import ShoppingApp.Proof.Onboarding

namespace ShoppingApp

/-- The tab has the buttons of this user, and its pages are open only for somebody. -/
structure ProfileTab.Follows (tab : ProfileTab) (user : Option MUser) : Prop where
  buttons : tab = { ProfileTab.ofUser user with page := tab.page }
  closed : user = none → tab.page = .profile
  unfinished : ∀ form, tab.page = .finishRegistration form → ∃ present, user = some present ∧ present.onBoard = false

namespace ProfileTab

variable {tab : ProfileTab} {user : Option MUser}

/-- The buttons of the user are shown on the root page. -/
theorem Follows.ofUser (user : Option MUser) : (ProfileTab.ofUser user).Follows user := by
  cases user with
  | none => exact ⟨rfl, fun _ => rfl, fun form opened => by cases opened⟩
  | some present => exact ⟨rfl, fun _ => rfl, fun form opened => by cases opened⟩

/-- Another page leaves the buttons. -/
theorem Follows.page (follows : tab.Follows user) {page : ProfilePage} (closed : user = none → page = .profile)
    (unfinished : ∀ form, page = .finishRegistration form → ∃ present, user = some present ∧ present.onBoard = false) :
    { tab with page := page }.Follows user := by
  refine ⟨?_, closed, unfinished⟩
  rw [follows.buttons]

/-- The tab offers the edit screen exactly to somebody. -/
theorem Follows.edits_iff (follows : tab.Follows user) : tab.editBarButton ≠ "Login" ↔ user ≠ none := by
  rw [follows.buttons]
  cases user <;> simp [ProfileTab.ofUser]

/-- The tab offers the purchase history to somebody. -/
theorem Follows.history (follows : tab.Follows user) (enabled : tab.purchaseHistoryButton = true) : user ≠ none := by
  rintro rfl
  have disabled := congrArg purchaseHistoryButton follows.buttons
  rw [enabled] at disabled
  cases disabled

/-- The tab offers the registration to a user who is not onboarded. -/
theorem Follows.registration (follows : tab.Follows user) (enabled : tab.finishRegistrationButton = true) :
    ∃ present, user = some present ∧ present.onBoard = false := by
  have shown := congrArg finishRegistrationButton follows.buttons
  rw [enabled] at shown
  cases user with
  | none => cases shown
  | some present => exact ⟨present, rfl, by simpa [ProfileTab.ofUser] using shown⟩

end ProfileTab

namespace App

variable {app next : App} {double : String → Option Double} {link : StoragePath → String} {event : AppEvent}
  {number : Nat}

/-- A tab opens only what its buttons offer. -/
theorem Turns.follows {tab : ProfileTab} (turns : app.Turns next event number tab) (other : ¬ event.Appears number) :
    ∃ old, app.profiles number = some old ∧ ∀ user, old.Follows user → tab.Follows user := by
  cases turns with
  | appears appeared current => exact absurd appeared other
  | editProfile shown enabled =>
      refine ⟨_, tab_profiles shown, fun user follows => ?_⟩
      exact follows.page (fun nobody => absurd nobody (follows.edits_iff.mp enabled)) fun form opened => by cases opened
  | @finishRegistration old form shown enabled checked =>
      refine ⟨old, tab_profiles shown, fun user follows => ?_⟩
      obtain ⟨present, somebody, unfinished⟩ : ∃ present, user = some present ∧ present.onBoard = false := by
        rcases enabled with offered | ⟨earlier, opened⟩
        · exact follows.registration offered
        · exact follows.unfinished earlier opened
      refine follows.page (fun nobody => ?_) fun _ _ => ⟨present, somebody, unfinished⟩
      rw [nobody] at somebody
      cases somebody
  | purchasedHistory shown enabled opened =>
      refine ⟨_, tab_profiles shown, fun user follows => ?_⟩
      exact follows.page (fun nobody => absurd nobody (follows.history enabled)) fun form opened => by cases opened
  | back shown =>
      exact ⟨_, tab_profiles shown, fun user follows => follows.page (fun _ => rfl) fun form opened => by cases opened⟩

/-- The profile tab of a device follows the user that was current on it in an earlier state. -/
def ShowsUser (number : Nat) (served app : App) : Prop :=
  ∃ user tab, (served.device number).currentUser = some user ∧ app.profiles number = some tab ∧ tab.Follows user

/-- The tab that appears follows the current user. -/
theorem Steps.appears (steps : app.Steps double link event next) (appeared : event.Appears number)
    (decodes : (app.device number).currentUser ≠ none) : ShowsUser number next next := by
  cases appeared with
  | profileDidAppear =>
      cases steps with
      | profileDidAppear active =>
          rcases app.profileAppears_turns number with ⟨undecoded, _⟩ | ⟨user, current, shown⟩
          · exact absurd undecoded decodes
          · rw [shown]
            exact ⟨user, .ofUser user, current, Function.update_self .., .ofUser user⟩
  | loggedOut => exact ⟨none, .ofUser none, steps.loggedOut.1, steps.loggedOut.2, .ofUser none⟩

/-- A tab that does not appear keeps its user. -/
theorem Steps.keepsUser (steps : app.Steps double link event next) (other : ¬ event.Appears number) :
    (app.profiles number = none → next.profiles number = none) ∧
      ∀ served, ShowsUser number served app → ShowsUser number served next := by
  unfold ShowsUser
  rcases steps.turns with same | ⟨turned, changed, turns, same⟩
  · rw [same]
    exact ⟨id, fun _ => id⟩
  · by_cases here : turned = number
    · subst here
      obtain ⟨old, present, opens⟩ := turns.follows other
      rw [same, Function.update_self, present]
      refine ⟨fun impossible => (by cases impossible), ?_⟩
      rintro served ⟨user, tab, current, ⟨⟩, follows⟩
      exact ⟨user, changed, current, rfl, opens user follows⟩
    · rw [same, Function.update_of_ne (Ne.symm here)]
      exact ⟨id, fun _ => id⟩

end App

/-- In every run, a profile tab has the buttons of the user who was current when the tab last appeared, and its pages
are open for that user alone. When that was somebody, somebody is signed in now. -/
theorem profile_tabs_keep_session (double : String → Option Double) (link : StoragePath → String) {final : App}
    {events : List AppEvent} (ran : App.start.run double link events = some final) {number : Nat} {tab : ProfileTab}
    (shown : final.profiles number = some tab) :
    ∃ served user, Transition.Last (App.step double link) App.start (AppEvent.Appears number) events served ∧
      (served.device number).currentUser = some user ∧ tab.Follows user ∧
      (user ≠ none → ∃ present, (final.device number).currentUser = some (some present)) := by
  have decodes {events : List AppEvent} {app : App} (ran : App.start.run double link events = some app) :
      (app.device number).currentUser ≠ none := by
    obtain ⟨_, traced⟩ := (App.Healthy.start.run ran).traced
    exact traced.currentUser number
  have since : final.profiles number = none ∨ ∃ served,
      Transition.Last (App.step double link) App.start (AppEvent.Appears number) events served ∧
        App.ShowsUser number served final := by
    refine Transition.run_last (fun app => app.profiles number = none) (App.ShowsUser number) rfl ?_ ?_ ran
    · intro past app event next ranPast taken appeared
      exact (App.steps_of_step taken).appears appeared (decodes ranPast)
    · intro past app event next _ taken other
      exact (App.steps_of_step taken).keepsUser other
  rcases since with absent | ⟨served, last, user, same, current, present, follows⟩
  · rw [absent] at shown
    cases shown
  · obtain rfl := Option.some.inj (present.symm.trans shown)
    refine ⟨served, user, last, current, follows, fun somebody => ?_⟩
    have signedIn : (final.device number).SignedIn := by
      refine ((App.Healthy.start.run ran).tabs.session number same present).resolve_left ?_
      rintro rfl
      exact follows.edits_iff.mpr somebody rfl
    cases now : (final.device number).currentUser with
    | none => exact absurd now (decodes ran)
    | some found =>
        cases found with
        | none => exact absurd now (Device.currentUser_ne_iff.mpr ⟨signedIn.auth, signedIn.defaults⟩)
        | some present => exact ⟨present, rfl⟩

/-- The registration is finished, and the tab still offers it to the user that it showed. -/
theorem profile_tabs_keep_session_finished :
    ∃ final served tab shown now, App.start.run sellerDouble sellerLink firstRegistration = some final ∧
      Transition.Last (App.step sellerDouble sellerLink) App.start (AppEvent.Appears 0) firstRegistration served ∧
      final.profiles 0 = some tab ∧ tab.finishRegistrationButton = true ∧
      (served.device 0).currentUser = some (some shown) ∧ shown.onBoard = false ∧
      (final.device 0).currentUser = some (some now) ∧ now.onBoard = true := by
  obtain ⟨final, tab, now, ran, present, enabled, current, onboarded⟩ : ∃ final tab now,
      App.start.run sellerDouble sellerLink firstRegistration = some final ∧ final.profiles 0 = some tab ∧
        tab.finishRegistrationButton = true ∧ (final.device 0).currentUser = some (some now) ∧
        now.onBoard = true := ⟨_, _, _, rfl, rfl, rfl, rfl, rfl⟩
  obtain ⟨served, user, last, earlier, follows, _⟩ := profile_tabs_keep_session sellerDouble sellerLink ran present
  obtain ⟨shown, rfl, unfinished⟩ := follows.registration enabled
  exact ⟨final, served, tab, shown, now, ran, last, present, enabled, earlier, unfinished, current, onboarded⟩

end ShoppingApp
