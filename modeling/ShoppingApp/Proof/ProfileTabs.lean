import ShoppingApp.Proof.AppSteps

namespace ShoppingApp

/-- Somebody is signed in with a cached record. -/
structure Device.SignedIn (device : Device) : Prop where
  auth : device.auth ≠ none
  defaults : device.defaults ≠ none

/-- A form with an enabled button has text in all fields. -/
def FinishRegistration.Checked (form : FinishRegistration) : Prop :=
  form.doneButton = true → form.nameTextField ≠ "" ∧ form.surnameTextField ≠ "" ∧ form.addressTextField ≠ ""

/-- The profile tab of the device appears, on its own or after a logout. -/
inductive AppEvent.Appears (number : Nat) : AppEvent → Prop where
  | profileDidAppear : Appears number (.profileDidAppear number)
  | loggedOut : Appears number (.logOutButtonPressed number true)

/-- A step leads the profile tab of the device to this tab. -/
inductive App.Turns (app next : App) (event : AppEvent) (number : Nat) : ProfileTab → Prop where
  | appears {user : Option MUser} (appeared : event.Appears number)
      (current : (next.device number).currentUser = some user) : Turns app next event number (.ofUser user)
  | editProfile {tab : ProfileTab} (shown : app.tab number = some tab) (enabled : tab.editBarButton ≠ "Login") :
      Turns app next event number { tab with page := .editProfile }
  | finishRegistration {tab : ProfileTab} {form : FinishRegistration} (shown : app.tab number = some tab)
      (enabled : tab.finishRegistrationButton = true ∨ ∃ old, tab.page = .finishRegistration old)
      (checked : form.Checked) : Turns app next event number { tab with page := .finishRegistration form }
  | purchasedHistory {tab : ProfileTab} {own : Nat} (shown : app.tab number = some tab)
      (enabled : tab.purchaseHistoryButton = true) (opened : own < next.histories.length) :
      Turns app next event number { tab with page := .purchasedHistory own }
  | back {tab : ProfileTab} (shown : app.tab number = some tab) :
      Turns app next event number { tab with page := .profile }

namespace App

variable {app next : App} {double : String → Option Double} {link : StoragePath → String} {event : AppEvent}

/-- The completion of a request changes the screens alone, or it stops a device. -/
theorem complete_screens (app : App) (request : BrowseRequest) (reply : BrowseReply) :
    ∃ market categories tables histories, histories.length = app.histories.length ∧
      app.complete request reply =
        { app with market := market, categories := categories, tables := tables, histories := histories } := by
  cases request with
  | getCategories own =>
      unfold complete
      dsimp only
      split
      · exact ⟨app.market, app.categories, app.tables, app.histories, rfl, rfl⟩
      · split <;> exact ⟨_, _, app.tables, app.histories, rfl, rfl⟩
  | getItems own categoryId =>
      unfold complete
      dsimp only
      split <;> exact ⟨app.market, app.categories, _, app.histories, rfl, rfl⟩
  | getItem own download name =>
      unfold complete
      dsimp only
      split
      · exact ⟨app.market, app.categories, app.tables, _, List.length_set, rfl⟩
      · exact ⟨app.market, app.categories, app.tables, _, List.length_set, rfl⟩
      · exact ⟨app.market, app.categories, app.tables, app.histories, rfl, rfl⟩

theorem tab_profiles {number : Nat} {tab : ProfileTab} (shown : app.tab number = some tab) :
    app.profiles number = some tab := by
  unfold App.tab at shown
  split at shown
  · exact shown
  · cases shown

/-- The profile tab follows the current user, or the application stops. -/
theorem profileAppears_turns (app : App) (number : Nat) :
    (app.device number).currentUser = none ∧ app.profileAppears number = app.stop number ∨
      ∃ user, (app.device number).currentUser = some user ∧ app.profileAppears number =
        { app with profiles := Function.update app.profiles number (some (.ofUser user)) } := by
  unfold profileAppears
  split
  · rename_i undecoded
    exact .inl ⟨undecoded, rfl⟩
  · rename_i user current
    exact .inr ⟨user, current, rfl⟩

theorem loadHistory_screens (app : App) (number own : Nat) :
    (app.loadHistory number own).profiles = app.profiles ∧
      (app.loadHistory number own).histories.length = app.histories.length := by
  unfold loadHistory
  split
  · exact ⟨rfl, List.length_set⟩
  · exact ⟨rfl, rfl⟩
  · exact ⟨rfl, rfl⟩

theorem showItemView_profiles (app : App) (number : Nat) (item : Item) :
    (app.showItemView number item).profiles = app.profiles := by
  rcases app.showItemView_cases number item with ⟨_, shown⟩ | shown
  · rw [shown]
    rfl
  · rw [shown]

theorem searched_profiles (app : App) (number : Nat) (world : SearchWorld) :
    (app.searched number world).profiles = app.profiles := by
  unfold searched
  dsimp only
  split <;> rfl

theorem take_profiles {given : MarketEvent} (taken : app.take double link given = some next) :
    next.profiles = app.profiles := by
  obtain ⟨after, _, rfl⟩ := Option.map_eq_some_iff.mp taken
  rfl

/-- A step leaves the profile tabs, or it turns one of them. -/
theorem Steps.turns (steps : app.Steps double link event next) :
    next.profiles = app.profiles ∨ ∃ number tab, app.Turns next event number tab ∧
      next.profiles = Function.update app.profiles number (some tab) := by
  have appears (left : App) (number : Nat) (same : left.profiles = app.profiles) (appeared : event.Appears number) :
      (left.profileAppears number).profiles = app.profiles ∨
        ∃ tab, app.Turns (left.profileAppears number) event number tab ∧
          (left.profileAppears number).profiles = Function.update app.profiles number (some tab) := by
    rcases left.profileAppears_turns number with ⟨_, shown⟩ | ⟨user, current, shown⟩
    · exact .inl (shown ▸ same)
    · rw [shown, same]
      exact .inr ⟨.ofUser user, .appears appeared current, rfl⟩
  cases steps with
  | market direct taken => exact .inl (take_profiles taken)
  | addItem shown ofCategory taken => exact .inl (take_profiles taken)
  | addToBasketTapped opened taken => exact .inl (take_profiles taken)
  | doneButtonPressed shown page enabled taken => exact .inl (take_profiles taken)
  | saveBarButtonPressed shown page taken => exact .inl (take_profiles taken)
  | @logOutButtonPressed number signedOut tab left shown page taken =>
      cases signedOut with
      | true => exact (appears left number (take_profiles taken) .loggedOut).imp id fun turned => ⟨number, turned⟩
      | false => exact .inl (take_profiles taken)
  | @profileDidAppear number active =>
      exact (appears app number rfl .profileDidAppear).imp id fun turned => ⟨number, turned⟩
  | search allowed taken => exact .inl (app.searched_profiles _ _)
  | @rightBarButtonItemPressed number tab shown page =>
      split
      · exact .inl rfl
      · rename_i enabled
        rcases app.goToEditProfile_cases number tab with ⟨_, opened⟩ | opened
        · rw [opened]
          exact .inl rfl
        · rw [opened]
          exact .inr ⟨_, _, .editProfile shown enabled, rfl⟩
  | didSelectItem shown selected => exact .inl (app.showItemView_profiles _ _)
  | didSelectBasketRow selected => exact .inl (app.showItemView_profiles _ _)
  | finishRegistrationTapped shown page enabled =>
      refine .inr ⟨_, _, .finishRegistration shown (.inl enabled) fun pressed => ?_, rfl⟩
      cases pressed
  | @textFieldDidChange number name surname address tab form shown page =>
      refine .inr ⟨_, _, .finishRegistration shown (.inr ⟨form, page⟩) ?_, rfl⟩
      exact (FinishRegistration.doneButton_textFieldDidChange name surname address).mp
  | purchaseHistoryTapped shown page enabled =>
      refine .inr ⟨_, _, .purchasedHistory shown enabled ?_, rfl⟩
      simp only [turn, List.length_append, List.length_singleton, Nat.lt_add_one]
  | back shown => exact .inr ⟨_, _, .back shown, rfl⟩
  | historyDidAppear shown page => exact .inl (app.loadHistory_screens _ _).1
  | @callback index request reply found =>
      left
      split
      · rfl
      · obtain ⟨_, _, _, _, _, same⟩ :=
          complete_screens { app with flights := app.flights.eraseIdx index } request reply
        rw [same]
  | _ => exact .inl rfl

/-- The opened histories stay open. -/
theorem Steps.histories_length (steps : app.Steps double link event next) :
    app.histories.length ≤ next.histories.length := by
  have same := steps.sameLists
  cases steps with
  | purchaseHistoryTapped shown page enabled =>
      simp only [turn, List.length_append, List.length_singleton, Nat.le_add_right]
  | historyDidAppear shown page => exact (app.loadHistory_screens _ _).2.ge
  | @callback index request reply found =>
      split
      · exact Nat.le_refl _
      · obtain ⟨_, _, _, _, length, same⟩ :=
          complete_screens { app with flights := app.flights.eraseIdx index } request reply
        rw [same]
        exact length.ge
  | openCategories => exact Nat.le_refl _
  | categoriesDidAppear shown active => exact Nat.le_refl _
  | didSelectCategory shown selected => exact Nat.le_refl _
  | itemsDidAppear shown active => exact Nat.le_refl _
  | serve found => exact Nat.le_refl _
  | _ => exact (congrArg List.length (same rfl).histories).ge

end App

end ShoppingApp
