import ShoppingApp.Proof.AppStops
import ShoppingApp.Proof.SearchIndicator

namespace ShoppingApp

namespace App

/-- The search tabs and their requests stay. -/
structure SameSearches (app next : App) : Prop where
  searches : next.searches = app.searches
  searching : next.searching = app.searching

variable {app next : App} {double : String → Option Double} {link : StoragePath → String} {event : AppEvent}

/-- Only the events of the search tabs change them. -/
theorem Steps.sameSearches (steps : app.Steps double link event next)
    (other : ∀ device made, event ≠ .search device made) : app.SameSearches next := by
  have taken {given : MarketEvent} {left : App} (taken : app.take double link given = some left) :
      app.SameSearches left := by
    obtain ⟨after, _, rfl⟩ := Option.map_eq_some_iff.mp taken
    exact ⟨rfl, rfl⟩
  have appears {left : App} (same : app.SameSearches left) (device : Nat) :
      app.SameSearches (left.profileAppears device) := by
    rcases left.profileAppears_turns device with ⟨_, appeared⟩ | ⟨user, _, appeared⟩
    · rw [appeared]
      exact ⟨same.searches, same.searching⟩
    · rw [appeared]
      exact ⟨same.searches, same.searching⟩
  have opened (device : Nat) (item : Item) : app.SameSearches (app.showItemView device item) := by
    rcases app.showItemView_cases device item with ⟨_, shown⟩ | shown <;>
    · rw [shown]
      exact ⟨rfl, rfl⟩
  cases steps with
  | search allowed stepped => exact absurd rfl (other _ _)
  | market direct stepped => exact taken stepped
  | addItem shown ofCategory stepped => exact taken stepped
  | addToBasketTapped opened stepped => exact taken stepped
  | doneButtonPressed shown page enabled stepped => exact taken stepped
  | saveBarButtonPressed shown page stepped => exact taken stepped
  | logOutButtonPressed shown page stepped =>
      split
      · exact appears (taken stepped) _
      · exact taken stepped
  | profileDidAppear active => exact appears ⟨rfl, rfl⟩ _
  | didSelectItem shown selected => exact opened _ _
  | didSelectBasketRow selected => exact opened _ _
  | @rightBarButtonItemPressed device tab shown page =>
      split
      · exact ⟨rfl, rfl⟩
      · rcases app.goToEditProfile_cases device tab with ⟨_, edited⟩ | edited <;>
        · rw [edited]
          exact ⟨rfl, rfl⟩
  | historyDidAppear shown page =>
      unfold loadHistory
      split <;> exact ⟨rfl, rfl⟩
  | @callback index request reply found =>
      split
      · exact ⟨rfl, rfl⟩
      · obtain ⟨_, _, _, _, _, same⟩ :=
          complete_screens { app with flights := app.flights.eraseIdx index } request reply
        rw [same]
        exact ⟨rfl, rfl⟩
  | _ => exact ⟨rfl, rfl⟩

/-- A step of a search tab changes its screen and its requests. -/
theorem searched_tabs (app : App) (number : Nat) (world : SearchWorld) :
    (app.searched number world).searches = Function.update app.searches number world.screen ∧
      (app.searched number world).searching = Function.update app.searching number world.flights := by
  unfold searched
  dsimp only
  split <;> exact ⟨rfl, rfl⟩

/-- A step that stops the search tab stops its device. -/
theorem searched_running {number : Nat} {world : SearchWorld}
    (running : ((app.searched number world).device number).trapped = false) : world.screen.trapped = false := by
  unfold searched at running
  dsimp only at running
  split at running
  · have stopped := (World.stop_trapped_iff app.market.shop number number).mpr (.inr rfl)
    exact absurd stopped (Bool.eq_false_iff.mp running)
  · rename_i alive
    exact Bool.eq_false_iff.mpr alive

/-- The indicator of a running application is visible only while its last search waits. -/
def Indicates (app : App) : Prop :=
  ∀ number, (app.device number).trapped = false → (app.searchWorld number).Indicates

theorem Indicates.step (indicates : app.Indicates) (steps : app.Steps double link event next) : next.Indicates := by
  intro number running
  have before : (app.searchWorld number).Indicates := by
    refine indicates number (Bool.eq_false_iff.mpr fun stopped => ?_)
    exact Bool.eq_false_iff.mp running (steps.stopped stopped)
  have kept (searches : next.searches number = app.searches number)
      (searching : next.searching number = app.searching number) : (next.searchWorld number).Indicates := by
    refine before.congr searching ?_ ?_ ?_ <;> simp only [searchWorld, searches]
  by_cases searches : ∃ device made, event = .search device made
  · obtain ⟨device, made, rfl⟩ := searches
    cases steps with
    | @search _ _ world allowed taken =>
        obtain ⟨screens, flights⟩ := app.searched_tabs device world
        by_cases here : number = device
        · subst here
          have after := before.step taken (searched_running running)
          refine after.congr ?_ ?_ ?_ ?_ <;> simp only [searchWorld, screens, flights, Function.update_self]
        · exact kept ((congrFun screens number).trans (Function.update_of_ne here ..))
            ((congrFun flights number).trans (Function.update_of_ne here ..))
  · have same := steps.sameSearches fun device made same => searches ⟨device, made, same⟩
    exact kept (congrFun same.searches number) (congrFun same.searching number)

theorem Indicates.start : App.start.Indicates := by
  refine fun number running => ⟨fun flight member => absurd member List.not_mem_nil, fun search old => ⟨rfl, rfl⟩, ?_⟩
  exact fun visible => by cases visible

theorem Indicates.run {events : List AppEvent} (indicates : app.Indicates)
    (ran : app.run double link events = some next) : next.Indicates :=
  Transition.run_invariant Indicates (fun _ _ _ indicates _ taken => indicates.step (steps_of_step taken)) indicates
    (.of_all (fun _ _ => trivial) app events) ran

end App

end ShoppingApp
