import ShoppingApp.Library.Inevitable
import ShoppingApp.Proof.RequestRanks
import ShoppingApp.Proof.References
import ShoppingApp.Proof.SearchTabs
import Mathlib.Algebra.BigOperators.Group.Finset.Basic
import Mathlib.Data.Fintype.EquivFin

namespace ShoppingApp

open Multiset (IsDershowitzMannaLT)

/-- No request is in flight, and no running application shows its search indicator. -/
structure App.Settled (app : App) : Prop where
  shop : app.market.shop.Quiet
  market : app.market.flights = []
  browsing : app.flights = []
  searching : ∀ number, app.searching number = []
  indicators : ∀ number, (app.device number).trapped = false → (app.searches number).indicator = false

/-- The other devices have no search in flight. -/
def App.Within (devices : Finset Nat) (app : App) : Prop := ∀ number ∉ devices, app.searching number = []

/-- These are the ranks of all requests in flight. -/
def App.ranks (devices : Finset Nat) (app : App) : Multiset Nat :=
  Pool.ranks Flight.rank app.market.shop.flights + Pool.ranks PublishFlight.rank app.market.flights +
    Pool.ranks BrowseFlight.rank app.flights +
    ∑ number ∈ devices, Pool.ranks SearchFlight.rank (app.searching number)

namespace Market

variable {market next : Market} {double : String → Option Double} {link : StoragePath → String}

/-- A new identifier names nothing that the market has. -/
theorem exists_fresh (market : Market) : ∃ uuid, uuid ∉ market.used ∧ market.shop.Fresh uuid := by
  obtain ⟨uuid, new⟩ := Infinite.exists_notMem_finset
    (market.used ++ (market.shop.store .basket).entries.map Prod.fst ++
      market.shop.flights.filterMap fun flight => flight.request.newBasketName).toFinset
  rw [List.mem_toFinset, List.mem_append, List.mem_append, not_or, not_or] at new
  obtain ⟨⟨unused, unnamed⟩, uncreated⟩ := new
  refine ⟨uuid, unused, ?_, fun flight member creates => ?_⟩
  · cases stored : market.shop.store.data .basket uuid with
    | none => rfl
    | some data => exact absurd (List.mem_map_of_mem (Documents.get?_eq_some.mp stored)) unnamed
  · exact uncreated (List.mem_filterMap.mpr ⟨flight, member, creates⟩)

theorem step_of_shop {event : Event} (unused : ∀ uuid ∈ event.uuid, uuid ∉ market.used) {shop : World}
    (stepped : market.shop.step event = some shop) :
    (market.step double link (.shop event)).isSome = true := by
  have other : ¬ ∃ uuid ∈ event.uuid, uuid ∈ market.used := by
    rintro ⟨uuid, drawn, used⟩
    exact unused uuid drawn used
  simp only [step, if_neg other, stepped, Option.map_some, Option.isSome_some]

end Market

namespace App

variable {app next : App} {double : String → Option Double} {link : StoragePath → String} {event : AppEvent}
  {devices : Finset Nat}

/-- A request of the market can be answered, or its callback can run. -/
theorem exists_market_background (app : App)
    (busy : app.market.shop.flights ≠ [] ∨ app.market.flights ≠ []) :
    ∃ event next, event.background = true ∧ app.step double link event = some next := by
  have given (event : MarketEvent) (background : event.background = true) (direct : event.direct = true)
      (taken : (app.market.step double link event).isSome = true) :
      ∃ event next, event.background = true ∧ app.step double link event = some next := by
    obtain ⟨after, stepped⟩ := Option.isSome_iff_exists.mp taken
    refine ⟨.market event, { app with market := after }, background, ?_⟩
    simp only [step, direct, if_true, take, stepped, Option.map_some]
  obtain ⟨uuid, unused, fresh⟩ := app.market.exists_fresh
  rcases busy with waiting | waiting
  · obtain ⟨⟨number, request, reply⟩, rest, flights⟩ := List.exists_cons_of_ne_nil waiting
    have found : app.market.shop.flights[0]? = some ⟨number, request, reply⟩ := by rw [flights]; rfl
    cases reply with
    | none =>
        have failed : app.market.shop.serve 0 number request .failure = some _ := rfl
        have served := World.step_serve.mpr ⟨number, request, found, failed⟩
        refine given (.shop (.serve 0 .failure)) rfl rfl (Market.step_of_shop (fun drawn same => ?_) served)
        cases same
    | some reply =>
        have ran := World.step_callback.mpr ⟨number, request, reply, found, fresh, rfl⟩
        refine given (.shop (.callback 0 uuid)) rfl rfl (Market.step_of_shop (fun drawn same => ?_) ran)
        exact Option.some.inj same ▸ unused
  · obtain ⟨⟨request, reply⟩, rest, flights⟩ := List.exists_cons_of_ne_nil waiting
    have found : app.market.flights[0]? = some ⟨request, reply⟩ := by rw [flights]; rfl
    cases reply with
    | none => exact given (.serve 0 false) rfl rfl (by simp [Market.step, found])
    | some reply => exact given (.callback 0 uuid) rfl rfl (by simp [Market.step, found, unused])

/-- A request of a search tab can be answered, or its callback can run. -/
theorem exists_search_background (app : App) {number : Nat} (busy : app.searching number ≠ []) :
    ∃ event next, event.background = true ∧ app.step double link event = some next := by
  have given (event : SearchEvent) (background : event.background = true) (allowed : app.Allows number event)
      (taken : ((app.searchWorld number).step event).isSome = true) :
      ∃ event next, event.background = true ∧ app.step double link event = some next := by
    obtain ⟨after, stepped⟩ := Option.isSome_iff_exists.mp taken
    refine ⟨.search number event, app.searched number after, background, ?_⟩
    simp only [step, if_pos allowed, stepped, Option.map_some]
  obtain ⟨⟨search, request, reply⟩, rest, flights⟩ := List.exists_cons_of_ne_nil busy
  have found : (app.searchWorld number).flights[0]? = some ⟨search, request, reply⟩ := by
    rw [searchWorld, flights]
    rfl
  cases reply with
  | none =>
      refine given (.serve 0 .failure) rfl trivial ?_
      cases request <;> simp [SearchWorld.step, found, SearchAnswer.reply]
  | some reply =>
      refine given (.callback 0) rfl trivial ?_
      rw [SearchWorld.step_callback.mpr ⟨search, request, reply, found, rfl⟩]
      rfl

/-- Before the app settles, a request can be answered or its callback can run. -/
theorem exists_background (indicates : app.Indicates) (unsettled : ¬ app.Settled) :
    ∃ event next, event.background = true ∧ app.step double link event = some next := by
  by_cases shop : app.market.shop.flights = []
  · by_cases market : app.market.flights = []
    · by_cases browsing : app.flights = []
      · by_cases searching : ∀ number, app.searching number = []
        · refine absurd ⟨shop, market, browsing, searching, fun number running => ?_⟩ unsettled
          refine Bool.eq_false_iff.mpr fun visible => ?_
          obtain ⟨_, _, awaits⟩ := (indicates number running).last visible
          exact awaits.busy (searching number)
        · obtain ⟨number, waiting⟩ := not_forall.mp searching
          exact app.exists_search_background waiting
      · obtain ⟨⟨request, reply⟩, rest, flights⟩ := List.exists_cons_of_ne_nil browsing
        cases reply with
        | none => exact ⟨.serve 0 false, _, rfl, by simp only [step, flights]; rfl⟩
        | some reply => exact ⟨.callback 0, _, rfl, by simp only [step, flights]; rfl⟩
    · exact app.exists_market_background (.inr market)
  · exact app.exists_market_background (.inl shop)

theorem Rests.flights (rests : app.Rests next) :
    next.market.shop.flights = app.market.shop.flights ∧ next.market.flights = app.market.flights := by
  rcases rests with same | ⟨number, same⟩ <;> rw [same] <;> exact ⟨rfl, rfl⟩

/-- The background of a search tab comes down and leaves the other tabs. -/
theorem searching_ranks {number : Nat} {world : SearchWorld} {made : SearchEvent} (within : app.Within devices)
    (background : made.background = true) (taken : (app.searchWorld number).step made = some world) :
    let searching := Function.update app.searching number world.flights
    (∀ other ∉ devices, searching other = []) ∧
      IsDershowitzMannaLT (∑ other ∈ devices, Pool.ranks SearchFlight.rank (searching other))
        (∑ other ∈ devices, Pool.ranks SearchFlight.rank (app.searching other)) := by
  have lower := SearchWorld.step_ranks background taken
  have inside : number ∈ devices := by
    by_contra outside
    rw [show (app.searchWorld number).flights = [] from within number outside] at lower
    exact Pool.not_below_empty _ lower
  refine ⟨fun other outside => ?_, ?_⟩
  · have different : other ≠ number := fun same => outside (same ▸ inside)
    exact (Function.update_of_ne different ..).trans (within other outside)
  · rw [← Finset.add_sum_erase devices _ inside, ← Finset.add_sum_erase devices _ inside, Function.update_self]
    have others : ∑ other ∈ devices.erase number, Pool.ranks SearchFlight.rank
        (Function.update app.searching number world.flights other) =
          ∑ other ∈ devices.erase number, Pool.ranks SearchFlight.rank (app.searching other) :=
      Finset.sum_congr rfl fun other member => by rw [Function.update_of_ne (Finset.ne_of_mem_erase member)]
    rw [others]
    exact Pool.below_add_right lower _

/-- The background of the app comes down. -/
theorem Steps.ranks (steps : app.Steps double link event next) (background : event.background = true)
    (within : app.Within devices) :
    next.Within devices ∧ IsDershowitzMannaLT (next.ranks devices) (app.ranks devices) := by
  have same := steps.sameLists
  cases steps with
  | @market given _ direct taken =>
      obtain ⟨after, stepped, rfl⟩ := Option.map_eq_some_iff.mp taken
      refine ⟨within, Pool.below_add_right (Pool.below_add_right ?_ _) _⟩
      by_cases ofShop : ∃ made, given = .shop made
      · obtain ⟨made, rfl⟩ := ofShop
        obtain ⟨_, shop, shopStepped, rfl⟩ := Market.step_shop stepped
        exact Pool.below_add_right (World.step_ranks ((Bool.not_eq_true' _).mp background) shopStepped) _
      · have other := fun made same => ofShop ⟨made, same⟩
        rw [show after.shop.flights = app.market.shop.flights from (Market.step_aside other stepped).flights]
        exact Pool.below_add_left (Market.step_ranks background other stepped) _
  | @search number made world allowed taken =>
      obtain ⟨kept, lower⟩ := searching_ranks within background taken
      obtain ⟨shop, market⟩ := (app.searched_rests number world).flights
      rw [App.Within, App.ranks, shop, market, (same rfl).flights, (app.searched_tabs number world).2]
      exact ⟨kept, Pool.below_add_left lower _⟩
  | @serve index request succeeds found =>
      have lower (reply : BrowseReply) : IsDershowitzMannaLT
          (Pool.ranks BrowseFlight.rank (app.flights.set index ⟨request, some reply⟩))
          (Pool.ranks BrowseFlight.rank app.flights) := Pool.ranks_set found (rank_answer 0 reply)
      exact ⟨within, Pool.below_add_right (Pool.below_add_left (lower _) _) _⟩
  | @callback index request reply found =>
      have lower : IsDershowitzMannaLT (Pool.ranks BrowseFlight.rank (app.flights.eraseIdx index))
          (Pool.ranks BrowseFlight.rank app.flights) := Pool.ranks_remove found
      split
      · exact ⟨within, Pool.below_add_right (Pool.below_add_left lower _) _⟩
      · obtain ⟨shop, market⟩ :=
          (complete_rests { app with flights := app.flights.eraseIdx index } request reply).flights
        obtain ⟨_, _, _, _, _, completed⟩ :=
          complete_screens { app with flights := app.flights.eraseIdx index } request reply
        rw [App.Within, App.ranks, shop, market, completed]
        exact ⟨within, Pool.below_add_right (Pool.below_add_left lower _) _⟩
  | _ => cases background

/-- A step adds at most one device to those with a search in flight. -/
theorem Steps.within (steps : app.Steps double link event next) (within : app.Within devices) :
    ∃ later, next.Within later := by
  by_cases searches : ∃ device made, event = .search device made
  · obtain ⟨device, made, rfl⟩ := searches
    cases steps with
    | @search _ _ world allowed taken =>
        refine ⟨insert device devices, fun number outside => ?_⟩
        obtain ⟨different, outside⟩ := not_or.mp (Finset.mem_insert.not.mp outside)
        rw [(app.searched_tabs device world).2, Function.update_of_ne different]
        exact within number outside
  · have same := steps.sameSearches fun device made same => searches ⟨device, made, same⟩
    exact ⟨devices, fun number outside => (congrFun same.searching number).trans (within number outside)⟩

theorem within_run {events : List AppEvent} (ran : App.start.run double link events = some app) :
    ∃ devices, app.Within devices := by
  refine Transition.run_invariant (fun app => ∃ devices, app.Within devices) ?_ ⟨∅, fun _ _ => rfl⟩
    (.of_all (fun _ _ => trivial) App.start events) ran
  rintro app event next ⟨devices, within⟩ _ taken
  exact (steps_of_step taken).within within

end App

/-- After every run, the app settles without further gestures: whatever the server answers, and in whatever order the
callbacks run, after finitely many steps no request is in flight, and no running application shows its indicator. -/
theorem application_settles (double : String → Option Double) (link : StoragePath → String) {app : App}
    {events : List AppEvent} (ran : App.start.run double link events = some app) :
    Transition.Inevitable (App.step double link) (fun event => event.background = true) App.Settled app := by
  obtain ⟨devices, within⟩ := App.within_run ran
  refine Transition.Inevitable.of_measure Multiset.wellFounded_isDershowitzMannaLT (App.ranks devices)
    (fun app => app.Indicates ∧ app.Within devices) ?_ ?_ ⟨App.Indicates.start.run ran, within⟩
  · rintro app ⟨indicates, _⟩ unsettled
    exact App.exists_background indicates unsettled
  · rintro app event next ⟨indicates, within⟩ background taken
    have steps := App.steps_of_step taken
    obtain ⟨kept, lower⟩ := steps.ranks background within
    exact ⟨⟨indicates.step steps, kept⟩, lower⟩

/-- The write of the new basket is the only request after the first visit, and it settles. -/
theorem application_settles_first :
    ∃ app, App.start.run sellerDouble sellerLink firstVisit = some app ∧ app.market.shop.flights.length = 1 ∧
      ∃ events final, (∀ event ∈ events, event.background = true) ∧
        app.run sellerDouble sellerLink events = some final ∧ final.Settled := by
  obtain ⟨app, ran⟩ : ∃ app, App.start.run sellerDouble sellerLink firstVisit = some app := ⟨_, rfl⟩
  have flights : app.market.shop.flights.length = 1 := by
    obtain rfl := Option.some.inj ((rfl : App.start.run sellerDouble sellerLink firstVisit = some _).symm.trans ran)
    rfl
  exact ⟨app, ran, flights, (application_settles sellerDouble sellerLink ran).reaches⟩

end ShoppingApp
