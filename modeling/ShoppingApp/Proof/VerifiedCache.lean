import ShoppingApp.Proof.UserRecords

namespace ShoppingApp

/-- The record of an account carries its identifier, and no update of the screens changes it. -/
def namedRecords : RecordKind where
  holds := fun userId record => record.read Value.asString .objectId = some userId
  fits := fun values => values .objectId = none
  created := fun _ _ => rfl
  patch := by
    intro userId record values named unnamed
    unfold Dictionary.read Record.patch
    rw [unnamed, Option.none_or]
    exact named
  profile := fun _ _ _ => rfl
  onboarding := fun _ _ _ => rfl
  purchased := fun _ => rfl

/-- These accounts passed the check of `isEmailVerified` in a login of the run. -/
def World.verifiedLogins (world : World) (events : List Event) : List String :=
  Transition.log World.step World.verifies world events

/-- The cached record of a device that started with an empty cache belongs to an account whose login on the
device passed the check of `isEmailVerified`. -/
theorem cached_account_verified {world final : World} {events : List Event} {number : Nat} (quiet : world.Quiet)
    (uncached : (world.devices number).defaults = none)
    (named : ∀ userId record, world.store.data .user userId = some record →
      record.read Value.asString .objectId = some userId)
    (offered : ∀ event ∈ events, event.By number Gesture.offered) (ran : world.run events = some final) :
    ∀ record, (final.devices number).defaults = some record →
      ∃ uid ∈ world.verifiedLogins events, record.read Value.asString .objectId = some uid := by
  have empty : world.flights = [] := quiet
  have initial : World.Recorded namedRecords (· = number) (· ∈ []) world := by
    refine ⟨named, ?_, by simp [empty]⟩
    rintro other rfl record cached
    rw [uncached] at cached
    cases cached
  have recorded : World.Recorded namedRecords (· = number) (· ∈ [] ++ world.verifiedLogins events) final := by
    refine Transition.run_log (fun state past => World.Recorded namedRecords (· = number) (· ∈ past) state) ?_
      initial (.of_forall offered) ran
    intro state event next past recorded listed taken
    have acted : event.ActedBy (· = number) := by
      cases event with
      | gesture device made => exact listed
      | serve index answer => trivial
      | callback index uuid => trivial
    exact recorded.step acted (fun uid old => List.mem_append_left _ old) (fun uid new => List.mem_append_right _ new)
      taken
  intro record cached
  exact recorded.cached number rfl record cached

/-- A verified login, a logout, and the registration of another account. -/
def registerAfterLogout : List Event :=
  firstLogin "a" "a@mail" ++
    [.gesture 0 (.saveProfile "Ann" "Lee" "Here"), .serve 0 .success, .gesture 0 (.logOut true),
      .gesture 0 (.register "b@mail"), .serve 1 (.account "b" false), .callback 1 "n", .callback 0 "n"]

/-- The late acknowledgement caches the record of the verified account, not of the registered one. -/
theorem cached_account_verified_late :
    ∃ final record, newDevice.run registerAfterLogout = some final ∧
      (final.devices 0).defaults = some record ∧
      ∃ uid ∈ newDevice.verifiedLogins registerAfterLogout, record.read Value.asString .objectId = some uid := by
  have quiet : newDevice.Quiet := rfl
  have named : ∀ userId record, newDevice.store.data .user userId = some record →
      record.read Value.asString .objectId = some userId := fun userId record found => by cases found
  have offered : ∀ event ∈ registerAfterLogout, event.By 0 Gesture.offered := by decide
  exact ⟨_, _, rfl, rfl, cached_account_verified quiet rfl named offered rfl _ rfl⟩

end ShoppingApp
