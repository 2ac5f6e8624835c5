import ShoppingApp.Library.Pool
import ShoppingApp.Proof.UserRecords

namespace ShoppingApp

/-- A login that found no document of the account has this record to write. -/
def Flight.newRecord (uid : String) (flight : Flight) : Option Dictionary :=
  match flight.request, flight.reply with
  | .getUser userId email, some (.document none) =>
      if userId = uid then some (userDictionaryFrom (MUser.new userId email "" "")) else none
  | .setUser name data, none => if name = uid then some data else none
  | _, _ => none

namespace World

/-- These logins found no document of the account, and their records are not written yet. -/
def unfinished (world : World) (uid : String) : List Dictionary := world.flights.filterMap (Flight.newRecord uid)

/-- The server writes the record of a login that found no document. -/
def overwrites (uid : String) (world : World) : Event → List Dictionary
  | .serve index .success =>
      match world.flights[index]? with
      | some ⟨_, .setUser name data, none⟩ => if name = uid then [data] else []
      | _ => []
  | _ => []

/-- The server applies an update of the account. -/
def Updates (uid : String) (world : World) : Event → Prop
  | .serve index .success => ∃ number values userObject,
      world.flights[index]? = some ⟨number, .updateUser uid values userObject, none⟩
  | _ => False

/-- The step keeps the user document, or it applies an update or writes the record of a login. -/
def KeepsUser (uid : String) (world : World) (event : Event) : Prop :=
  ∀ next, world.step event = some next →
    next.store.data .user uid = world.store.data .user uid ∨ Updates uid world event ∨ overwrites uid world event ≠ []

variable {world next final : World} {uid : String} {events : List Event}

/-- Only updates of the account and writes of logins change its document. -/
theorem keepsUser (uid : String) (world : World) (event : Event) : KeepsUser uid world event := by
  intro next taken
  cases event with
  | gesture number made =>
      obtain ⟨_, rfl⟩ := step_gesture.mp taken
      exact .inl rfl
  | callback index uuid =>
      obtain ⟨number, request, reply, _, _, rfl⟩ := step_callback.mp taken
      exact .inl rfl
  | serve index answer =>
      obtain ⟨number, request, found, served⟩ := step_serve.mp taken
      rcases serve_cases served with ⟨_, rfl⟩ | ⟨rfl, _, rfl⟩ | ⟨account, isEmailVerified, _, _, rfl⟩
      · exact .inl rfl
      · simp only [record, Store.answer_user]
        cases request with
        | setUser name data =>
            by_cases same : name = uid
            · exact .inr (.inr (by simp [overwrites, found, same]))
            · exact .inl (if_neg same)
        | updateUser name values userObject =>
            by_cases same : name = uid
            · exact .inr (.inl ⟨number, values, userObject, same ▸ found⟩)
            · exact .inl (if_neg same)
        | _ => exact .inl rfl
      · exact .inl rfl

end World

namespace World

variable {world next final : World} {uid : String} {events : List Event}

end World

end ShoppingApp
