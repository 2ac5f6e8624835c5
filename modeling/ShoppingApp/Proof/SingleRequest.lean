import ShoppingApp.Proof.Handlers

namespace ShoppingApp

namespace World

variable {store : Store} {devices : Nat → Device} {number : Nat} {request : Request} {next final : World}
  {events : List Event}

/-- The only request in flight is answered. -/
theorem serve_single {answer : Answer} (document : request.isAuth = false)
    (taken : step ⟨store, devices, [⟨number, request, none⟩]⟩ (.serve 0 answer) = some next) :
    next = ⟨if answer.succeeds then (store.answer request).1 else store, devices,
      [⟨number, request, some (if answer.succeeds then (store.answer request).2 else .error)⟩]⟩ := by
  obtain ⟨device, sent, found, served⟩ := step_serve.mp taken
  obtain ⟨rfl, rfl⟩ : number = device ∧ request = sent := by simpa using found
  rcases serve_cases served with ⟨rfl, rfl⟩ | ⟨rfl, _, rfl⟩ | ⟨uid, isEmailVerified, _, auth, _⟩
  · rfl
  · rfl
  · rw [document] at auth
    cases auth

/-- The only callback runs its completion on its device. -/
theorem callback_single {reply : Reply} {uuid : String}
    (taken : step ⟨store, devices, [⟨number, request, some reply⟩]⟩ (.callback 0 uuid) = some next) :
    store.data .basket uuid = none ∧
      next = World.perform ⟨store, devices, []⟩ number
        (if (devices number).trapped then (devices number).done
          else request.complete uuid reply (devices number)) := by
  obtain ⟨device, sent, answered, found, fresh, rfl⟩ := step_callback.mp taken
  obtain ⟨rfl, rfl, rfl⟩ : number = device ∧ request = sent ∧ reply = answered := by simpa using found
  exact ⟨fresh.1, rfl⟩

/-- A handler that issues one request puts it in flight. -/
theorem perform_issue (request : Request) :
    World.perform ⟨store, devices, []⟩ number ((devices number).issue request) =
      ⟨store, devices, [⟨number, request, none⟩]⟩ := by
  simp [World.perform, Device.issue]

/-- No answer follows a handler that issues nothing. -/
theorem serve_perform_nil {outcome : Outcome} {answer : Answer} (silent : outcome.issued = []) :
    step (World.perform ⟨store, devices, []⟩ number outcome) (.serve 0 answer) = none := by
  simp [step, World.perform, silent]

/-- A single request whose completion does nothing leaves the devices. -/
theorem finish_single {answered : World} {answer : Answer} {uuid : String} (document : request.isAuth = false)
    (idle : ∀ reply device, request.complete uuid reply device = device.done)
    (served : step ⟨store, devices, [⟨number, request, none⟩]⟩ (.serve 0 answer) = some answered)
    (called : step answered (.callback 0 uuid) = some final) :
    final = ⟨if answer.succeeds then (store.answer request).1 else store, devices, []⟩ := by
  obtain rfl := serve_single document served
  obtain ⟨_, rfl⟩ := callback_single called
  rw [idle, ite_self]
  simp [World.perform, Device.done]

/-- Without requests nothing is answered. -/
theorem run_idle (replies : ∀ event ∈ events, event.isGesture = false)
    (ran : World.run ⟨store, devices, []⟩ events = some final) : final = ⟨store, devices, []⟩ := by
  cases events with
  | nil => exact (Option.some.inj ran).symm
  | cons event rest =>
      obtain ⟨next, taken, _⟩ := Transition.run_cons.mp ran
      cases event with
      | gesture device made => cases replies _ List.mem_cons_self
      | serve index answer => cases taken
      | callback index uuid => cases taken

/-- Only the first request in flight can be answered or called back when it is the only one. -/
theorem index_of_single {flight found : Flight} {index : Nat} (at_index : [flight][index]? = some found) :
    index = 0 ∧ found = flight := by
  cases index with
  | zero => exact ⟨rfl, (Option.some.inj at_index).symm⟩
  | succ index => cases at_index

/-- The single request has been answered, and its callback comes next. -/
theorem run_answered {reply : Reply} (running : (devices number).trapped = false)
    (replies : ∀ event ∈ events, event.isGesture = false ∧ event.Succeeds)
    (ran : World.run ⟨store, devices, [⟨number, request, some reply⟩]⟩ events = some final) (quiet : final.Quiet) :
    ∃ uuid rest, store.data .basket uuid = none ∧
      (∀ event ∈ rest, event.isGesture = false ∧ event.Succeeds) ∧
      World.run (World.perform ⟨store, devices, []⟩ number (request.complete uuid reply (devices number))) rest =
        some final := by
  cases events with
  | nil =>
      obtain rfl := Option.some.inj ran
      cases quiet
  | cons event rest =>
      obtain ⟨next, taken, ran⟩ := Transition.run_cons.mp ran
      cases event with
      | gesture device made => cases (replies _ List.mem_cons_self).1
      | serve index answer =>
          obtain ⟨device, sent, found, _⟩ := step_serve.mp taken
          cases (index_of_single found).2
      | callback index uuid =>
          obtain ⟨device, sent, answered, found, _⟩ := step_callback.mp taken
          obtain ⟨rfl, _⟩ := index_of_single found
          obtain ⟨fresh, rfl⟩ := callback_single taken
          rw [running, if_neg Bool.false_ne_true] at ran
          exact ⟨uuid, rest, fresh, fun other member => replies other (List.mem_cons_of_mem _ member), ran⟩

/-- A single request is answered, and then its callback runs. -/
theorem run_single (document : request.isAuth = false) (running : (devices number).trapped = false)
    (replies : ∀ event ∈ events, event.isGesture = false ∧ event.Succeeds)
    (ran : World.run ⟨store, devices, [⟨number, request, none⟩]⟩ events = some final) (quiet : final.Quiet) :
    ∃ uuid rest, (store.answer request).1.data .basket uuid = none ∧
      (∀ event ∈ rest, event.isGesture = false ∧ event.Succeeds) ∧
      World.run (World.perform ⟨(store.answer request).1, devices, []⟩ number
        (request.complete uuid (store.answer request).2 (devices number))) rest = some final := by
  cases events with
  | nil =>
      obtain rfl := Option.some.inj ran
      cases quiet
  | cons event rest =>
      obtain ⟨next, taken, ran⟩ := Transition.run_cons.mp ran
      obtain ⟨reply, succeeds⟩ := replies event List.mem_cons_self
      cases event with
      | gesture device made => cases reply
      | callback index uuid =>
          obtain ⟨device, sent, answered, found, _⟩ := step_callback.mp taken
          cases (index_of_single found).2
      | serve index answer =>
          obtain ⟨device, sent, found, _⟩ := step_serve.mp taken
          obtain ⟨rfl, _⟩ := index_of_single found
          obtain rfl := serve_single document taken
          have sent : answer.succeeds = true := succeeds
          rw [if_pos sent, if_pos sent] at ran
          exact run_answered running (fun other member => replies other (List.mem_cons_of_mem _ member)) ran quiet

/-- The completion of the last request leaves the devices. -/
theorem run_last (document : request.isAuth = false) (running : (devices number).trapped = false)
    (idle : ∀ uuid reply device, request.complete uuid reply device = device.done)
    (replies : ∀ event ∈ events, event.isGesture = false ∧ event.Succeeds)
    (ran : World.run ⟨store, devices, [⟨number, request, none⟩]⟩ events = some final) (quiet : final.Quiet) :
    final = ⟨(store.answer request).1, devices, []⟩ := by
  obtain ⟨uuid, rest, _, replies, ran⟩ := run_single document running replies ran quiet
  have kept (served : Store) : World.perform ⟨served, devices, []⟩ number (devices number).done =
      ⟨served, devices, []⟩ := by
    simp [World.perform, Device.done]
  rw [idle, kept] at ran
  exact run_idle (fun event member => (replies event member).1) ran

end World

end ShoppingApp
