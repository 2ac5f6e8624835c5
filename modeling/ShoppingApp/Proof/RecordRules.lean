import ShoppingApp.Library.Pool
import ShoppingApp.Proof.Effects

namespace ShoppingApp

/-- A rule for user records is met by new accounts and kept by updates with fitting values. -/
structure RecordRule where
  holds : Dictionary → Prop
  fits : Dictionary → Prop
  created : ∀ userId email, holds (userDictionaryFrom (MUser.new userId email "" ""))
  patch : ∀ {record values}, holds record → fits values → holds (record.patch values)

/-- The records that a flight carries meet the rule. -/
def Flight.Ruled (rule : RecordRule) (flight : Flight) : Prop :=
  match flight.request with
  | .getUser _ _ => ∀ record, flight.reply = some (.document (some record)) → rule.holds record
  | .setUser _ data => rule.holds data
  | .updateUser _ values userObject => rule.fits values ∧ rule.holds userObject
  | _ => True

/-- The updates that a gesture issues fit the rule. -/
def Gesture.Fits (rule : RecordRule) (device : Device) (gesture : Gesture) : Prop :=
  ∀ uid values userObject, .updateUser uid values userObject ∈ (gesture.handle device).issued → rule.fits values

/-- The user documents, the cached records, and the records in flight meet the rule. -/
structure World.Ruled (rule : RecordRule) (world : World) : Prop where
  stored : ∀ userId record, world.store.data .user userId = some record → rule.holds record
  cached : ∀ number record, (world.devices number).defaults = some record → rule.holds record
  flights : ∀ flight ∈ world.flights, flight.Ruled rule

variable {rule wider : RecordRule} {world next : World} {number index : Nat} {request : Request} {reply : Reply}

theorem Flight.Ruled.mono {flight : Flight} (ruled : flight.Ruled rule)
    (holds : ∀ record, rule.holds record → wider.holds record) (fits : ∀ values, rule.fits values → wider.fits values) :
    flight.Ruled wider := by
  obtain ⟨number, request, reply⟩ := flight
  cases request with
  | getUser userId email => exact fun record replied => holds record (ruled record replied)
  | setUser name data => exact holds data ruled
  | updateUser name values userObject => exact ⟨fits values ruled.1, holds userObject ruled.2⟩
  | _ => trivial

/-- Another reply than a document brings no record. -/
theorem Flight.Ruled.replied (ruled : Flight.Ruled rule ⟨number, request, none⟩)
    (other : ∀ record, reply ≠ .document (some record)) : Flight.Ruled rule ⟨number, request, some reply⟩ := by
  cases request with
  | getUser userId email => exact fun record replied => absurd (Option.some.inj replied) (other record)
  | setUser name data => exact ruled
  | updateUser name values userObject => exact ruled
  | _ => trivial

/-- A completion saves a record that meets the rule. -/
theorem Flight.Ruled.saved {record : Dictionary} (ruled : Flight.Ruled rule ⟨number, request, some reply⟩)
    (saves : request.saved reply = some record) : rule.holds record := by
  cases request with
  | getUser userId email =>
      cases reply with
      | document data =>
          cases data with
          | none =>
              obtain rfl := Option.some.inj saves
              exact rule.created userId email
          | some found =>
              obtain rfl := Option.some.inj saves
              exact ruled _ rfl
      | _ => cases saves
  | updateUser name values userObject =>
      cases reply with
      | done =>
          obtain rfl := Option.some.inj saves
          exact ruled.2
      | _ => cases saves
  | _ => cases reply <;> cases saves

namespace World.Ruled

theorem mono (ruled : world.Ruled rule) (holds : ∀ record, rule.holds record → wider.holds record)
    (fits : ∀ values, rule.fits values → wider.fits values) : world.Ruled wider :=
  ⟨fun userId record stored => holds record (ruled.stored userId record stored),
    fun number record cached => holds record (ruled.cached number record cached),
    fun flight member => (ruled.flights flight member).mono holds fits⟩

/-- A handler keeps the rule when it saves and issues records that meet it. -/
theorem perform (ruled : world.Ruled rule) {outcome : Outcome}
    (saves : ∀ record, outcome.device.defaults = some record → rule.holds record)
    (issues : ∀ request ∈ outcome.issued, Flight.Ruled rule ⟨number, request, none⟩) :
    (world.perform number outcome).Ruled rule := by
  refine ⟨ruled.stored, fun other record cached => ?_, forall_perform ruled.flights issues⟩
  by_cases same : other = number
  · subst same
    rw [perform_devices] at cached
    exact saves record cached
  · rw [perform_other _ _ same] at cached
    exact ruled.cached other record cached

theorem gesture (ruled : world.Ruled rule) {made : Gesture} (fits : made.Fits rule (world.devices number)) :
    (world.perform number (made.handle (world.devices number))).Ruled rule := by
  refine ruled.perform (fun record cached => ruled.cached number record (made.handle_defaults cached)) ?_
  intro request issued
  have merged {values dictionary : Dictionary} (cached : (world.devices number).defaults = some dictionary)
      (fitting : rule.fits values) : rule.fits values ∧ rule.holds (dictionary.patch values) :=
    ⟨fitting, rule.patch (ruled.cached number dictionary cached) fitting⟩
  cases Gesture.issues_of_mem issued with
  | recordPurchase signedIn cached decoded => exact merged cached (fits _ _ _ issued)
  | saveProfile signedIn cached => exact merged cached (fits _ _ _ issued)
  | finishOnboarding signedIn cached => exact merged cached (fits _ _ _ issued)
  | updateUser signedIn cached => exact merged cached (fits _ _ _ issued)
  | _ => trivial

/-- The server keeps the rule in its documents and in the answers. -/
theorem answer (ruled : world.Ruled rule) (ofRequest : Flight.Ruled rule ⟨number, request, none⟩) :
    (∀ userId record, (world.store.answer request).1.data .user userId = some record → rule.holds record) ∧
      Flight.Ruled rule ⟨number, request, some (world.store.answer request).2⟩ := by
  refine ⟨fun userId record found => ?_, ?_⟩
  · rcases Store.answer_user_cases found with kept | rfl | ⟨values, userObject, old, rfl, present, rfl⟩
    · exact ruled.stored userId record kept
    · exact ofRequest
    · exact rule.patch (ruled.stored userId old present) ofRequest.1
  · cases request with
    | getUser userId email =>
        refine fun record replied => ruled.stored userId record ?_
        simpa [Store.answer] using Option.some.inj replied
    | setUser name data => exact ofRequest
    | updateUser name values userObject => exact ofRequest
    | _ => trivial

theorem serve (ruled : world.Ruled rule) {answer : Answer}
    (found : world.flights[index]? = some ⟨number, request, none⟩)
    (served : world.serve index number request answer = some next) : next.Ruled rule := by
  have ofRequest := ruled.flights _ (List.mem_of_getElem? found)
  rcases serve_cases served with ⟨_, rfl⟩ | ⟨_, _, rfl⟩ | ⟨uid, isEmailVerified, _, _, rfl⟩
  · exact ⟨ruled.stored, ruled.cached, Pool.forall_set ruled.flights (ofRequest.replied (by simp))⟩
  · obtain ⟨stored, answered⟩ := ruled.answer ofRequest
    exact ⟨stored, ruled.cached, Pool.forall_set ruled.flights answered⟩
  · refine ⟨ruled.stored, fun other record cached => ?_, Pool.forall_set ruled.flights (ofRequest.replied (by simp))⟩
    obtain ⟨auth, _, signedIn⟩ := world.signIn_device number other uid
    simp only [World.record, signedIn] at cached
    exact ruled.cached other record cached

theorem callback (ruled : world.Ruled rule) {uuid : String}
    (found : world.flights[index]? = some ⟨number, request, some reply⟩) :
    (world.callback index number request reply uuid).Ruled rule := by
  have ofRequest := ruled.flights _ (List.mem_of_getElem? found)
  have erased : Ruled rule { world with flights := world.flights.eraseIdx index } :=
    ⟨ruled.stored, ruled.cached, Pool.forall_eraseIdx ruled.flights⟩
  cases stopped : (world.devices number).trapped with
  | true => rwa [callback_of_stopped stopped]
  | false =>
      rw [callback_of_running stopped]
      refine erased.perform (fun record cached => ?_) fun issued follows => ?_
      · rw [Request.complete_defaults] at cached
        rcases Option.or_eq_some_iff.mp cached with saves | ⟨_, old⟩
        · exact ofRequest.saved saves
        · exact ruled.cached number record old
      · cases Request.follows_of_mem follows with
        | saveUser missing => exact rule.created _ _
        | downloadUser => exact fun record replied => by cases replied
        | _ => trivial

/-- A step keeps the rule when the updates of its gesture fit. -/
theorem step (ruled : world.Ruled rule) {event : Event}
    (fits : ∀ number made, event = .gesture number made → made.Fits rule (world.devices number))
    (taken : world.step event = some next) : next.Ruled rule := by
  cases event with
  | gesture number made =>
      obtain ⟨_, rfl⟩ := step_gesture.mp taken
      exact ruled.gesture (fits number made rfl)
  | serve index answer =>
      obtain ⟨number, request, found, served⟩ := step_serve.mp taken
      exact ruled.serve found served
  | callback index uuid =>
      obtain ⟨number, request, reply, found, _, rfl⟩ := step_callback.mp taken
      exact ruled.callback found

/-- A rule holds where nobody has a record. -/
theorem initial (unstored : ∀ userId, world.store.data .user userId = none)
    (uncached : ∀ number, (world.devices number).defaults = none) (idle : world.flights = []) : world.Ruled rule := by
  refine ⟨fun userId record stored => ?_, fun number record cached => ?_, ?_⟩
  · rw [unstored] at stored
    cases stored
  · rw [uncached] at cached
    cases cached
  · rw [idle]
    exact fun flight member => absurd member List.not_mem_nil

end World.Ruled

end ShoppingApp
