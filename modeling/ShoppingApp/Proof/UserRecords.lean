import ShoppingApp.Library.Pool
import ShoppingApp.Proof.SessionIdentity

namespace ShoppingApp

/-- A kind of user records is met by new accounts and kept by the updates of the screens. -/
structure RecordKind where
  holds : String → Dictionary → Prop
  fits : Dictionary → Prop
  created : ∀ userId email, holds userId (userDictionaryFrom (MUser.new userId email "" ""))
  patch : ∀ {userId record values}, holds userId record → fits values → holds userId (record.patch values)
  profile : ∀ name surname address, fits (profileValues name surname address)
  onboarding : ∀ name surname address, fits (onboardingValues name surname address)
  purchased : ∀ itemIds, fits (purchasedValues itemIds)

/-- Every user document is of the kind that its name asks for. -/
def Store.UsersOf (kind : RecordKind) (store : Store) : Prop :=
  ∀ userId record, store.data .user userId = some record → kind.holds userId record

/-- The records in flight are of the kind, and only the listed accounts are downloaded. -/
def Flight.Recorded (kind : RecordKind) (owned : String → Prop) (flight : Flight) : Prop :=
  match flight.request with
  | .getUser userId _ => owned userId ∧
      ∀ record, flight.reply = some (.document (some record)) → kind.holds userId record
  | .setUser name data => kind.holds name data
  | .updateUser _ values userObject => kind.fits values ∧ ∃ userId, owned userId ∧ kind.holds userId userObject
  | _ => True

/-- The gestures are the ones that the screens of these devices offer. -/
def Event.ActedBy (acting : Nat → Prop) : Event → Prop
  | .gesture number made => acting number ∧ made.offered = true
  | .serve _ _ | .callback _ _ => True

namespace World

/-- The callback of a verified login downloads the record of this account. -/
def verifies (world : World) : Event → List String
  | .callback index _ =>
      match world.flights[index]? with
      | some ⟨number, .signIn _, some (.account uid true)⟩ =>
          if (world.devices number).trapped then [] else [uid]
      | _ => []
  | .gesture _ _ | .serve _ _ => []

/-- The documents, the cached records, and the requests of some devices are of one kind, and the cached
records belong to the listed accounts. -/
structure Recorded (kind : RecordKind) (acting : Nat → Prop) (owned : String → Prop) (world : World) : Prop where
  stored : world.store.UsersOf kind
  cached : ∀ number, acting number → ∀ record, (world.devices number).defaults = some record →
    ∃ userId, owned userId ∧ kind.holds userId record
  flights : ∀ flight ∈ world.flights, acting flight.device ∧ flight.Recorded kind owned

end World

section

variable {kind : RecordKind} {acting : Nat → Prop} {owned wider : String → Prop}

theorem Flight.Recorded.mono {flight : Flight} (recorded : flight.Recorded kind owned)
    (grows : ∀ uid, owned uid → wider uid) : flight.Recorded kind wider := by
  obtain ⟨number, request, reply⟩ := flight
  cases request with
  | getUser userId email => exact ⟨grows _ recorded.1, recorded.2⟩
  | updateUser name values userObject =>
      obtain ⟨fits, userId, listed, holds⟩ := recorded
      exact ⟨fits, userId, grows _ listed, holds⟩
  | setUser name data => exact recorded
  | _ => trivial

/-- The server keeps the kind of its user documents. -/
theorem Store.UsersOf.answer {store : Store} (stored : store.UsersOf kind) {number : Nat} {request : Request}
    (recorded : Flight.Recorded kind owned ⟨number, request, none⟩) : (store.answer request).1.UsersOf kind := by
  intro userId record found
  rcases Store.answer_user_cases found with kept | rfl | ⟨values, userObject, old, rfl, present, rfl⟩
  · exact stored userId record kept
  · exact recorded
  · exact kind.patch (stored userId old present) recorded.1

/-- The answer to a download is of the kind. -/
theorem Flight.Recorded.answered {store : Store} (stored : store.UsersOf kind) {number : Nat} {request : Request}
    (recorded : Flight.Recorded kind owned ⟨number, request, none⟩) :
    Flight.Recorded kind owned ⟨number, request, some (store.answer request).2⟩ := by
  cases request with
  | getUser userId email =>
      refine ⟨recorded.1, fun record replied => stored userId record ?_⟩
      simpa [Store.answer] using Option.some.inj replied
  | setUser name data => exact recorded
  | updateUser name values userObject => exact recorded
  | _ => trivial

/-- Another reply than a document brings no record. -/
theorem Flight.Recorded.replied {number : Nat} {request : Request} {reply : Reply}
    (recorded : Flight.Recorded kind owned ⟨number, request, none⟩)
    (other : ∀ record, reply ≠ .document (some record)) :
    Flight.Recorded kind owned ⟨number, request, some reply⟩ := by
  cases request with
  | getUser userId email =>
      exact ⟨recorded.1, fun record replied => absurd (Option.some.inj replied) (other record)⟩
  | setUser name data => exact recorded
  | updateUser name values userObject => exact recorded
  | _ => trivial

/-- A saved record is of the kind and belongs to a listed account. -/
theorem Flight.Recorded.saved {number : Nat} {request : Request} {reply : Reply} {record : Dictionary}
    (recorded : Flight.Recorded kind owned ⟨number, request, some reply⟩)
    (saves : request.saved reply = some record) : ∃ userId, owned userId ∧ kind.holds userId record := by
  cases request with
  | getUser userId email =>
      cases reply with
      | document data =>
          cases data with
          | none =>
              obtain rfl := Option.some.inj saves
              exact ⟨userId, recorded.1, kind.created userId email⟩
          | some found =>
              obtain rfl := Option.some.inj saves
              exact ⟨userId, recorded.1, recorded.2 _ rfl⟩
      | _ => cases saves
  | updateUser name values userObject =>
      cases reply with
      | done =>
          obtain rfl := Option.some.inj saves
          exact recorded.2
      | _ => cases saves
  | _ => cases reply <;> cases saves

namespace World.Recorded

variable {world next : World}

theorem mono (recorded : Recorded kind acting owned world) (grows : ∀ uid, owned uid → wider uid) :
    Recorded kind acting wider world := by
  refine ⟨recorded.stored, ?_, ?_⟩
  · intro number acts record cached
    obtain ⟨userId, listed, holds⟩ := recorded.cached number acts record cached
    exact ⟨userId, grows _ listed, holds⟩
  · intro flight member
    obtain ⟨acts, ofFlight⟩ := recorded.flights flight member
    exact ⟨acts, ofFlight.mono grows⟩

/-- A handler keeps the records when it issues and saves records of the kind. -/
theorem perform (recorded : Recorded kind acting owned world) {number : Nat} {outcome : Outcome}
    (acts : acting number)
    (saves : ∀ record, outcome.device.defaults = some record → ∃ userId, owned userId ∧ kind.holds userId record)
    (issues : ∀ request ∈ outcome.issued, Flight.Recorded kind owned ⟨number, request, none⟩) :
    Recorded kind acting owned (world.perform number outcome) := by
  refine ⟨recorded.stored, ?_, ?_⟩
  · intro other actsOther record cached
    by_cases same : other = number
    · subst same
      rw [perform_devices] at cached
      exact saves record cached
    · rw [perform_other _ _ same] at cached
      exact recorded.cached other actsOther record cached
  · exact forall_perform recorded.flights fun request issued => ⟨acts, issues request issued⟩

/-- A gesture merges fitting values into the cached record. -/
theorem gesture (recorded : Recorded kind acting owned world) {number : Nat} {made : Gesture}
    (acts : acting number) (offered : made.offered = true) :
    Recorded kind acting owned (world.perform number (made.handle (world.devices number))) := by
  refine recorded.perform acts ?_ ?_
  · exact fun record cached => recorded.cached number acts record (made.handle_defaults cached)
  · intro request issued
    have merged {values dictionary : Dictionary} (cached : (world.devices number).defaults = some dictionary)
        (fits : kind.fits values) : ∃ userId, owned userId ∧ kind.holds userId (dictionary.patch values) := by
      obtain ⟨userId, listed, holds⟩ := recorded.cached number acts dictionary cached
      exact ⟨userId, listed, kind.patch holds fits⟩
    cases Gesture.issues_of_mem issued with
    | recordPurchase signedIn cached decoded => exact ⟨kind.purchased _, merged cached (kind.purchased _)⟩
    | saveProfile signedIn cached => exact ⟨kind.profile _ _ _, merged cached (kind.profile _ _ _)⟩
    | finishOnboarding signedIn cached =>
        exact ⟨kind.onboarding _ _ _, merged cached (kind.onboarding _ _ _)⟩
    | updateUser signedIn cached => cases offered
    | _ => trivial

/-- The server keeps the kind of the documents and of the replies. -/
theorem serve (recorded : Recorded kind acting owned world) {index number : Nat} {request : Request}
    {answer : Answer} (found : world.flights[index]? = some ⟨number, request, none⟩)
    (served : world.serve index number request answer = some next) : Recorded kind acting owned next := by
  obtain ⟨acts, ofRequest⟩ := recorded.flights _ (List.mem_of_getElem? found)
  have kept {reply : Reply} (ofReply : Flight.Recorded kind owned ⟨number, request, some reply⟩) :
      ∀ flight ∈ world.flights.set index ⟨number, request, some reply⟩,
        acting flight.device ∧ flight.Recorded kind owned :=
    Pool.forall_set recorded.flights ⟨acts, ofReply⟩
  rcases serve_cases served with ⟨_, rfl⟩ | ⟨_, _, rfl⟩ | ⟨uid, isEmailVerified, _, _, rfl⟩
  · exact ⟨recorded.stored, recorded.cached, kept (ofRequest.replied (by simp))⟩
  · exact ⟨recorded.stored.answer ofRequest, recorded.cached, kept (ofRequest.answered recorded.stored)⟩
  · refine ⟨recorded.stored, ?_, kept (ofRequest.replied (by simp))⟩
    intro other actsOther record cached
    obtain ⟨auth, _, signedIn⟩ := world.signIn_device number other uid
    simp only [World.record, signedIn] at cached
    exact recorded.cached other actsOther record cached

/-- A callback saves a record of the kind, and a verified login adds its account to the listed ones. -/
theorem callback (recorded : Recorded kind acting owned world) {index number : Nat} {request : Request}
    {reply : Reply} {uuid : String} (grows : ∀ uid, owned uid → wider uid)
    (passes : ∀ uid ∈ world.verifies (.callback index uuid), wider uid)
    (found : world.flights[index]? = some ⟨number, request, some reply⟩) :
    Recorded kind acting wider (world.callback index number request reply uuid) := by
  obtain ⟨acts, ofRequest⟩ := recorded.flights _ (List.mem_of_getElem? found)
  have erased : Recorded kind acting wider { world with flights := world.flights.eraseIdx index } := by
    obtain ⟨stored, cached, flights⟩ := recorded.mono grows
    exact ⟨stored, cached, Pool.forall_eraseIdx flights⟩
  cases stopped : (world.devices number).trapped with
  | true => rwa [callback_of_stopped stopped]
  | false =>
      rw [callback_of_running stopped]
      refine erased.perform acts ?_ ?_
      · intro record cached
        rw [Request.complete_defaults] at cached
        rcases Option.or_eq_some_iff.mp cached with saves | ⟨_, old⟩
        · exact (ofRequest.mono grows).saved saves
        · exact erased.cached number acts record old
      · intro issued follows
        cases Request.follows_of_mem follows with
        | saveUser missing => exact kind.created _ _
        | @downloadUser email uid =>
            have passed : uid ∈ world.verifies (.callback index uuid) := by simp [verifies, found, stopped]
            exact ⟨passes uid passed, fun record replied => by cases replied⟩
        | _ => trivial

/-- A step keeps the records of the kind. -/
theorem step (recorded : Recorded kind acting owned world) {event : Event} (acted : event.ActedBy acting)
    (grows : ∀ uid, owned uid → wider uid) (passes : ∀ uid ∈ world.verifies event, wider uid)
    (taken : world.step event = some next) : Recorded kind acting wider next := by
  cases event with
  | gesture number made =>
      obtain ⟨_, rfl⟩ := step_gesture.mp taken
      exact (recorded.gesture acted.1 acted.2).mono grows
  | serve index answer =>
      obtain ⟨number, request, found, served⟩ := step_serve.mp taken
      exact (recorded.serve found served).mono grows
  | callback index uuid =>
      obtain ⟨number, request, reply, found, _, rfl⟩ := step_callback.mp taken
      exact recorded.callback grows passes found

end World.Recorded

end

end ShoppingApp
