import ShoppingApp.Library.Pool
import ShoppingApp.Proof.Effects

namespace ShoppingApp

/-- A user record decodes and carries the identifier of its account. -/
structure Dictionary.OfAccount (userId : String) (record : Dictionary) : Prop where
  objectId : record.read Value.asString .objectId = some userId
  email : (record.force Value.asString .email "").isSome
  firstName : (record.force Value.asString .firstName "").isSome
  lastName : (record.force Value.asString .lastName "").isSome
  fullAddress : (record.force Value.asString .fullAddress "").isSome
  onboard : (record.force Value.asBool .onboard false).isSome
  purchasedItemIds : (record.force Value.asStrings .purchasedItemIds []).isSome

/-- The values of an update have the types of the record and leave the identifier. -/
structure Dictionary.Fits (values : Dictionary) : Prop where
  objectId : values .objectId = none
  email : ∀ value ∈ values .email, value.asString.isSome
  firstName : ∀ value ∈ values .firstName, value.asString.isSome
  lastName : ∀ value ∈ values .lastName, value.asString.isSome
  fullAddress : ∀ value ∈ values .fullAddress, value.asString.isSome
  onboard : ∀ value ∈ values .onboard, value.asBool.isSome
  purchasedItemIds : ∀ value ∈ values .purchasedItemIds, value.asStrings.isSome

namespace Dictionary

/-- The record of an account decodes to a user with its identifier. -/
theorem OfAccount.decodes {userId : String} {record : Dictionary} (ofAccount : record.OfAccount userId) :
    ∃ user, MUser.ofDictionary record = some user ∧ user.objectId = userId := by
  obtain ⟨email, hasEmail⟩ := Option.isSome_iff_exists.mp ofAccount.email
  obtain ⟨firstName, hasFirstName⟩ := Option.isSome_iff_exists.mp ofAccount.firstName
  obtain ⟨lastName, hasLastName⟩ := Option.isSome_iff_exists.mp ofAccount.lastName
  obtain ⟨fullAddress, hasAddress⟩ := Option.isSome_iff_exists.mp ofAccount.fullAddress
  obtain ⟨onBoard, hasOnBoard⟩ := Option.isSome_iff_exists.mp ofAccount.onboard
  obtain ⟨history, hasHistory⟩ := Option.isSome_iff_exists.mp ofAccount.purchasedItemIds
  refine ⟨{ objectId := userId, email, firstName, lastName, fullName := firstName ++ " " ++ lastName,
            purchasedItemIds := history, fullAddress := some fullAddress, onBoard }, ?_, rfl⟩
  simp [MUser.ofDictionary, ofAccount.objectId, hasEmail, hasFirstName, hasLastName, hasAddress,
    hasOnBoard, hasHistory]

theorem force_patch {A : Type} {base values : Dictionary} {cast : Value → Option A} {key : Key} {default : A}
    (decodes : (base.force cast key default).isSome) (fits : ∀ value ∈ values key, (cast value).isSome) :
    (Dictionary.force (base.patch values) cast key default).isSome := by
  unfold force Record.patch
  cases named : values key with
  | none => exact decodes
  | some value => exact fits value named

/-- An update with fitting values keeps the record of the account. -/
theorem OfAccount.patch {userId : String} {record values : Dictionary} (ofAccount : record.OfAccount userId)
    (fits : values.Fits) : Dictionary.OfAccount userId (record.patch values) where
  objectId := by
    unfold read Record.patch
    rw [fits.objectId]
    exact ofAccount.objectId
  email := force_patch ofAccount.email fits.email
  firstName := force_patch ofAccount.firstName fits.firstName
  lastName := force_patch ofAccount.lastName fits.lastName
  fullAddress := force_patch ofAccount.fullAddress fits.fullAddress
  onboard := force_patch ofAccount.onboard fits.onboard
  purchasedItemIds := force_patch ofAccount.purchasedItemIds fits.purchasedItemIds

theorem ofAccount_userDictionaryFrom (user : MUser) :
    Dictionary.OfAccount user.objectId (userDictionaryFrom user) :=
  ⟨rfl, rfl, rfl, rfl, rfl, rfl, rfl⟩

theorem fits_profileValues (name surname address : String) : Dictionary.Fits (profileValues name surname address) := by
  refine ⟨rfl, ?_, ?_, ?_, ?_, ?_, ?_⟩ <;> intro value has <;> cases has <;> rfl

theorem fits_onboardingValues (name surname address : String) :
    Dictionary.Fits (onboardingValues name surname address) := by
  refine ⟨rfl, ?_, ?_, ?_, ?_, ?_, ?_⟩ <;> intro value has <;> cases has <;> rfl

theorem fits_purchasedValues (itemIds : List String) : Dictionary.Fits (purchasedValues itemIds) := by
  refine ⟨rfl, ?_, ?_, ?_, ?_, ?_, ?_⟩
  · exact fun value has => by cases has
  · exact fun value has => by cases has
  · exact fun value has => by cases has
  · exact fun value has => by cases has
  · exact fun value has => by cases has
  · intro value has
    obtain rfl := Option.some.inj has
    rfl

end Dictionary

/-- Every user document is the record of the account that names it. -/
def Store.NamedUsers (store : Store) : Prop :=
  ∀ userId record, store.data .user userId = some record → Dictionary.OfAccount userId record

/-- The records in flight belong to the accounts of their requests. -/
def Flight.Identified (flight : Flight) : Prop :=
  match flight.request with
  | .getUser userId _ => ∀ record, flight.reply = some (.document (some record)) → record.OfAccount userId
  | .setUser name data => data.OfAccount name
  | .updateUser name values userObject => values.Fits ∧ userObject.OfAccount name
  | _ => True

/-- The callback will save a record of this account. -/
def Flight.savesRecordOf (flight : Flight) : Option String :=
  match flight.request, flight.reply with
  | .getUser userId _, some (.document _) => some userId
  | .updateUser name _ _, some .done => some name
  | _, _ => none

/-- A successful authentication makes this account the current one. -/
def Answer.uid : Answer → Option String
  | .account uid _ => some uid
  | .failure | .success => none

/-- The screens offer every gesture but the call with arbitrary values. -/
def Gesture.offered : Gesture → Bool
  | .updateUser _ => false
  | _ => true

namespace World

/-- The current user has the identifier of the Auth account. -/
def SameIdentity (number : Nat) (world : World) : Prop :=
  ∀ user, (world.devices number).currentUser = some (some user) →
    (world.devices number).auth = some user.objectId

/-- An account replaces the current one only while the cache holds no record of another account, and a
record is saved only for the current account. -/
def KeepsIdentity (world : World) : Event → Prop
  | .gesture _ _ => True
  | .serve index answer =>
      ∀ uid ∈ answer.uid, ∀ flight ∈ world.flights[index]?,
        ∀ record ∈ (world.devices flight.device).defaults,
          record.read Value.asString .objectId = some uid
  | .callback index _ =>
      ∀ flight ∈ world.flights[index]?, ∀ owner ∈ flight.savesRecordOf,
        (world.devices flight.device).trapped = false →
          ∀ uid ∈ (world.devices flight.device).auth, owner = uid

instance (world : World) : ∀ event, Decidable (world.KeepsIdentity event)
  | .gesture _ _ => inferInstanceAs (Decidable True)
  | .serve _ _ => inferInstanceAs (Decidable (∀ _ ∈ _, ∀ _ ∈ _, ∀ _ ∈ _, _ = _))
  | .callback _ _ => inferInstanceAs (Decidable (∀ _ ∈ _, ∀ _ ∈ _, _ = _ → ∀ _ ∈ _, _ = _))

/-- The documents, the cached record, and the requests of one device belong to accounts. -/
structure Identified (number : Nat) (world : World) : Prop where
  stored : world.store.NamedUsers
  cached : ∀ record, (world.devices number).defaults = some record → ∃ userId, record.OfAccount userId
  flights : ∀ flight ∈ world.flights, flight.device = number ∧ flight.Identified

variable {world next : World} {number : Nat}

/-- The identity is the same exactly when the cached record is one of the current account. -/
theorem Identified.sameIdentity_iff (identified : Identified number world) :
    SameIdentity number world ↔ ∀ uid record, (world.devices number).auth = some uid →
      (world.devices number).defaults = some record → record.OfAccount uid := by
  constructor
  · intro same uid record signedIn cached
    obtain ⟨userId, ofAccount⟩ := identified.cached record cached
    obtain ⟨user, decoded, rfl⟩ := ofAccount.decodes
    have current : (world.devices number).currentUser = some (some user) := by
      simp [Device.currentUser, signedIn, cached, decoded]
    obtain rfl := Option.some.inj (signedIn.symm.trans (same user current))
    exact ofAccount
  · intro all user current
    obtain ⟨uid, record, signedIn, cached, decoded⟩ := Device.currentUser_eq_some current
    obtain ⟨other, same, rfl⟩ := (all uid record signedIn cached).decodes
    obtain rfl := Option.some.inj (decoded.symm.trans same)
    exact signedIn

/-- A record belongs to one account. -/
theorem eq_of_ofAccount {record : Dictionary} {first second : String} (left : record.OfAccount first)
    (right : record.OfAccount second) : first = second :=
  Option.some.inj (left.objectId.symm.trans right.objectId)

end World

/-- A completion keeps the account, and it keeps the cached record or saves the record of its account. -/
theorem Request.complete_session (uuid : String) {number : Nat} {request : Request} {reply : Reply}
    (device : Device) (identified : Flight.Identified ⟨number, request, some reply⟩) :
    (request.complete uuid reply device).device.auth = device.auth ∧
      match Flight.savesRecordOf ⟨number, request, some reply⟩ with
      | none => (request.complete uuid reply device).device.defaults = device.defaults
      | some owner => ∃ record, (request.complete uuid reply device).device.defaults = some record ∧
          record.OfAccount owner := by
  refine ⟨(complete_checkout uuid request reply device).1, ?_⟩
  rw [complete_defaults]
  cases request with
  | getUser userId email =>
      cases reply with
      | document data =>
          cases data with
          | none => exact ⟨_, rfl, Dictionary.ofAccount_userDictionaryFrom (MUser.new userId email "" "")⟩
          | some record => exact ⟨record, rfl, identified record rfl⟩
      | _ => rfl
  | updateUser name values userObject =>
      cases reply with
      | done => exact ⟨userObject, rfl, identified.2⟩
      | _ => rfl
  | _ => rfl

namespace World

variable {world next : World} {number : Nat}

theorem Identified.gesture (identified : Identified number world) (same : SameIdentity number world)
    {gesture : Gesture} (offered : gesture.offered = true) :
    Identified number (world.perform number (gesture.handle (world.devices number))) ∧
      SameIdentity number (world.perform number (gesture.handle (world.devices number))) := by
  have records := identified.sameIdentity_iff.mp same
  have device := world.perform_devices number (gesture.handle (world.devices number))
  have kept : Identified number (world.perform number (gesture.handle (world.devices number))) := by
    refine ⟨identified.stored, ?_, ?_⟩
    · intro record cached
      rw [device] at cached
      rcases gesture.handle_session (world.devices number) with ⟨_, defaults⟩ | ⟨_, defaults⟩
      · exact identified.cached record (defaults ▸ cached)
      · rw [defaults] at cached
        cases cached
    · apply forall_perform identified.flights
      intro request issued
      refine ⟨rfl, ?_⟩
      cases Gesture.issues_of_mem issued with
      | recordPurchase signedIn cached decoded =>
          exact ⟨Dictionary.fits_purchasedValues _,
            (records _ _ signedIn cached).patch (Dictionary.fits_purchasedValues _)⟩
      | saveProfile signedIn cached =>
          exact ⟨Dictionary.fits_profileValues _ _ _,
            (records _ _ signedIn cached).patch (Dictionary.fits_profileValues _ _ _)⟩
      | finishOnboarding signedIn cached =>
          exact ⟨Dictionary.fits_onboardingValues _ _ _,
            (records _ _ signedIn cached).patch (Dictionary.fits_onboardingValues _ _ _)⟩
      | updateUser signedIn cached => cases offered
      | _ => trivial
  refine ⟨kept, kept.sameIdentity_iff.mpr ?_⟩
  intro uid record signedIn cached
  rw [device] at signedIn cached
  rcases gesture.handle_session (world.devices number) with ⟨auth, defaults⟩ | ⟨_, defaults⟩
  · exact records uid record (auth ▸ signedIn) (defaults ▸ cached)
  · rw [defaults] at cached
    cases cached

/-- The server keeps the user documents with their accounts. -/
theorem answer_namedUsers {store : Store} (named : store.NamedUsers) {request : Request} {number : Nat}
    (identified : Flight.Identified ⟨number, request, none⟩) : (store.answer request).1.NamedUsers := by
  intro userId record found
  rcases Store.answer_user_cases found with kept | rfl | ⟨values, userObject, old, rfl, present, rfl⟩
  · exact named userId record kept
  · exact identified
  · exact (named userId old present).patch identified.1

/-- The reply to a download is the record of its account. -/
theorem answer_identified {store : Store} (named : store.NamedUsers) {request : Request} {number : Nat}
    (identified : Flight.Identified ⟨number, request, none⟩) :
    Flight.Identified ⟨number, request, some (store.answer request).2⟩ := by
  cases request with
  | getUser userId email =>
      intro record replied
      apply named userId record
      have shown := Option.some.inj replied
      simpa [Store.answer] using shown
  | setUser name data => exact identified
  | updateUser name values userObject => exact identified
  | _ => trivial

/-- Another reply than a document carries no record. -/
theorem identified_reply {request : Request} {reply : Reply}
    (identified : Flight.Identified ⟨number, request, none⟩)
    (other : ∀ record, reply ≠ .document (some record)) :
    Flight.Identified ⟨number, request, some reply⟩ := by
  cases request with
  | getUser userId email => exact fun record replied => absurd (Option.some.inj replied) (other record)
  | setUser name data => exact identified
  | updateUser name values userObject => exact identified
  | _ => trivial

theorem Identified.serve (identified : Identified number world) (same : SameIdentity number world)
    {index device : Nat} {request : Request} {answer : Answer}
    (found : world.flights[index]? = some ⟨device, request, none⟩)
    (served : world.serve index device request answer = some next) :
    Identified number next ∧ (SameIdentity number next ↔ world.KeepsIdentity (.serve index answer)) := by
  obtain ⟨rfl, ofRequest⟩ := identified.flights _ (List.mem_of_getElem? found)
  have kept {reply : Reply} (ofReply : Flight.Identified ⟨device, request, some reply⟩) :
      ∀ flight ∈ world.flights.set index ⟨device, request, some reply⟩,
        flight.device = device ∧ flight.Identified := Pool.forall_set identified.flights ⟨rfl, ofReply⟩
  rcases serve_cases served with ⟨rfl, rfl⟩ | ⟨rfl, _, rfl⟩ | ⟨uid, isEmailVerified, rfl, _, rfl⟩
  · refine ⟨⟨identified.stored, identified.cached, kept (identified_reply ofRequest (by simp))⟩, ?_⟩
    exact iff_of_true same fun uid impossible => by cases impossible
  · refine ⟨⟨answer_namedUsers identified.stored ofRequest, identified.cached,
      kept (answer_identified identified.stored ofRequest)⟩, ?_⟩
    exact iff_of_true same fun uid impossible => by cases impossible
  · have next : Identified device ((world.signIn device uid).record index device request
        (.account uid isEmailVerified)) := by
      refine ⟨identified.stored, ?_, kept (identified_reply ofRequest (by simp))⟩
      intro record cached
      apply identified.cached record
      simpa [World.record, World.signIn] using cached
    have signedIn : (((world.signIn device uid).record index device request
        (.account uid isEmailVerified)).devices device).auth = some uid := by
      simp [World.record, World.signIn]
    have cached : (((world.signIn device uid).record index device request
        (.account uid isEmailVerified)).devices device).defaults = (world.devices device).defaults := by
      simp [World.record, World.signIn]
    refine ⟨next, ?_⟩
    rw [next.sameIdentity_iff, cached, signedIn]
    constructor
    · intro records account isAccount flight isFlight record isRecord
      obtain rfl := Option.some.inj isAccount
      obtain rfl := Option.some.inj (found.symm.trans isFlight)
      exact (records uid record rfl isRecord).objectId
    · intro condition account record isAccount isRecord
      obtain rfl := Option.some.inj isAccount
      obtain ⟨owner, ofAccount⟩ := identified.cached record isRecord
      have same := condition uid rfl _ found record isRecord
      rw [ofAccount.objectId] at same
      exact Option.some.inj same ▸ ofAccount

/-- A callback keeps the records with their accounts. -/
theorem Identified.returned (identified : Identified number world) {index device : Nat} {request : Request}
    {reply : Reply} (uuid : String)
    (found : world.flights[index]? = some ⟨device, request, some reply⟩) :
    Identified number (world.callback index device request reply uuid) := by
  obtain ⟨rfl, ofRequest⟩ := identified.flights _ (List.mem_of_getElem? found)
  cases stopped : (world.devices device).trapped with
  | true =>
      rw [callback_of_stopped stopped]
      exact ⟨identified.stored, identified.cached, Pool.forall_eraseIdx identified.flights⟩
  | false =>
      obtain ⟨_, saved⟩ := request.complete_session uuid (world.devices device) ofRequest
      rw [callback_of_running stopped]
      refine ⟨identified.stored, ?_, ?_⟩
      · intro record cached
        rw [perform_devices] at cached
        cases saves : Flight.savesRecordOf ⟨device, request, some reply⟩ with
        | none =>
            rw [saves] at saved
            exact identified.cached record (saved ▸ cached)
        | some owner =>
            rw [saves] at saved
            obtain ⟨other, has, ofOwner⟩ := saved
            exact ⟨owner, Option.some.inj (has.symm.trans cached) ▸ ofOwner⟩
      · apply forall_perform
        · exact Pool.forall_eraseIdx identified.flights
        · intro issued follows
          refine ⟨rfl, ?_⟩
          cases Request.follows_of_mem follows with
          | saveUser missing => exact Dictionary.ofAccount_userDictionaryFrom (MUser.new _ _ "" "")
          | downloadUser => exact fun record replied => by cases replied
          | _ => trivial

/-- A callback saves a record only for the current account exactly when the identity stays the same. -/
theorem Identified.callback (identified : Identified number world) (same : SameIdentity number world)
    {index device : Nat} {request : Request} {reply : Reply} (uuid : String)
    (found : world.flights[index]? = some ⟨device, request, some reply⟩) :
    Identified number (world.callback index device request reply uuid) ∧
      (SameIdentity number (world.callback index device request reply uuid) ↔
        world.KeepsIdentity (.callback index uuid)) := by
  have kept := identified.returned uuid found
  refine ⟨kept, ?_⟩
  obtain ⟨rfl, ofRequest⟩ := identified.flights _ (List.mem_of_getElem? found)
  have records := identified.sameIdentity_iff.mp same
  rw [kept.sameIdentity_iff]
  cases stopped : (world.devices device).trapped with
  | true =>
      rw [callback_of_stopped stopped]
      refine iff_of_true records ?_
      intro flight isFlight owner _ running
      obtain rfl := Option.some.inj (found.symm.trans isFlight)
      rw [stopped] at running
      cases running
  | false =>
      obtain ⟨auth, saved⟩ := request.complete_session uuid (world.devices device) ofRequest
      rw [callback_of_running stopped, perform_devices, auth]
      cases saves : Flight.savesRecordOf ⟨device, request, some reply⟩ with
      | none =>
          rw [saves] at saved
          rw [saved]
          refine iff_of_true records ?_
          intro flight isFlight owner isOwner
          obtain rfl := Option.some.inj (found.symm.trans isFlight)
          rw [saves] at isOwner
          cases isOwner
      | some owner =>
          rw [saves] at saved
          obtain ⟨record, cached, ofOwner⟩ := saved
          rw [cached]
          constructor
          · intro all flight isFlight other isOther _ uid signedIn
            obtain rfl := Option.some.inj (found.symm.trans isFlight)
            obtain rfl := Option.some.inj (saves.symm.trans isOther)
            exact eq_of_ofAccount ofOwner (all uid record signedIn rfl)
          · intro condition uid other signedIn isOther
            obtain rfl := Option.some.inj isOther
            exact condition _ found owner saves stopped uid signedIn ▸ ofOwner

/-- A step keeps the identity exactly when it meets the condition. -/
theorem Identified.step (identified : Identified number world) (same : SameIdentity number world)
    {event : Event} (listed : event.By number Gesture.offered) (taken : world.step event = some next) :
    Identified number next ∧ (SameIdentity number next ↔ world.KeepsIdentity event) := by
  cases event with
  | gesture device made =>
      obtain ⟨rfl, offered⟩ := listed
      obtain ⟨_, rfl⟩ := step_gesture.mp taken
      obtain ⟨kept, sameNext⟩ := identified.gesture same offered
      exact ⟨kept, iff_of_true sameNext trivial⟩
  | serve index answer =>
      obtain ⟨device, request, found, served⟩ := step_serve.mp taken
      exact identified.serve same found served
  | callback index uuid =>
      obtain ⟨device, request, reply, found, _, rfl⟩ := step_callback.mp taken
      exact identified.callback same uuid found

end World

/-- The current user has the identifier of the Auth account in every state of a run exactly when an account
replaces the current one only without a cached record of another account, and a download or an update is
saved only for the current account. -/
theorem session_identity_iff {world final : World} {events : List Event} {number : Nat}
    (quiet : world.Quiet) (stored : world.store.NamedUsers)
    (cached : ∀ record, (world.devices number).defaults = some record → ∃ userId, record.OfAccount userId)
    (same : world.SameIdentity number) (offered : ∀ event ∈ events, event.By number Gesture.offered)
    (ran : world.run events = some final) :
    (∀ before after reached, events = before ++ after → world.run before = some reached →
        reached.SameIdentity number) ↔ world.Along World.KeepsIdentity events := by
  have empty : world.flights = [] := quiet
  have identified : world.Identified number := ⟨stored, cached, by simp [empty]⟩
  apply Transition.reached_iff_along (World.Identified number) _ identified same (.of_forall offered) ran
  intro state event next identified same listed taken
  exact identified.step same listed taken

/-- Nobody is signed in, and no account has a document. -/
def newDevice : World where
  store := Store.ofEntries [] [] []
  devices := fun _ => {}
  flights := []

/-- A verified account signs in for the first time and saves its document. -/
def firstLogin (uid email : String) : List Event :=
  [.gesture 0 (.login email), .serve 0 (.account uid true), .callback 0 "n", .serve 0 .success,
    .callback 0 "n", .serve 0 .success, .callback 0 "n"]

/-- The first account signs out before the second one signs in. -/
def switchAccounts : List Event :=
  firstLogin "a" "a@mail" ++ [.gesture 0 (.logOut true)] ++ firstLogin "b" "b@mail"

/-- Two sessions with a logout between them keep the identity. -/
theorem session_identity_switch :
    ∃ final, newDevice.run switchAccounts = some final ∧ final.SameIdentity 0 := by
  have met : newDevice.Along World.KeepsIdentity switchAccounts := by decide
  have offered : ∀ event ∈ switchAccounts, event.By 0 Gesture.offered := by decide
  have quiet : newDevice.Quiet := rfl
  have stored : newDevice.store.NamedUsers := fun userId record found => by cases found
  have ran : newDevice.run switchAccounts = some _ := rfl
  have identity := (session_identity_iff quiet stored (fun record cached => by cases cached)
    (fun user current => by cases current) offered ran).mpr met
  exact ⟨_, ran, identity switchAccounts [] _ (List.append_nil _).symm ran⟩

/-- The login of an unverified account replaces the Auth account under the cached record of the first. -/
def unverifiedLogin : List Event :=
  firstLogin "a" "a@mail" ++ [.gesture 0 (.login "b@mail"), .serve 0 (.account "b" false)]

/-- After the login of an unverified account the current user is the record of the other account. -/
theorem session_identity_mixed :
    (∀ event ∈ unverifiedLogin, event.By 0 Gesture.offered) ∧
      ∃ final user, newDevice.run unverifiedLogin = some final ∧
        (final.devices 0).currentUser = some (some user) ∧ user.objectId = "a" ∧
        (final.devices 0).auth = some "b" :=
  ⟨by decide, _, _, rfl, rfl, rfl, rfl⟩

end ShoppingApp
