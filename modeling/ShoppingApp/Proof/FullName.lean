import ShoppingApp.Proof.UserRecords

namespace ShoppingApp

namespace Dictionary

/-- The stored full name is the join of the stored names. -/
def Joined (record : Dictionary) : Prop :=
  ∃ firstName lastName, record.read Value.asString .firstName = some firstName ∧
    record.read Value.asString .lastName = some lastName ∧
    record.read Value.asString .fullName = some (firstName ++ " " ++ lastName)

/-- The values write the three names together or none of them. -/
def KeepsJoin (values : Dictionary) : Prop :=
  values.Joined ∨ (values .firstName = none ∧ values .lastName = none ∧ values .fullName = none)

/-- A written field is read from the patched record. -/
theorem read_patch_of_some {A : Type} {base values : Dictionary} {cast : Value → Option A} {key : Key} {content : A}
    (written : values.read cast key = some content) : Dictionary.read (base.patch values) cast key = some content := by
  unfold read Record.patch
  cases named : values key with
  | none =>
      rw [read, named] at written
      cases written
  | some value => rwa [read, named] at written

/-- A field that the values leave out is read from the base. -/
theorem read_patch_of_none {A : Type} {base values : Dictionary} (cast : Value → Option A) {key : Key}
    (absent : values key = none) : Dictionary.read (base.patch values) cast key = base.read cast key := by
  unfold read Record.patch
  rw [absent, Option.none_or]

theorem Joined.patch {record values : Dictionary} (joined : record.Joined) (keeps : values.KeepsJoin) :
    Dictionary.Joined (record.patch values) := by
  rcases keeps with ⟨firstName, lastName, first, last, full⟩ | ⟨first, last, full⟩
  · exact ⟨firstName, lastName, read_patch_of_some first, read_patch_of_some last, read_patch_of_some full⟩
  · unfold Joined
    rw [read_patch_of_none _ first, read_patch_of_none _ last, read_patch_of_none _ full]
    exact joined

/-- The decoder reads a field that the conditional cast also reads. -/
theorem force_of_read {A : Type} {record : Dictionary} {cast : Value → Option A} {key : Key} {content default : A}
    (stored : record.read cast key = some content) : record.force cast key default = some content := by
  unfold read at stored
  unfold force
  cases named : record key with
  | none =>
      rw [named] at stored
      cases stored
  | some value => rwa [named] at stored

end Dictionary

/-- The decoded user recomputes the stored full name. -/
theorem MUser.fullName_of_joined {record : Dictionary} {user : MUser} (joined : record.Joined)
    (decoded : MUser.ofDictionary record = some user) :
    record.read Value.asString .fullName = some user.fullName := by
  obtain ⟨firstName, lastName, first, last, full⟩ := joined
  simp only [ofDictionary, Option.bind_eq_bind, Option.bind_eq_some_iff, Option.some.injEq,
    Dictionary.force_of_read first, Dictionary.force_of_read last] at decoded
  obtain ⟨objectId, _, email, _, firstRead, rfl, lastRead, rfl, address, _, onBoard, _, history, _, rfl⟩ := decoded
  exact full

/-- The join of the names is kept by every update of the screens. -/
def joinedRecords : RecordKind where
  holds := fun _ record => record.Joined
  fits := Dictionary.KeepsJoin
  created := fun _ _ => ⟨"", "", rfl, rfl, rfl⟩
  patch := Dictionary.Joined.patch
  profile := fun name surname _ => .inl ⟨name, surname, rfl, rfl, rfl⟩
  onboarding := fun name surname _ => .inl ⟨name, surname, rfl, rfl, rfl⟩
  purchased := fun _ => .inr ⟨rfl, rfl, rfl⟩

/-- The record is a user document of the server or the cached record of a device. -/
def World.Keeps (world : World) (record : Dictionary) : Prop :=
  (∃ userId, world.store.data .user userId = some record) ∨ ∃ number, (world.devices number).defaults = some record

/-- In every state of a run, the full name in each user document and in each cached record is the join of the
two names, and it is the one that the decoder recomputes. -/
theorem full_name_joined {world final : World} {events : List Event} (quiet : world.Quiet)
    (joined : ∀ record, world.Keeps record → record.Joined)
    (offered : ∀ event ∈ events, event.Listed Gesture.offered) (ran : world.run events = some final) :
    ∀ record, final.Keeps record → record.Joined ∧
      ∀ user, MUser.ofDictionary record = some user →
        record.read Value.asString .fullName = some user.fullName := by
  have empty : world.flights = [] := quiet
  have initial : World.Recorded joinedRecords (fun _ => True) (fun _ => True) world := by
    refine ⟨fun userId record found => joined record (.inl ⟨userId, found⟩), ?_, by simp [empty]⟩
    exact fun number _ record cached => ⟨"", trivial, joined record (.inr ⟨number, cached⟩)⟩
  have recorded : World.Recorded joinedRecords (fun _ => True) (fun _ => True) final := by
    refine Transition.run_invariant _ ?_ initial (.of_forall offered) ran
    intro state event next recorded listed taken
    have acted : event.ActedBy fun _ => True := by
      cases event with
      | gesture number made => exact ⟨trivial, listed⟩
      | serve index answer => trivial
      | callback index uuid => trivial
    exact recorded.step acted (fun _ _ => trivial) (fun _ _ => trivial) taken
  intro record keeps
  have here : record.Joined := by
    rcases keeps with ⟨userId, found⟩ | ⟨number, cached⟩
    · exact recorded.stored userId record found
    · obtain ⟨_, _, holds⟩ := recorded.cached number trivial record cached
      exact holds
  exact ⟨here, fun user decoded => MUser.fullName_of_joined here decoded⟩

/-- A new account signs in and finishes its registration while a second login downloads its record. -/
def renamedAccount : List Event :=
  firstLogin "a" "a@mail" ++
    [.gesture 0 (.login "a@mail"), .serve 0 (.account "a" true), .callback 0 "n", .serve 0 .success,
      .gesture 0 (.finishOnboarding "Ann" "Lee" "Here"), .serve 1 .success, .callback 1 "n", .callback 0 "n"]

/-- The record that the late download saves joins its own names. -/
theorem full_name_joined_renamed :
    ∃ final, newDevice.run renamedAccount = some final ∧
      ∀ record, final.Keeps record → record.Joined ∧
        ∀ user, MUser.ofDictionary record = some user →
          record.read Value.asString .fullName = some user.fullName := by
  have quiet : newDevice.Quiet := rfl
  have joined : ∀ record, newDevice.Keeps record → record.Joined := by
    rintro record (⟨userId, found⟩ | ⟨number, cached⟩)
    · cases found
    · cases cached
  have offered : ∀ event ∈ renamedAccount, event.Listed Gesture.offered := by decide
  exact ⟨_, rfl, full_name_joined quiet joined offered rfl⟩

end ShoppingApp
