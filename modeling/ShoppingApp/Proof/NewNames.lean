import ShoppingApp.Library.Pool
import ShoppingApp.Proof.Inversion

namespace ShoppingApp

/-- A waiting creation has chosen the name of its basket. -/
def Flight.newName (flight : Flight) : Option String :=
  match flight.reply with
  | none => flight.request.newBasketName
  | some _ => none

/-- A gesture creates no basket. -/
theorem Gesture.newBasketName_of_mem {gesture : Gesture} {device : Device} {request : Request}
    (member : request ∈ (gesture.handle device).issued) : request.newBasketName = none := by
  cases Gesture.issues_of_mem member <;> rfl

/-- A completion creates at most one basket, and it uses the new identifier. -/
theorem Request.complete_newBasketName (uuid : String) (request : Request) (reply : Reply) (device : Device) :
    (request.complete uuid reply device).issued.filterMap newBasketName = [] ∨
      (request.complete uuid reply device).issued.filterMap newBasketName = [uuid] := by
  by_cases adds : ∃ ownerId item, request = .getBaskets ownerId (.addToBasket item)
  · obtain ⟨ownerId, item, rfl⟩ := adds
    cases signedIn : device.auth with
    | none =>
        left
        apply List.filterMap_eq_nil_iff.mpr
        intro issued member
        cases follows_of_mem member with
        | createBasket absent other hasId =>
            rw [signedIn] at other
            cases other
        | appendItem found hasName hasItems hasId => rfl
    | some uid =>
        rw [complete]
        rcases Device.addToBasketCompletion_eq signedIn item uuid reply.basket with
          silent | ⟨itemId, _, _, created⟩ | ⟨itemId, found, name, itemIds, _, _, _, _, appended⟩
        · rw [silent]
          exact .inl rfl
        · rw [created]
          exact .inr rfl
        · rw [appended]
          exact .inl rfl
  · left
    apply List.filterMap_eq_nil_iff.mpr
    intro issued member
    cases follows_of_mem member with
    | createBasket absent signedIn hasId => exact absurd ⟨_, _, rfl⟩ adds
    | appendItem found hasName hasItems hasId => exact absurd ⟨_, _, rfl⟩ adds
    | _ => rfl

namespace World

def newNames (world : World) : List String := world.flights.filterMap Flight.newName

/-- The names of the waiting creations are free on the server and different. -/
structure NamesFree (world : World) : Prop where
  absent : ∀ name ∈ world.newNames, world.store.data .basket name = none
  distinct : world.newNames.Nodup

variable {world next : World}

theorem newNames_perform (world : World) (number : Nat) (outcome : Outcome) :
    (world.perform number outcome).newNames =
      world.newNames ++ outcome.issued.filterMap Request.newBasketName := by
  unfold newNames perform
  rw [List.filterMap_append, List.filterMap_map]
  rfl

/-- An answered request leaves the names that wait for other requests. -/
theorem newNames_record {index number : Nat} {request : Request} (reply : Reply)
    (found : world.flights[index]? = some ⟨number, request, none⟩) :
    world.newNames.Perm (request.newBasketName.toList ++ (world.record index number request reply).newNames) := by
  have before := Pool.filterMap_perm Flight.newName found
  have after := Pool.filterMap_set_perm Flight.newName found ⟨number, request, some reply⟩
  exact before.trans (after.symm.append_left _)

theorem Quiet.namesFree (quiet : world.Quiet) : world.NamesFree := by
  have empty : world.flights = [] := quiet
  refine ⟨?_, ?_⟩ <;> simp [newNames, empty]

namespace NamesFree

/-- A handler that creates no basket keeps the names. -/
theorem perform (free : world.NamesFree) {number : Nat} {outcome : Outcome}
    (silent : outcome.issued.filterMap Request.newBasketName = []) : (world.perform number outcome).NamesFree := by
  have names : (world.perform number outcome).newNames = world.newNames := by
    rw [newNames_perform, silent, List.append_nil]
  exact ⟨names ▸ free.absent, names ▸ free.distinct⟩

/-- A fresh name joins the names. -/
theorem create (free : world.NamesFree) {number : Nat} {outcome : Outcome} {uuid : String}
    (fresh : world.Fresh uuid) (created : outcome.issued.filterMap Request.newBasketName = [uuid]) :
    (world.perform number outcome).NamesFree := by
  have names : (world.perform number outcome).newNames = world.newNames ++ [uuid] := by
    rw [newNames_perform, created]
  have unused : uuid ∉ world.newNames := by
    intro member
    obtain ⟨flight, present, named⟩ := List.mem_filterMap.mp member
    apply fresh.2 flight present
    unfold Flight.newName at named
    split at named
    · exact named
    · cases named
  refine ⟨?_, ?_⟩
  · intro name member
    rw [names] at member
    rcases List.mem_append.mp member with old | new
    · exact free.absent name old
    · exact List.mem_singleton.mp new ▸ fresh.1
  · rw [names]
    apply List.nodup_append.mpr
    refine ⟨free.distinct, List.nodup_singleton uuid, ?_⟩
    intro old member new inNew same
    exact unused (List.mem_singleton.mp inNew ▸ same ▸ member)

/-- A waiting creation has a free name. -/
theorem free (free : world.NamesFree) {index number : Nat} {name : String} {data : Dictionary}
    (found : world.flights[index]? = some ⟨number, .setBasket name data, none⟩) :
    world.store.data .basket name = none :=
  free.absent name (List.mem_filterMap.mpr ⟨_, List.mem_of_getElem? found, rfl⟩)

/-- The server keeps the other names free. -/
theorem answer (free : world.NamesFree) {index number : Nat} {request : Request} (reply : Reply)
    (found : world.flights[index]? = some ⟨number, request, none⟩) :
    (record { world with store := (world.store.answer request).1 } index number request reply).NamesFree := by
  have perm := newNames_record reply found
  have distinct := List.nodup_append.mp (perm.nodup_iff.mp free.distinct)
  refine ⟨fun name member => ?_, distinct.2.1⟩
  have before := free.absent name (perm.mem_iff.mpr (List.mem_append_right _ member))
  refine Store.answer_basket_eq_none.mpr ⟨before, ?_⟩
  rintro data rfl
  exact distinct.2.2 name (List.mem_singleton.mpr rfl) name member rfl

/-- A failed request or an authentication leaves the documents. -/
theorem record (free : world.NamesFree) {index number : Nat} {request : Request} (reply : Reply)
    (found : world.flights[index]? = some ⟨number, request, none⟩) :
    (world.record index number request reply).NamesFree := by
  have perm := newNames_record reply found
  refine ⟨fun name member => ?_, (List.nodup_append.mp (perm.nodup_iff.mp free.distinct)).2.1⟩
  exact free.absent name (perm.mem_iff.mpr (List.mem_append_right _ member))

/-- An answered request waits with no name. -/
theorem erase (free : world.NamesFree) {index number : Nat} {request : Request} {reply : Reply}
    (found : world.flights[index]? = some ⟨number, request, some reply⟩) :
    NamesFree { world with flights := world.flights.eraseIdx index } := by
  have names : newNames { world with flights := world.flights.eraseIdx index } = world.newNames :=
    Pool.filterMap_eraseIdx_silent _ found rfl
  exact ⟨names ▸ free.absent, names ▸ free.distinct⟩

/-- Every step keeps the names free. -/
theorem step (free : world.NamesFree) {event : Event} (taken : world.step event = some next) :
    next.NamesFree := by
  cases event with
  | gesture device made =>
      obtain ⟨_, rfl⟩ := step_gesture.mp taken
      exact free.perform (List.filterMap_eq_nil_iff.mpr fun request member => Gesture.newBasketName_of_mem member)
  | serve index answer =>
      obtain ⟨device, request, found, served⟩ := step_serve.mp taken
      rcases serve_cases served with ⟨_, rfl⟩ | ⟨_, _, rfl⟩ | ⟨uid, isEmailVerified, _, _, rfl⟩
      · exact free.record .error found
      · exact free.answer _ found
      · obtain ⟨absent, distinct⟩ := free.record (.account uid isEmailVerified) found
        exact ⟨absent, distinct⟩
  | callback index uuid =>
      obtain ⟨device, request, reply, found, fresh, rfl⟩ := step_callback.mp taken
      have keeps := free.erase found
      have stillFresh : Fresh { world with flights := world.flights.eraseIdx index } uuid :=
        ⟨fresh.1, Pool.forall_eraseIdx fresh.2⟩
      unfold World.callback
      cases stopped : (world.devices device).trapped with
      | true =>
          rw [if_pos rfl]
          exact keeps.perform rfl
      | false =>
          rw [if_neg Bool.false_ne_true]
          rcases request.complete_newBasketName uuid reply (world.devices device) with silent | created
          · exact keeps.perform silent
          · exact keeps.create stillFresh created

end NamesFree

end World

end ShoppingApp
