import ShoppingApp.Proof.UploadEntries

namespace ShoppingApp

/-- A saved item has a document and a search record. -/
inductive Saved where
  | document
  | record

/-- The identifier under which the request saves an item. -/
def PublishRequest.saved : Saved → PublishRequest → Option String
  | .document, .setItem _ name _ => some name
  | .record, .addObject _ _ withID => some withID
  | _, _ => none

/-- The Done button starts a publication, or a service answers a request. -/
inductive FormEntry where
  | tapped (publication : Nat) (connected : Bool)
  | answered (request : PublishRequest) (succeeds : Bool)

namespace FormEntry

def tap : FormEntry → Option Bool
  | .tapped _ connected => some connected
  | .answered _ _ => none

/-- The outcome of a request that saves an item. -/
def outcome (saved : Saved) : FormEntry → Option Bool
  | .tapped _ _ => none
  | .answered request succeeds => (request.saved saved).map fun _ => succeeds

end FormEntry

/-- Every image can be encoded. -/
def Encodable (images : List (Option UIImage)) : Prop := ∀ image ∈ images, (image.bind UIImage.jpegData).isSome = true

/-- The image of the flight will be counted unless its next request fails. -/
def PublishFlight.live (number : Nat) (flight : PublishFlight) : Option StoragePath :=
  match flight.request, flight.reply with
  | request, none => request.upload number
  | .putData publication fileName imageData, some .done =>
      PublishRequest.upload number (.putData publication fileName imageData)
  | .downloadURL publication fileName, some (.url _) => PublishRequest.upload number (.downloadURL publication fileName)
  | _, some _ => none

/-- The item will be saved by a request without an answer. -/
def PublishFlight.pending (saved : Saved) (flight : PublishFlight) : Option String :=
  match flight.reply with
  | none => flight.request.saved saved
  | some _ => none

/-- The images of the publication are counted unless it is offline, an image cannot be encoded, or an upload fails. -/
def Sound (images : List (Option UIImage)) (past : List FormEntry) (number : Nat) : Prop :=
  (images = [] ∨ .tapped number true ∈ past ∧ Encodable images) ∧
    ∀ request, .answered request false ∈ past → request.upload number = none

/-- All images of the publication are counted. -/
def Publication.finished (publication : Publication) : Bool :=
  decide (publication.uploadedImageCount = publication.images.length)

/-- The Done button of the form is tapped, or a request goes on. -/
def MarketEvent.OnForm (own : Nat) : MarketEvent → Prop
  | .doneButtonWasTapped screen _ _ => screen = own
  | .serve _ _ | .callback _ _ => True
  | _ => False

/-- The event taps a Done button with a connection or without one. -/
def MarketEvent.tap : MarketEvent → Option Bool
  | .doneButtonWasTapped _ connected _ => some connected
  | _ => none

namespace Market

/-- This event is a tap on the Done button or the answer of a service. -/
def formEntries (market : Market) : MarketEvent → List FormEntry
  | .doneButtonWasTapped _ connected _ => [.tapped market.publications.length connected]
  | .serve index succeeds =>
      match market.flights[index]? with
      | some ⟨request, none⟩ => [.answered request succeeds]
      | _ => []
  | _ => []

/-- The number of images of the publication that will be counted unless a request fails. -/
def live (market : Market) (number : Nat) : Nat :=
  (market.flights.filterMap (PublishFlight.live number)).length

/-- The number of publications behind the first ones whose images are all counted. -/
def finished (market : Market) (size : Nat) : Nat := (market.publications.drop size).countP Publication.finished

/-- The publications behind the first `size` ones come from one form, and `current` is that form with its indicator. -/
structure Form (own size : Nat) (screen : AddItemScreen) (past : List FormEntry) (market : Market)
    (current : AddItemScreen) : Prop where
  shown : market.screens[own]? = some current
  filled : current = { screen with loading := current.loading, popped := current.popped }
  taps : (past.filterMap FormEntry.tap).length + size = market.publications.length
  tapped : ∀ number, size ≤ number → number < market.publications.length → ∃ connected, .tapped number connected ∈ past
  known : ∀ number connected, .tapped number connected ∈ past → number < market.publications.length
  flights : ∀ flight ∈ market.flights, ∃ number, flight.request.publication = some number ∧ size ≤ number ∧
    number < market.publications.length
  answered : ∀ request succeeds, .answered request succeeds ∈ past → ∃ number, request.publication = some number ∧
    size ≤ number ∧ number < market.publications.length
  started : ∀ number publication, size ≤ number → market.publications[number]? = some publication →
    publication.screen = own ∧ publication.images = screen.itemImages ∧
    publication.uploadedImageCount + market.live number ≤ screen.itemImages.length ∧
    (publication.uploadedImageCount + market.live number = screen.itemImages.length ↔
      Sound screen.itemImages past number)
  popped : current.popped = market.finished size
  loading : size < market.publications.length → (current.loading = true ↔ current.popped = 0)
  saved : ∀ saved, (past.filterMap (FormEntry.outcome saved)).length +
    (market.flights.filterMap (PublishFlight.pending saved)).length = market.finished size
  running : (market.shop.devices screen.device).trapped = true → ¬ Encodable screen.itemImages

end Market

/-- The loop stores every image exactly if every image can be encoded, and otherwise it traps. -/
theorem uploadImages_encodable (number : Nat) (itemId : String) (nameSuffix : Nat) (images : List (Option UIImage)) :
    ((uploadImages number itemId nameSuffix images).2 = true ↔ ¬ Encodable images) ∧
      ((uploadImages number itemId nameSuffix images).1.length = images.length ↔ Encodable images) := by
  induction images generalizing nameSuffix with
  | nil =>
      have all : Encodable [] := fun image member => absurd member List.not_mem_nil
      simp [uploadImages, all]
  | cons image rest ih =>
      unfold uploadImages
      have split : Encodable (image :: rest) ↔ (image.bind UIImage.jpegData).isSome = true ∧ Encodable rest :=
        List.forall_mem_cons
      rw [split]
      cases image.bind UIImage.jpegData with
      | none => simp
      | some imageData =>
          obtain ⟨traps, stores⟩ := ih (nameSuffix + 1)
          simp [traps, stores]

theorem Sound.encodable {images : List (Option UIImage)} {past : List FormEntry} {number : Nat}
    (sound : Sound images past number) : Encodable images := by
  rcases sound.1 with rfl | ⟨_, encodable⟩
  · exact fun image member => absurd member List.not_mem_nil
  · exact encodable

/-- A failed upload of the publication is the only answer that stops it. -/
theorem sound_answered {images : List (Option UIImage)} {past : List FormEntry} {number : Nat}
    {request : PublishRequest} {succeeds : Bool} :
    Sound images (past ++ [.answered request succeeds]) number ↔
      Sound images past number ∧ (succeeds = true ∨ request.upload number = none) := by
  have tapped : FormEntry.tapped number true ∈ past ++ [.answered request succeeds] ↔ .tapped number true ∈ past := by
    rw [List.mem_append, List.mem_singleton]
    exact or_iff_left fun same => by cases same
  unfold Sound
  rw [tapped, and_assoc]
  refine and_congr_right fun _ => ⟨fun succeeded => ?_, fun ⟨succeeded, kept⟩ other failed => ?_⟩
  · refine ⟨fun other failed => succeeded other (List.mem_append_left _ failed), ?_⟩
    cases succeeds with
    | true => exact .inl rfl
    | false => exact .inr (succeeded request (List.mem_append_right _ List.mem_cons_self))
  · rcases List.mem_append.mp failed with old | new
    · exact succeeded other old
    · obtain ⟨rfl, rfl⟩ := FormEntry.answered.inj (List.mem_singleton.mp new)
      exact kept.resolve_left Bool.false_ne_true

/-- The tap for another publication does not help. -/
theorem sound_tapped {images : List (Option UIImage)} {past : List FormEntry} {number other : Nat} {connected : Bool}
    (different : number ≠ other) :
    Sound images (past ++ [.tapped other connected]) number ↔ Sound images past number := by
  have same {entry : FormEntry} (old : entry ≠ .tapped other connected) :
      entry ∈ past ++ [.tapped other connected] ↔ entry ∈ past := by
    rw [List.mem_append, List.mem_singleton]
    exact or_iff_left old
  unfold Sound
  rw [same fun equal => different (FormEntry.tapped.inj equal).1]
  have kept (request : PublishRequest) :
      .answered request false ∈ past ++ [.tapped other connected] ↔ .answered request false ∈ past :=
    same fun equal => by cases equal
  simp only [kept]

/-- A request of another publication uploads no image of this one. -/
theorem PublishRequest.upload_other {request : PublishRequest} {owner number : Nat}
    (owned : request.publication = some owner) (different : owner ≠ number) : request.upload number = none := by
  cases request with
  | putData publication fileName imageData =>
      exact if_neg fun same => different ((Option.some.inj owned).symm.trans same)
  | downloadURL publication fileName =>
      exact if_neg fun same => different ((Option.some.inj owned).symm.trans same)
  | setItem publication name data => rfl
  | addObject publication object withID => rfl
  | setCategory name data => rfl

/-- A flight of another publication carries no image of this one. -/
theorem PublishFlight.live_other {flight : PublishFlight} {owner number : Nat}
    (owned : flight.request.publication = some owner) (different : owner ≠ number) : flight.live number = none := by
  have none := PublishRequest.upload_other owned different
  unfold live
  split
  · exact none
  · rename_i same _
    rw [← same]
    exact none
  · rename_i same _
    rw [← same]
    exact none
  · rfl

/-- The requests of `uploadImages` carry one image each and save no item. -/
theorem uploadImages_requests (number : Nat) (itemId : String) (images : List (Option UIImage)) :
    ((uploadImages number itemId 0 images).1.filterMap (PublishRequest.upload number)).length =
        (uploadImages number itemId 0 images).1.length ∧
      (∀ saved, (uploadImages number itemId 0 images).1.filterMap (PublishRequest.saved saved) = []) ∧
      ∀ request ∈ (uploadImages number itemId 0 images).1, request.publication = some number := by
  have stores := (uploadImages_stores number itemId 0 images).2
  refine ⟨List.filterMap_length_eq_length.mpr fun request issued => ?_,
    fun saved => List.filterMap_eq_nil_iff.mpr fun request issued => ?_, fun request issued => ?_⟩
  · obtain ⟨suffix, imageData, rfl⟩ := stores request issued
    exact Option.isSome_of_eq_some (if_pos rfl)
  · obtain ⟨suffix, imageData, rfl⟩ := stores request issued
    cases saved <;> rfl
  · obtain ⟨suffix, imageData, rfl⟩ := stores request issued
    rfl

/-- The Done tap saves an item without images at once, and it puts every image on its way when it can. -/
theorem AddItemScreen.saveToFireStore_form {double : String → Option Double} {connected : Bool}
    {uuids : String × String} {own number : Nat} {screen : AddItemScreen} {outcome : PublishOutcome}
    (handled : screen.saveToFireStore double connected uuids own number = outcome) :
    (∀ request ∈ outcome.issued, request.publication = some number) ∧
      (outcome.trapped = true → ¬ Encodable screen.itemImages) ∧
      (outcome.issued.filterMap (PublishRequest.upload number)).length ≤ screen.itemImages.length ∧
      ((outcome.issued.filterMap (PublishRequest.upload number)).length = screen.itemImages.length ↔
        screen.itemImages = [] ∨ connected = true ∧ Encodable screen.itemImages) ∧
      (screen.itemImages = [] ∧ outcome.screen = { screen with loading := false, popped := screen.popped + 1 } ∧
          (∀ saved, (outcome.issued.filterMap (PublishRequest.saved saved)).length = 1) ∨
        screen.itemImages ≠ [] ∧ outcome.screen = { screen with loading := true } ∧
          ∀ saved, (outcome.issued.filterMap (PublishRequest.saved saved)).length = 0) := by
  rw [← handled]
  by_cases some : 0 < screen.itemImages.length
  · have filled := List.ne_nil_of_length_pos some
    obtain ⟨traps, all⟩ := uploadImages_encodable number uuids.1 0 screen.itemImages
    obtain ⟨length, silent, owned⟩ := uploadImages_requests number uuids.1 screen.itemImages
    have fewer := (uploadImages_stores number uuids.1 0 screen.itemImages).1
    unfold saveToFireStore
    dsimp only
    rw [if_pos some]
    cases connected with
    | true =>
        refine ⟨owned, traps.mp, ?_, ?_, .inr ⟨filled, rfl, fun saved => ?_⟩⟩
        · exact length.trans_le fewer
        · rw [or_iff_right filled, and_iff_right rfl, ← all]
          exact length ▸ Iff.rfl
        · exact List.length_eq_zero_iff.mpr (silent saved)
    | false =>
        refine ⟨fun request member => absurd member List.not_mem_nil, fun trapped => Bool.noConfusion trapped,
          Nat.zero_le _, ?_, .inr ⟨filled, rfl, fun _ => rfl⟩⟩
        rw [or_iff_right filled]
        exact ⟨fun same => absurd same some.ne, fun sent => Bool.noConfusion sent.1⟩
  · have none : screen.itemImages = [] := List.length_eq_zero_iff.mp (Nat.eq_zero_of_not_pos some)
    unfold saveToFireStore
    dsimp only
    rw [if_neg some]
    refine ⟨fun request member => ?_, fun trapped => Bool.noConfusion trapped, Nat.zero_le _, ?_,
      .inl ⟨none, rfl, fun saved => by cases saved <;> rfl⟩⟩
    · rcases List.mem_pair.mp member with rfl | rfl
      · rfl
      · rfl
    · rw [none]
      exact ⟨fun _ => .inl rfl, fun _ => rfl⟩

/-- A counted link leaves the screen alone, or it is the last one and ends the publication. -/
theorem Publication.imageSaved_form {number : Nat} {uuid imageLink : String} {screen : AddItemScreen}
    {publication : Publication} {outcome : PublishOutcome}
    (handled : publication.imageSaved number uuid (some imageLink) screen = outcome) :
    outcome.trapped = false ∧ outcome.publication.screen = publication.screen ∧
      outcome.publication.images = publication.images ∧
      outcome.publication.uploadedImageCount = publication.uploadedImageCount + 1 ∧
      ((publication.uploadedImageCount + 1 ≠ publication.images.length ∧ outcome.screen = screen ∧
          outcome.issued = []) ∨
        (publication.uploadedImageCount + 1 = publication.images.length ∧
          outcome.screen = { screen with loading := false, popped := screen.popped + 1 } ∧
          ∃ data, outcome.issued = [.setItem number uuid data, .addObject number data uuid])) := by
  rw [← handled]
  unfold imageSaved
  dsimp only
  split
  · rename_i last
    exact ⟨rfl, rfl, rfl, rfl, .inr ⟨last, rfl, _, rfl⟩⟩
  · rename_i more
    exact ⟨rfl, rfl, rfl, rfl, .inl ⟨more, rfl, rfl⟩⟩

namespace Market

variable {market next : Market} {own size : Nat} {screen current : AddItemScreen} {past : List FormEntry}

/-- A finished publication raises the number of the finished ones. -/
theorem finished_set {number : Nat} {old new : Publication} (behind : size ≤ number)
    (present : market.publications[number]? = some old) (unfinished : old.finished = false)
    (publications : next.publications = market.publications.set number new) :
    next.finished size = market.finished size + if new.finished then 1 else 0 := by
  have inside : number - size < (market.publications.drop size).length := by
    have bound := (List.getElem?_eq_some_iff.mp present).1
    rw [List.length_drop]
    omega
  have found : (market.publications.drop size)[number - size] = old := by
    have same := (List.getElem?_eq_some_iff.mp present).2
    rw [List.getElem_drop]
    simpa [Nat.add_sub_cancel' behind] using same
  unfold finished
  rw [publications, List.drop_set, if_neg (Nat.not_lt.mpr behind), List.countP_set inside, found, unfinished]
  simp

/-- The images on their way are that of one flight and those of the others. -/
theorem live_split {index : Nat} {flight : PublishFlight} (found : market.flights[index]? = some flight)
    (number : Nat) : market.live number = (flight.live number).toList.length +
      ((market.flights.eraseIdx index).filterMap (PublishFlight.live number)).length := by
  rw [live, (Pool.filterMap_perm (PublishFlight.live number) found).length_eq, List.length_append]

/-- The image of a link that has come is on its way. -/
theorem live_linked {index owner : Nat} {fileName : StoragePath} {imageLink : String}
    (found : market.flights[index]? = some ⟨.downloadURL owner fileName, some (.url imageLink)⟩) (number : Nat) :
    market.live number = (if owner = number then 1 else 0) +
      ((market.flights.eraseIdx index).filterMap (PublishFlight.live number)).length := by
  have shown : PublishFlight.live number ⟨.downloadURL owner fileName, some (.url imageLink)⟩ =
      if owner = number then some fileName else none := rfl
  rw [live_split found, shown]
  split <;> rfl

/-- A handler that changes nothing and issues nothing leaves the market as it is. -/
theorem perform_nothing {number : Nat} {publication : Publication} {screen : AddItemScreen}
    (present : market.publications[number]? = some publication)
    (shown : market.screens[publication.screen]? = some screen) :
    market.perform number ⟨screen, publication, [], false⟩ = market := by
  obtain ⟨inside, rfl⟩ := List.getElem?_eq_some_iff.mp present
  obtain ⟨visible, rfl⟩ := List.getElem?_eq_some_iff.mp shown
  simp [perform]

/-- A handler puts the images and the saved items of its requests on their way. -/
theorem perform_counts (market : Market) (number : Nat) (outcome : PublishOutcome) :
    (∀ other, (market.perform number outcome).live other =
      market.live other + (outcome.issued.filterMap (PublishRequest.upload other)).length) ∧
    ∀ saved, ((market.perform number outcome).flights.filterMap (PublishFlight.pending saved)).length =
      (market.flights.filterMap (PublishFlight.pending saved)).length +
        (outcome.issued.filterMap (PublishRequest.saved saved)).length := by
  constructor
  · intro other
    rw [live, perform, List.filterMap_append, List.length_append, List.filterMap_map]
    rfl
  · intro saved
    rw [perform, List.filterMap_append, List.length_append, List.filterMap_map]
    rfl

namespace Form

/-- A publication of the form that still has an image on its way is not finished. -/
theorem unfinished (form : market.Form own size screen past current) {number : Nat} {publication : Publication}
    (behind : size ≤ number) (present : market.publications[number]? = some publication)
    (alive : 0 < market.live number) : publication.finished = false := by
  obtain ⟨_, images, bounded, _⟩ := form.started number publication behind present
  refine decide_eq_false ?_
  rw [images]
  omega

/-- A step that keeps the publications and the images on their way keeps the form. -/
theorem keep (form : market.Form own size screen past current) (publications : next.publications = market.publications)
    (screens : next.screens = market.screens) (devices : next.shop.devices = market.shop.devices)
    (flights : ∀ flight ∈ next.flights, ∃ old ∈ market.flights, flight.request.publication = old.request.publication)
    (fewer : ∀ number, next.live number ≤ market.live number)
    (alive : Encodable screen.itemImages → ∀ number, next.live number = market.live number)
    (pending : ∀ saved, (next.flights.filterMap (PublishFlight.pending saved)).length =
      (market.flights.filterMap (PublishFlight.pending saved)).length) :
    next.Form own size screen past current := by
  refine ⟨screens ▸ form.shown, form.filled, publications ▸ form.taps, publications ▸ form.tapped,
    publications ▸ form.known, fun flight member => ?_, publications ▸ form.answered,
    fun number publication behind present => ?_, ?_, publications ▸ form.loading, fun saved => ?_,
    devices ▸ form.running⟩
  · obtain ⟨old, inside, same⟩ := flights flight member
    rw [same, publications]
    exact form.flights old inside
  · rw [publications] at present
    obtain ⟨ownScreen, images, bounded, all⟩ := form.started number publication behind present
    refine ⟨ownScreen, images, (Nat.add_le_add_left (fewer number) _).trans bounded, ?_⟩
    by_cases encodable : Encodable screen.itemImages
    · rw [alive encodable number, all]
    · -- A form that cannot be encoded stays below its number of images.
      have below : ¬ publication.uploadedImageCount + market.live number = screen.itemImages.length :=
        fun same => encodable (all.mp same).encodable
      have lower := fewer number
      exact ⟨fun same => by omega, fun sound => absurd sound.encodable encodable⟩
  · rw [form.popped, finished, finished, publications]
  · rw [pending saved, form.saved saved, finished, finished, publications]

/-- An answer leaves an image on its way unless it is the failure of its upload. -/
theorem served_live (form : market.Form own size screen past current) {index number : Nat} {request : PublishRequest}
    {reply : PublishReply} {succeeds : Bool} {publication : Publication}
    (found : market.flights[index]? = some ⟨request, none⟩)
    (flights : next.flights = market.flights.set index ⟨request, some reply⟩)
    (alive : PublishFlight.live number ⟨request, some reply⟩ = if succeeds then request.upload number else none)
    (behind : size ≤ number) (present : market.publications[number]? = some publication) :
    publication.uploadedImageCount + next.live number ≤ screen.itemImages.length ∧
      (publication.uploadedImageCount + next.live number = screen.itemImages.length ↔
        Sound screen.itemImages (past ++ [.answered request succeeds]) number) := by
  obtain ⟨_, _, bounded, all⟩ := form.started number publication behind present
  have before := live_split found number
  change _ = (request.upload number).toList.length + _ at before
  have after : next.live number = (if succeeds then request.upload number else none).toList.length +
      ((market.flights.eraseIdx index).filterMap (PublishFlight.live number)).length := by
    rw [live, flights, (Pool.filterMap_set_perm (PublishFlight.live number) found _).length_eq, List.length_append,
      alive]
  rw [sound_answered, ← all]
  cases succeeds with
  | true =>
      rw [if_pos rfl, ← before] at after
      rw [after]
      exact ⟨bounded, (and_iff_left (.inl rfl)).symm⟩
  | false =>
      rw [if_neg Bool.false_ne_true, Option.toList_none, List.length_nil, Nat.zero_add] at after
      cases upload : request.upload number with
      | none =>
          rw [upload, Option.toList_none, List.length_nil, Nat.zero_add, ← after] at before
          rw [← before]
          exact ⟨bounded, (and_iff_left (.inr rfl)).symm⟩
      | some fileName =>
          -- The failed upload will never be counted.
          rw [upload, Option.toList_some, List.length_singleton, ← after] at before
          refine ⟨by omega, fun same => by omega, ?_⟩
          rintro ⟨_, impossible | impossible⟩
          · cases impossible
          · cases impossible

/-- An answer for an item takes the place of its request. -/
theorem served_saved (form : market.Form own size screen past current) {index : Nat} {request : PublishRequest}
    {reply : PublishReply} {succeeds : Bool} (found : market.flights[index]? = some ⟨request, none⟩)
    (flights : next.flights = market.flights.set index ⟨request, some reply⟩) (saved : Saved) :
    ((past ++ [FormEntry.answered request succeeds]).filterMap (FormEntry.outcome saved)).length +
      (next.flights.filterMap (PublishFlight.pending saved)).length = market.finished size := by
  have before := (Pool.filterMap_perm (PublishFlight.pending saved) found).length_eq
  have after := (Pool.filterMap_set_perm (PublishFlight.pending saved) found ⟨request, some reply⟩).length_eq
  have waiting : PublishFlight.pending saved ⟨request, none⟩ = request.saved saved := rfl
  have done : PublishFlight.pending saved ⟨request, some reply⟩ = none := rfl
  have told : FormEntry.outcome saved (.answered request succeeds) = (request.saved saved).map fun _ => succeeds := rfl
  rw [waiting, List.length_append] at before
  rw [done, Option.toList_none, List.nil_append] at after
  rw [flights, List.filterMap_append, List.length_append, after, ← form.saved saved, before, List.filterMap_cons, told]
  cases request.saved saved with
  | none => simp
  | some name => simp [Nat.add_assoc]

/-- An answer keeps the form, and a failed upload stops its publication. -/
theorem serve (form : market.Form own size screen past current) {index : Nat} {request : PublishRequest}
    {reply : PublishReply} {succeeds : Bool} (found : market.flights[index]? = some ⟨request, none⟩)
    (publications : next.publications = market.publications) (screens : next.screens = market.screens)
    (devices : next.shop.devices = market.shop.devices)
    (flights : next.flights = market.flights.set index ⟨request, some reply⟩)
    (alive : ∀ number, PublishFlight.live number ⟨request, some reply⟩ =
      if succeeds then request.upload number else none) :
    next.Form own size screen (past ++ [.answered request succeeds]) current := by
  have owned := form.flights _ (List.mem_of_getElem? found)
  refine ⟨screens ▸ form.shown, form.filled, ?_, fun number behind inside => ?_, fun number connected member => ?_, ?_,
    fun other outcome member => ?_, fun number publication behind present => ?_, ?_, publications ▸ form.loading,
    fun saved => ?_, devices ▸ form.running⟩
  · rw [publications, List.filterMap_append, ← form.taps]
    simp [FormEntry.tap]
  · obtain ⟨connected, tapped⟩ := form.tapped number behind (publications ▸ inside)
    exact ⟨connected, List.mem_append_left _ tapped⟩
  · rw [publications]
    refine form.known number connected ((List.mem_append.mp member).resolve_right fun new => ?_)
    cases List.mem_singleton.mp new
  · rw [flights, publications]
    exact Pool.forall_set form.flights owned
  · rw [publications]
    rcases List.mem_append.mp member with old | new
    · exact form.answered other outcome old
    · obtain ⟨rfl, rfl⟩ := FormEntry.answered.inj (List.mem_singleton.mp new)
      exact owned
  · rw [publications] at present
    obtain ⟨ownScreen, images, _⟩ := form.started number publication behind present
    exact ⟨ownScreen, images, form.served_live found flights (alive number) behind present⟩
  · rw [form.popped, finished, finished, publications]
  · rw [finished, publications]
    exact form.served_saved found flights saved

/-- A callback that counts no image keeps the form, and so does any callback of a stopped application. -/
theorem erase (form : market.Form own size screen past current) {index : Nat} {request : PublishRequest}
    {reply : PublishReply} (found : market.flights[index]? = some ⟨request, some reply⟩) (used : List String)
    (silent : Encodable screen.itemImages → ∀ number, PublishFlight.live number ⟨request, some reply⟩ = none) :
    Form own size screen past { market with flights := market.flights.eraseIdx index, used := used } current := by
  refine form.keep rfl rfl rfl (fun flight member => ⟨flight, List.mem_of_mem_eraseIdx member, rfl⟩)
    (fun number => ((List.eraseIdx_sublist market.flights index).filterMap _).length_le)
    (fun encodable number => congrArg List.length ?_) fun saved => congrArg List.length ?_
  · exact Pool.filterMap_eraseIdx_silent _ found (silent encodable number)
  · exact Pool.filterMap_eraseIdx_silent _ found rfl

/-- The request for the link takes the place of the stored image. -/
theorem ask (form : market.Form own size screen past current) {index number : Nat} {fileName : StoragePath}
    {imageData : ImageData} (used : List String)
    (found : market.flights[index]? = some ⟨.putData number fileName imageData, some .done⟩) :
    Form own size screen past { market with
      flights := market.flights.eraseIdx index ++ [⟨.downloadURL number fileName, none⟩], used := used } current := by
  have same (other : Nat) : ((market.flights.eraseIdx index ++
      [(⟨.downloadURL number fileName, none⟩ : PublishFlight)]).filterMap (PublishFlight.live other)).length =
        market.live other := by
    have stored : PublishFlight.live other ⟨.putData number fileName imageData, some .done⟩ =
        PublishFlight.live other ⟨.downloadURL number fileName, none⟩ := rfl
    rw [live_split found, List.filterMap_append, List.length_append, stored, Nat.add_comm]
    congr 1
  refine form.keep rfl rfl rfl (fun flight member => ?_) (fun other => (same other).le) (fun _ => same)
    fun saved => congrArg List.length ?_
  · rcases List.mem_append.mp member with old | new
    · exact ⟨flight, List.mem_of_mem_eraseIdx old, rfl⟩
    · rw [List.mem_singleton.mp new]
      exact ⟨_, List.mem_of_getElem? found, rfl⟩
  · rw [List.filterMap_append, Pool.filterMap_eraseIdx_silent _ found rfl]
    have none : PublishFlight.pending saved ⟨.downloadURL number fileName, none⟩ = none := by cases saved <;> rfl
    rw [List.filterMap_cons_none none, List.filterMap_nil, List.append_nil]

/-- A counted link takes its image from those on their way. -/
theorem counted (form : market.Form own size screen past current) {index number : Nat} {fileName : StoragePath}
    {imageLink : String} {publication changed : Publication}
    (found : market.flights[index]? = some ⟨.downloadURL number fileName, some (.url imageLink)⟩)
    (behind : size ≤ number) (present : market.publications[number]? = some publication)
    (sameScreen : changed.screen = publication.screen) (sameImages : changed.images = publication.images)
    (count : changed.uploadedImageCount = publication.uploadedImageCount + 1) {other : Nat} {after : Publication}
    (beyond : size ≤ other) (reached : (market.publications.set number changed)[other]? = some after) :
    after.screen = own ∧ after.images = screen.itemImages ∧
      after.uploadedImageCount + ((market.flights.eraseIdx index).filterMap (PublishFlight.live other)).length ≤
        screen.itemImages.length ∧
      (after.uploadedImageCount + ((market.flights.eraseIdx index).filterMap (PublishFlight.live other)).length =
        screen.itemImages.length ↔ Sound screen.itemImages past other) := by
  have inside := (List.getElem?_eq_some_iff.mp present).1
  have before := live_linked found other
  by_cases same : number = other
  · subst same
    obtain rfl := Option.some.inj ((List.getElem?_set_self inside).symm.trans reached)
    obtain ⟨ownScreen, images, bounded, all⟩ := form.started number publication behind present
    rw [before, if_pos rfl, ← Nat.add_assoc] at bounded all
    rw [count]
    exact ⟨sameScreen.trans ownScreen, sameImages.trans images, bounded, all⟩
  · have held := form.started other after beyond ((List.getElem?_set_ne same).symm.trans reached)
    rwa [before, if_neg same, Nat.zero_add] at held

/-- A link is counted, and the last one saves the item and leaves the screen. -/
theorem report (form : market.Form own size screen past current) {index number : Nat} {fileName : StoragePath}
    {imageLink uuid : String} {publication : Publication}
    (found : market.flights[index]? = some ⟨.downloadURL number fileName, some (.url imageLink)⟩)
    (behind : size ≤ number) (present : market.publications[number]? = some publication) :
    ∃ later, Form own size screen past (Market.perform
      { market with flights := market.flights.eraseIdx index, used := uuid :: market.used } number
        (publication.imageSaved number uuid (some imageLink) current)) later := by
  obtain ⟨ownScreen, _⟩ := form.started number publication behind present
  have unfinished := form.unfinished behind present (by rw [live_linked found, if_pos rfl]; omega)
  have inside := (List.getElem?_eq_some_iff.mp present).1
  generalize saved : publication.imageSaved number uuid (some imageLink) current = handled
  obtain ⟨running, sameScreen, sameImages, counted, outcome⟩ := Publication.imageSaved_form saved
  generalize erased : { market with flights := market.flights.eraseIdx index, used := uuid :: market.used } = waiting
  obtain ⟨live, pending⟩ := perform_counts waiting number handled
  have finished : (waiting.perform number handled).finished size =
      market.finished size + if handled.publication.finished then 1 else 0 :=
    finished_set behind present unfinished (by rw [← erased]; rfl)
  have finishes : handled.publication.finished = true ↔
      publication.uploadedImageCount + 1 = publication.images.length := by
    rw [Publication.finished, decide_eq_true_iff, counted, sameImages]
  have silent (other : Nat) : handled.issued.filterMap (PublishRequest.upload other) = [] := by
    rcases outcome with ⟨_, _, none⟩ | ⟨_, _, data, two⟩
    · rw [none, List.filterMap_nil]
    · rw [two]
      rfl
  have publications : (waiting.perform number handled).publications =
      market.publications.set number handled.publication := by rw [← erased]; rfl
  have length : (waiting.perform number handled).publications.length = market.publications.length := by
    rw [publications, List.length_set]
  have devices : (waiting.perform number handled).shop = market.shop := by rw [perform, running, ← erased]; rfl
  refine ⟨handled.screen, ?_, ?_, length ▸ form.taps, length ▸ form.tapped, length ▸ form.known, ?_,
    length ▸ form.answered, fun other after beyond reached => ?_, ?_, ?_, ?_, devices ▸ form.running⟩
  · have screens : (waiting.perform number handled).screens = market.screens.set own handled.screen := by
      rw [← ownScreen, ← sameScreen, ← erased]
      rfl
    rw [screens]
    exact List.getElem?_set_self (List.getElem?_eq_some_iff.mp form.shown).1
  · rcases outcome with ⟨_, kept, _⟩ | ⟨_, left, _⟩
    · rw [kept]
      exact form.filled
    · rw [left]
      exact congrArg (fun shown => { shown with loading := false, popped := current.popped + 1 }) form.filled
  · rw [length]
    refine Pool.forall_append (fun flight member => ?_) fun flight member => ?_
    · rw [← erased] at member
      exact form.flights flight (List.mem_of_mem_eraseIdx member)
    · obtain ⟨request, issued, rfl⟩ := List.mem_map.mp member
      rcases outcome with ⟨_, _, none⟩ | ⟨_, _, data, two⟩
      · rw [none] at issued
        cases issued
      · rw [two] at issued
        rcases List.mem_pair.mp issued with rfl | rfl
        · exact ⟨number, rfl, behind, inside⟩
        · exact ⟨number, rfl, behind, inside⟩
  · rw [live, silent, List.length_nil, Nat.add_zero]
    have rest : waiting.live other =
        ((market.flights.eraseIdx index).filterMap (PublishFlight.live other)).length := by rw [← erased]; rfl
    rw [rest]
    rw [publications] at reached
    exact form.counted found behind present sameScreen sameImages counted beyond reached
  · rw [finished, ← form.popped]
    rcases outcome with ⟨more, kept, _⟩ | ⟨last, left, _⟩
    · rw [kept, if_neg fun done => more (finishes.mp done)]
      rfl
    · rw [left, if_pos (finishes.mpr last)]
  · rw [length]
    intro some
    rcases outcome with ⟨_, kept, _⟩ | ⟨_, left, _⟩
    · rw [kept]
      exact form.loading some
    · rw [left]
      simp
  · intro saved
    have same : (waiting.flights.filterMap (PublishFlight.pending saved)).length =
        (market.flights.filterMap (PublishFlight.pending saved)).length := by
      rw [← erased]
      exact congrArg List.length (Pool.filterMap_eraseIdx_silent _ found rfl)
    rw [pending, same, finished, ← Nat.add_assoc, form.saved saved]
    congr 1
    rcases outcome with ⟨more, _, none⟩ | ⟨last, _, data, two⟩
    · rw [none, if_neg fun done => more (finishes.mp done)]
      rfl
    · rw [two, if_pos (finishes.mpr last)]
      cases saved <;> rfl

/-- A stopped request belongs to the form, so its application has trapped. -/
theorem trapped_of_stopped (form : market.Form own size screen past current) {flight : PublishFlight}
    (member : flight ∈ market.flights) (stopped : market.stopped flight.request = true) :
    (market.shop.devices screen.device).trapped = true := by
  obtain ⟨number, owner, behind, inside⟩ := form.flights flight member
  have present := List.getElem?_eq_getElem inside
  obtain ⟨ownScreen, _⟩ := form.started number _ behind present
  have device : current.device = screen.device := by rw [form.filled]
  simpa only [Market.stopped, owner, Option.bind_some, present, ownScreen, form.shown, Option.any_some, device]
    using stopped

/-- The report of a failure changes nothing. -/
theorem imageSaved_none (form : market.Form own size screen past current) {number : Nat} (uuid : String)
    (behind : size ≤ number) (inside : number < market.publications.length) :
    market.imageSaved uuid number none = market := by
  have present := List.getElem?_eq_getElem inside
  obtain ⟨ownScreen, _⟩ := form.started number _ behind present
  have shown := ownScreen ▸ form.shown
  exact (imageSaved_eq present shown).trans (perform_nothing present shown)

/-- A failed upload keeps the form. -/
theorem fail (form : market.Form own size screen past current) {index number : Nat} {request : PublishRequest}
    {reply : PublishReply} (uuid : String) (found : market.flights[index]? = some ⟨request, some reply⟩)
    (owner : request.publication = some number)
    (silent : ∀ number, PublishFlight.live number ⟨request, some reply⟩ = none) :
    Form own size screen past (Market.imageSaved uuid number none
      { market with flights := market.flights.eraseIdx index, used := uuid :: market.used }) current := by
  obtain ⟨other, same, behind, inside⟩ := form.flights _ (List.mem_of_getElem? found)
  obtain rfl := Option.some.inj (owner.symm.trans same)
  have erased := form.erase found (uuid :: market.used) fun _ => silent
  rw [erased.imageSaved_none uuid behind inside]
  exact erased

variable {double : String → Option Double} {link : StoragePath → String}

/-- A callback keeps the form. -/
theorem callback (form : market.Form own size screen past current) {index : Nat} {uuid : String}
    (taken : market.step double link (.callback index uuid) = some next) :
    ∃ later, next.Form own size screen past later := by
  obtain ⟨request, reply, found, _, ⟨stopped, rfl⟩ | ⟨running, rfl⟩⟩ := step_callback taken
  · have trapped := form.trapped_of_stopped (List.mem_of_getElem? found) stopped
    exact ⟨current, form.erase found _ fun encodable => absurd encodable (form.running trapped)⟩
  · cases request with
    | putData number fileName imageData =>
        cases reply with
        | done => exact ⟨current, form.ask _ found⟩
        | failed => exact ⟨current, form.fail uuid found rfl fun _ => rfl⟩
        | url absoluteString => exact ⟨current, form.fail uuid found rfl fun _ => rfl⟩
    | downloadURL number fileName =>
        cases reply with
        | url absoluteString =>
            obtain ⟨owner, same, behind, inside⟩ := form.flights _ (List.mem_of_getElem? found)
            obtain rfl : number = owner := Option.some.inj same
            have present := List.getElem?_eq_getElem inside
            obtain ⟨ownScreen, _⟩ := form.started number _ behind present
            have saved : Market.imageSaved uuid number (some absoluteString)
                { market with flights := market.flights.eraseIdx index, used := uuid :: market.used } =
                Market.perform { market with flights := market.flights.eraseIdx index, used := uuid :: market.used }
                  number (Publication.imageSaved number uuid (some absoluteString) current
                    market.publications[number]) := imageSaved_eq present (ownScreen ▸ form.shown)
            change ∃ later, Form own size screen past (Market.imageSaved uuid number (some absoluteString) _) later
            rw [saved]
            exact form.report found behind present
        | failed => exact ⟨current, form.fail uuid found rfl fun _ => rfl⟩
        | done => exact ⟨current, form.fail uuid found rfl fun _ => rfl⟩
    | setItem number name data => exact ⟨current, form.erase found _ fun _ _ => by cases reply <;> rfl⟩
    | addObject number object withID => exact ⟨current, form.erase found _ fun _ _ => by cases reply <;> rfl⟩
    | setCategory name data => exact ⟨current, form.erase found _ fun _ _ => by cases reply <;> rfl⟩

/-- No image of the next publication is on its way. -/
theorem live_new (form : market.Form own size screen past current) : market.live market.publications.length = 0 := by
  refine List.length_eq_zero_iff.mpr (List.filterMap_eq_nil_iff.mpr fun flight member => ?_)
  obtain ⟨owner, owned, _, inside⟩ := form.flights flight member
  exact PublishFlight.live_other owned inside.ne

/-- A new publication is sound when it can send its images. -/
theorem sound_new (form : market.Form own size screen past current) (connected : Bool)
    (images : List (Option UIImage)) :
    Sound images (past ++ [.tapped market.publications.length connected]) market.publications.length ↔
      images = [] ∨ connected = true ∧ Encodable images := by
  have online : .tapped market.publications.length true ∈ past ++ [.tapped market.publications.length connected] ↔
      connected = true := by
    rw [List.mem_append, List.mem_singleton, or_iff_right fun old => Nat.lt_irrefl _ (form.known _ _ old)]
    exact ⟨fun same => (FormEntry.tapped.inj same).2.symm, fun online => online ▸ rfl⟩
  rw [Sound, online]
  refine and_iff_left fun request failed => ?_
  have old := (List.mem_append.mp failed).resolve_right fun new => by cases List.mem_singleton.mp new
  obtain ⟨owner, owned, _, inside⟩ := form.answered request false old
  exact PublishRequest.upload_other owned inside.ne

/-- A tap on Done starts a publication of the form. -/
theorem tap (form : market.Form own size screen past current) {connected : Bool} {uuids : String × String}
    (usable : market.usable current = true) :
    ∃ later, Form own size screen (past ++ [.tapped market.publications.length connected]) (Market.perform { market with
      publications := market.publications ++
        [(current.saveToFireStore double connected uuids own market.publications.length).publication]
      used := uuids.1 :: uuids.2 :: market.used } market.publications.length
        (current.saveToFireStore double connected uuids own market.publications.length)) later := by
  obtain ⟨_, sameImages, counted, _⟩ :=
    current.saveToFireStore_cases double connected uuids own market.publications.length
  obtain ⟨ownScreen, _⟩ := current.saveToFireStore_starts double connected uuids own market.publications.length
  generalize saves : current.saveToFireStore double connected uuids own market.publications.length = handled at *
  obtain ⟨owned, traps, fewer, uploads, outcome⟩ := AddItemScreen.saveToFireStore_form saves
  have behind : size ≤ market.publications.length := by
    have taps := form.taps
    omega
  have itemImages : current.itemImages = screen.itemImages := by rw [form.filled]
  have device : current.device = screen.device := by rw [form.filled]
  have visible : current.popped = 0 := by
    simp only [Market.usable, Bool.and_eq_true, decide_eq_true_eq] at usable
    exact usable.2
  rw [itemImages] at sameImages
  obtain ⟨live, pending⟩ := perform_counts { market with
    publications := market.publications ++ [handled.publication], used := uuids.1 :: uuids.2 :: market.used }
      market.publications.length handled
  generalize started : Market.perform { market with
    publications := market.publications ++ [handled.publication], used := uuids.1 :: uuids.2 :: market.used }
      market.publications.length handled = next at *
  have publications : next.publications = market.publications ++ [handled.publication] := by
    rw [← started, perform, List.set_append_right _ _ (Nat.le_refl _), Nat.sub_self, List.set_cons_zero]
  have length : next.publications.length = market.publications.length + 1 := by
    rw [publications, List.length_append, List.length_singleton]
  have finished : next.finished size = market.finished size + if handled.publication.finished then 1 else 0 := by
    rw [Market.finished, publications, List.drop_append_of_le_length behind, List.countP_append, Market.finished]
    simp [List.countP_cons]
  have finishes : handled.publication.finished = true ↔ current.itemImages = [] := by
    rw [Publication.finished, decide_eq_true_iff, counted, sameImages, itemImages, eq_comm, List.length_eq_zero_iff]
  refine ⟨handled.screen, ?_, ?_, ?_, fun number beyond inside => ?_, fun number answer member => ?_,
    fun flight member => ?_, fun request succeeds member => ?_, fun number publication beyond present => ?_, ?_,
    fun _ => ?_, fun saved => ?_, ?_⟩
  · have screens : next.screens = market.screens.set own handled.screen := by rw [← started, ← ownScreen]; rfl
    rw [screens]
    exact List.getElem?_set_self (List.getElem?_eq_some_iff.mp form.shown).1
  · rcases outcome with ⟨_, left, _⟩ | ⟨_, waiting, _⟩
    · rw [left]
      exact congrArg (fun shown => { shown with loading := false, popped := current.popped + 1 }) form.filled
    · rw [waiting]
      exact congrArg (fun shown => { shown with loading := true }) form.filled
  · rw [length, List.filterMap_append, List.length_append, ← form.taps]
    simp only [List.filterMap_cons, FormEntry.tap, List.filterMap_nil, List.length_singleton]
    omega
  · rw [length] at inside
    rcases Nat.lt_succ_iff_lt_or_eq.mp inside with old | rfl
    · obtain ⟨answer, tapped⟩ := form.tapped number beyond old
      exact ⟨answer, List.mem_append_left _ tapped⟩
    · exact ⟨connected, List.mem_append_right _ List.mem_cons_self⟩
  · rw [length]
    rcases List.mem_append.mp member with old | new
    · exact Nat.lt_succ_of_lt (form.known number answer old)
    · obtain ⟨rfl, _⟩ := FormEntry.tapped.inj (List.mem_singleton.mp new)
      exact Nat.lt_succ_self _
  · rw [length]
    rw [← started] at member
    rcases List.mem_append.mp member with old | new
    · obtain ⟨number, owner, beyond, inside⟩ := form.flights flight old
      exact ⟨number, owner, beyond, Nat.lt_succ_of_lt inside⟩
    · obtain ⟨request, issued, rfl⟩ := List.mem_map.mp new
      exact ⟨market.publications.length, owned request issued, behind, Nat.lt_succ_self _⟩
  · rw [length]
    have old := (List.mem_append.mp member).resolve_right fun new => by cases List.mem_singleton.mp new
    obtain ⟨number, owner, beyond, inside⟩ := form.answered request succeeds old
    exact ⟨number, owner, beyond, Nat.lt_succ_of_lt inside⟩
  · have waiting : Market.live { market with
        publications := market.publications ++ [handled.publication], used := uuids.1 :: uuids.2 :: market.used }
        number = market.live number := rfl
    rw [live, waiting]
    rw [publications] at present
    by_cases new : number = market.publications.length
    · subst new
      obtain rfl := Option.some.inj (List.getElem?_concat_length.symm.trans present)
      rw [counted, form.live_new, Nat.zero_add, Nat.zero_add, form.sound_new, ← itemImages]
      exact ⟨ownScreen, sameImages.trans itemImages.symm, fewer, uploads⟩
    · have old : number < market.publications.length := by
        have bound := (List.getElem?_eq_some_iff.mp present).1
        rw [List.length_append, List.length_singleton] at bound
        omega
      rw [List.getElem?_append_left old] at present
      have silent : handled.issued.filterMap (PublishRequest.upload number) = [] :=
        List.filterMap_eq_nil_iff.mpr fun request issued =>
          PublishRequest.upload_other (owned request issued) (Ne.symm new)
      rw [silent, List.length_nil, Nat.add_zero, sound_tapped new]
      exact form.started number publication beyond present
  · rw [finished, ← form.popped]
    rcases outcome with ⟨plain, left, _⟩ | ⟨some, waiting, _⟩
    · rw [left, if_pos (finishes.mpr plain)]
    · rw [waiting, if_neg fun done => some (finishes.mp done)]
      rfl
  · rcases outcome with ⟨plain, left, _⟩ | ⟨some, waiting, _⟩
    · rw [left]
      simp
    · rw [waiting]
      exact ⟨fun _ => visible, fun _ => rfl⟩
  · have told : (past ++ [FormEntry.tapped market.publications.length connected]).filterMap (FormEntry.outcome saved) =
        past.filterMap (FormEntry.outcome saved) := by simp [FormEntry.outcome]
    rw [told, pending, finished, ← form.saved saved, Nat.add_assoc]
    congr 2
    rcases outcome with ⟨plain, _, one⟩ | ⟨some, _, silent⟩
    · rw [one, if_pos (finishes.mpr plain)]
    · rw [silent, if_neg fun done => some (finishes.mp done)]
  · intro trapped
    by_cases stops : handled.trapped = true
    · rw [← itemImages]
      exact traps stops
    · rw [← started, perform, if_neg stops] at trapped
      exact form.running trapped

/-- Each tap on Done, answer, and callback keeps the form. -/
theorem step (form : market.Form own size screen past current) {event : MarketEvent}
    (completed : screen.fieldsAreCompleted = true) (onForm : event.OnForm own)
    (taken : market.step double link event = some next) :
    ∃ later, next.Form own size screen (past ++ market.formEntries event) later := by
  cases event with
  | doneButtonWasTapped other connected uuids =>
      obtain rfl : other = own := onForm
      obtain ⟨shown, found, usable, outcome⟩ := step_doneButtonWasTapped taken
      obtain rfl := Option.some.inj (form.shown.symm.trans found)
      have filled : current.fieldsAreCompleted = true := by
        rw [form.filled]
        exact completed
      rcases outcome with ⟨incomplete, _⟩ | ⟨_, _, _, _, rfl⟩
      · rw [filled] at incomplete
        cases incomplete
      · exact form.tap usable
  | serve index succeeds =>
      obtain ⟨request, found, ⟨rfl, rfl⟩ | ⟨rfl, rfl⟩⟩ := step_serve taken
      · have entries : market.formEntries (.serve index true) = [.answered request true] := by
          simp only [formEntries, found]
        rw [entries]
        refine ⟨current, ?_⟩
        cases request with
        | putData number fileName imageData => exact form.serve found rfl rfl rfl rfl fun number => rfl
        | downloadURL number fileName => exact form.serve found rfl rfl rfl rfl fun number => rfl
        | setItem number name data => exact form.serve found rfl rfl rfl rfl fun number => rfl
        | addObject number object withID => exact form.serve found rfl rfl rfl rfl fun number => rfl
        | setCategory name data => exact form.serve found rfl rfl rfl rfl fun number => rfl
      · have entries : market.formEntries (.serve index false) = [.answered request false] := by
          simp only [formEntries, found]
        rw [entries]
        exact ⟨current, form.serve found rfl rfl rfl rfl fun number => by cases request <;> rfl⟩
  | callback index uuid =>
      have entries : market.formEntries (.callback index uuid) = [] := rfl
      rw [entries, List.append_nil]
      exact form.callback taken
  | _ => exact absurd onForm id

/-- The filled form has no publication yet. -/
theorem initial (idle : market.flights = []) (shown : market.screens[own]? = some screen)
    (usable : market.usable screen = true) :
    market.Form own market.publications.length screen [] screen := by
  simp only [Market.usable, Bool.and_eq_true, Bool.not_eq_true', decide_eq_true_eq] at usable
  have none : market.finished market.publications.length = 0 := by
    rw [finished, List.drop_length, List.countP_nil]
  refine ⟨shown, rfl, Nat.zero_add _, fun number behind inside => absurd inside (Nat.not_lt.mpr behind),
    fun number connected member => absurd member List.not_mem_nil, fun flight member => ?_,
    fun request succeeds member => absurd member List.not_mem_nil, fun number publication behind present => ?_,
    usable.2.trans none.symm, fun more => absurd more (Nat.lt_irrefl _), fun saved => ?_, fun trapped => ?_⟩
  · rw [idle] at member
    cases member
  · exact absurd (List.getElem?_eq_some_iff.mp present).1 (Nat.not_lt.mpr behind)
  · rw [idle, none]
    rfl
  · rw [usable.1.1] at trapped
    cases trapped

/-- Every run on the form keeps it. -/
theorem run (form : market.Form own size screen [] current) {events : List MarketEvent}
    (completed : screen.fieldsAreCompleted = true) (onForm : ∀ event ∈ events, event.OnForm own)
    (ran : market.run double link events = some next) :
    ∃ later, next.Form own size screen (Transition.log (Market.step double link) formEntries market events) later :=
  Transition.run_log (fun reached past => ∃ later, reached.Form own size screen past later)
    (fun _ _ _ _ ⟨_, form⟩ onForm taken => form.step completed onForm taken) ⟨current, form⟩
    (Transition.Along.of_forall onForm) ran

/-- When every request has been answered, a publication is finished exactly if nothing stopped it. -/
theorem finished_iff (form : market.Form own size screen past current) (answered : market.flights = [])
    {number : Nat} {publication : Publication} (behind : size ≤ number)
    (present : market.publications[number]? = some publication) :
    publication.finished = true ↔ Sound screen.itemImages past number := by
  obtain ⟨_, images, _, all⟩ := form.started number publication behind present
  have none : market.live number = 0 := by rw [live, answered]; rfl
  rw [none, Nat.add_zero] at all
  rw [Publication.finished, decide_eq_true_iff, images]
  exact all

/-- One tap starts one publication, and it is sound exactly if it can send its images and no upload fails. -/
theorem single (form : market.Form own size screen past current) {connected : Bool}
    (tapped : past.filterMap FormEntry.tap = [connected]) :
    (∃ publication, market.publications[size]? = some publication ∧
      market.finished size = if publication.finished then 1 else 0) ∧
    (Sound screen.itemImages past size ↔
      (screen.itemImages = [] ∨ connected = true ∧ Encodable screen.itemImages) ∧
        ∀ request, .answered request false ∈ past → request.upload size = none) := by
  have length : market.publications.length = size + 1 := by
    rw [← form.taps, tapped, List.length_singleton, Nat.add_comm]
  have inside : size < market.publications.length := length ▸ Nat.lt_succ_self size
  constructor
  · refine ⟨_, List.getElem?_eq_getElem inside, ?_⟩
    have rest : market.publications.drop (size + 1) = [] := List.drop_eq_nil_of_le length.le
    rw [finished, List.drop_eq_getElem_cons inside, rest]
    simp [List.countP_cons]
  · obtain ⟨answer, member⟩ := form.tapped size (Nat.le_refl size) inside
    have only {answer : Bool} (member : .tapped size answer ∈ past) : answer = connected := by
      have shown : answer ∈ past.filterMap FormEntry.tap := List.mem_filterMap.mpr ⟨_, member, rfl⟩
      rw [tapped] at shown
      exact List.mem_singleton.mp shown
    have online : .tapped size true ∈ past ↔ connected = true := by
      refine ⟨fun tapped => (only tapped).symm, fun online => ?_⟩
      rw [← online, ← only member]
      exact member
    unfold Sound
    rw [online]

/-- At the end of one tap the indicator stays, or the screen has been left and the document has been answered once. -/
theorem ended (form : market.Form own size screen past current) (answered : market.flights = []) {connected : Bool}
    (tapped : past.filterMap FormEntry.tap = [connected]) :
    ∃ publication, market.publications[size]? = some publication ∧
      (publication.finished = false → current.popped = 0 ∧ current.loading = true) ∧
      (publication.finished = true → current.popped = 1 ∧ current.loading = false ∧
        ∃ succeeds, past.filterMap (FormEntry.outcome .document) = [succeeds]) := by
  obtain ⟨⟨publication, present, finished⟩, _⟩ := form.single tapped
  have inside := (List.getElem?_eq_some_iff.mp present).1
  have popped := form.popped.trans finished
  refine ⟨publication, present, fun more => ?_, fun done => ?_⟩
  · rw [more, if_neg Bool.false_ne_true] at popped
    exact ⟨popped, (form.loading inside).mpr popped⟩
  · rw [done, if_pos rfl] at popped
    have one := form.saved .document
    rw [answered, List.filterMap_nil, List.length_nil, Nat.add_zero, finished, done, if_pos rfl] at one
    refine ⟨popped, Bool.eq_false_iff.mpr fun shown => ?_, List.length_eq_one_iff.mp one⟩
    rw [(form.loading inside).mp shown] at popped
    cases popped

/-- After one tap every answer belongs to its publication. -/
theorem owned (form : market.Form own size screen past current) {connected : Bool}
    (tapped : past.filterMap FormEntry.tap = [connected]) {request : PublishRequest} {succeeds : Bool}
    (answer : .answered request succeeds ∈ past) : request.publication = some size := by
  obtain ⟨number, owner, behind, inside⟩ := form.answered request succeeds answer
  have taps := form.taps
  rw [tapped, List.length_singleton] at taps
  have same : number = size := by omega
  rw [owner, same]

end Form

end Market

end ShoppingApp
