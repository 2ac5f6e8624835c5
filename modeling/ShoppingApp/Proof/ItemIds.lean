import Mathlib.Algebra.Order.BigOperators.Group.List
import Mathlib.Algebra.Ring.Nat
import ShoppingApp.Library.Pool
import ShoppingApp.Model.Publishing

namespace ShoppingApp

/-- A publication stores files, a document, and a search record. -/
inductive Written where
  | file (publication : Nat) (fileName : StoragePath)
  | document (publication : Nat) (name : String) (data : Dictionary)
  | record (publication : Nat) (withID : String)

def PublishRequest.written : PublishRequest → List Written
  | .putData number fileName _ => [.file number fileName]
  | .setItem number name data => [.document number name data]
  | .addObject number _ withID => [.record number withID]
  | .downloadURL _ _ | .setCategory _ _ => []

/-- The folder under `ItemImages/` that holds a file. -/
def StoragePath.folder (fileName : StoragePath) : StoragePath := fileName.dropLast

/-- The document name, the field inside the document, the search record, and the image folder are one identifier. -/
structure OneId (written : List Written) (number : Nat) (id : String) : Prop where
  document : ∀ name data, .document number name data ∈ written →
    name = id ∧ data.read Value.asString .objectId = some id
  record : ∀ withID, .record number withID ∈ written → withID = id
  folder : ∀ fileName, .file number fileName ∈ written → StoragePath.folder fileName = ["ItemImages", id]

/-- The request stores an image of the publication or asks for its link. -/
def PublishRequest.uploads (number : Nat) : PublishRequest → Nat
  | .putData publication _ _ | .downloadURL publication _ => if publication = number then 1 else 0
  | _ => 0

/-- A file is stored before its link is asked for. -/
def PublishFlight.Stored (written : List Written) (flight : PublishFlight) : Prop :=
  match flight.request, flight.reply with
  | .putData number fileName _, some .done => .file number fileName ∈ written
  | .downloadURL number _, _ => ∃ fileName, .file number fileName ∈ written
  | _, _ => True

/-- What is written belongs to its publication, and a saved item has got another identifier than its folder. -/
def Written.Tracks (publications : List Publication) : Written → Prop
  | .file number fileName => ∃ publication, publications[number]? = some publication ∧ publication.images ≠ [] ∧
      StoragePath.folder fileName = ["ItemImages", publication.itemId]
  | .document number name data => ∃ publication, publications[number]? = some publication ∧
      publication.item.id = some name ∧ name ≠ publication.itemId ∧ data.read Value.asString .objectId = some name
  | .record number withID => ∃ publication, publications[number]? = some publication ∧
      publication.item.id = some withID ∧ withID ≠ publication.itemId

namespace Market

/-- This event lets a service apply these writes. -/
def written (market : Market) : MarketEvent → List Written
  | .serve index true =>
      match market.flights[index]? with
      | some ⟨request, none⟩ => request.written
      | _ => []
  | _ => []

/-- The number of images of the publication that are on their way. -/
def uploads (market : Market) (number : Nat) : Nat :=
  (market.flights.map fun flight => flight.request.uploads number).sum

/-- The images on their way are still to be counted, and the item keeps the identifier of the folder until all images
are counted. -/
structure Counts (written : List Written) (market : Market) (number : Nat) (publication : Publication) : Prop where
  used : publication.itemId ∈ market.used
  bounded : publication.uploadedImageCount + market.uploads number ≤ publication.images.length
  stored : 0 < publication.uploadedImageCount → ∃ fileName, .file number fileName ∈ written
  item : publication.item.id = some publication.itemId ∨ publication.uploadedImageCount = publication.images.length

/-- What is written, on its way or done, belongs to its publication. -/
structure Publishes (written : List Written) (market : Market) : Prop where
  pending : ∀ flight ∈ market.flights, ∀ entry ∈ flight.request.written, entry.Tracks market.publications
  done : ∀ entry ∈ written, entry.Tracks market.publications
  stored : ∀ flight ∈ market.flights, flight.Stored written
  counts : ∀ number publication, market.publications[number]? = some publication →
    market.Counts written number publication

end Market

namespace Written.Tracks

variable {publications : List Publication} {entry : Written} {number : Nat} {old new : Publication}

theorem append (tracks : entry.Tracks publications) (added : List Publication) :
    entry.Tracks (publications ++ added) := by
  have kept {number : Nat} {publication : Publication} (present : publications[number]? = some publication) :
      (publications ++ added)[number]? = some publication := by
    rw [List.getElem?_append_left (List.getElem?_eq_some_iff.mp present).1]
    exact present
  cases entry with
  | file other fileName =>
      obtain ⟨publication, present, facts⟩ := tracks
      exact ⟨publication, kept present, facts⟩
  | document other name data =>
      obtain ⟨publication, present, facts⟩ := tracks
      exact ⟨publication, kept present, facts⟩
  | record other withID =>
      obtain ⟨publication, present, facts⟩ := tracks
      exact ⟨publication, kept present, facts⟩

/-- A publication that has saved its item keeps the identifier. -/
theorem set (tracks : entry.Tracks publications) (present : publications[number]? = some old)
    (folder : new.itemId = old.itemId) (images : new.images = old.images)
    (item : new.item.id = old.item.id ∨ old.item.id = some old.itemId) :
    entry.Tracks (publications.set number new) := by
  have inside : number < publications.length := (List.getElem?_eq_some_iff.mp present).1
  have here : (publications.set number new)[number]? = some new := by simp [inside]
  have elsewhere {other : Nat} (different : number ≠ other) :
      (publications.set number new)[other]? = publications[other]? := List.getElem?_set_ne different
  cases entry with
  | file other fileName =>
      obtain ⟨publication, found, some, inFolder⟩ := tracks
      by_cases same : number = other
      · subst same
        obtain rfl := Option.some.inj (present.symm.trans found)
        exact ⟨new, here, images ▸ some, folder ▸ inFolder⟩
      · exact ⟨publication, (elsewhere same).trans found, some, inFolder⟩
  | document other name data =>
      obtain ⟨publication, found, hasId, different, named⟩ := tracks
      by_cases same : number = other
      · subst same
        obtain rfl := Option.some.inj (present.symm.trans found)
        rcases item with kept | unsaved
        · exact ⟨new, here, kept.trans hasId, folder ▸ different, named⟩
        · exact absurd (Option.some.inj (hasId.symm.trans unsaved)) different
      · exact ⟨publication, (elsewhere same).trans found, hasId, different, named⟩
  | record other withID =>
      obtain ⟨publication, found, hasId, different⟩ := tracks
      by_cases same : number = other
      · subst same
        obtain rfl := Option.some.inj (present.symm.trans found)
        rcases item with kept | unsaved
        · exact ⟨new, here, kept.trans hasId, folder ▸ different⟩
        · exact absurd (Option.some.inj (hasId.symm.trans unsaved)) different
      · exact ⟨publication, (elsewhere same).trans found, hasId, different⟩

end Written.Tracks

theorem PublishRequest.uploads_le_one (request : PublishRequest) (number : Nat) : request.uploads number ≤ 1 := by
  unfold uploads
  split <;> first | split <;> decide | decide

namespace Market

variable {market next : Market} {written : List Written}

theorem Counts.mono {number : Nat} {publication : Publication} {later : List Written}
    (counts : market.Counts written number publication) (used : market.used ⊆ next.used)
    (uploads : next.uploads number ≤ market.uploads number) (grows : written ⊆ later) :
    next.Counts later number publication := by
  refine ⟨used counts.used, ?_, fun some => ?_, counts.item⟩
  · exact (Nat.add_le_add_left uploads _).trans counts.bounded
  · obtain ⟨fileName, stored⟩ := counts.stored some
    exact ⟨fileName, grows stored⟩

/-- Requests that carry no image of a publication leave the number of its images on their way. -/
theorem uploads_perform {number other : Nat} {outcome : PublishOutcome}
    (silent : ∀ request ∈ outcome.issued, request.uploads other = 0) :
    (market.perform number outcome).uploads other = market.uploads other := by
  refine Pool.sum_append_silent _ fun flight member => ?_
  obtain ⟨request, inIssued, rfl⟩ := List.mem_map.mp member
  exact silent request inIssued

/-- The document and the search record of a saved item carry its identifier and no image. -/
theorem saved_tracks (written : List Written) {publications : List Publication} {number : Nat}
    {publication : Publication} {uuid : String} (present : publications[number]? = some publication)
    (saved : publication.item.id = some uuid) (different : uuid ≠ publication.itemId) :
    ∀ request ∈ [PublishRequest.setItem number uuid (itemDictionaryFrom publication.item),
        .addObject number (itemDictionaryFrom publication.item) uuid],
      PublishFlight.Stored written ⟨request, none⟩ ∧ (∀ other, request.uploads other = 0) ∧
        ∀ entry ∈ request.written, entry.Tracks publications := by
  have encoded : (itemDictionaryFrom publication.item).read Value.asString .objectId = some uuid := by
    have default : (itemDictionaryFrom publication.item).read Value.asString .objectId =
        some (publication.item.id.getD "") := rfl
    rw [default, saved, Option.getD_some]
  intro request member
  simp only [List.mem_cons, List.not_mem_nil, or_false] at member
  rcases member with rfl | rfl
  · refine ⟨trivial, fun _ => rfl, fun entry inWritten => ?_⟩
    obtain rfl := List.mem_singleton.mp inWritten
    exact ⟨publication, present, saved, different, encoded⟩
  · refine ⟨trivial, fun _ => rfl, fun entry inWritten => ?_⟩
    obtain rfl := List.mem_singleton.mp inWritten
    exact ⟨publication, present, saved, different⟩

namespace Publishes

/-- Nothing is on its way for a publication that does not exist. -/
theorem uploads_eq_zero (publishes : market.Publishes written) {number : Nat}
    (unknown : market.publications[number]? = none) : market.uploads number = 0 := by
  have missing {fileName : StoragePath} (tracks : Written.Tracks market.publications (.file number fileName)) :
      False := by
    obtain ⟨publication, present, _⟩ := tracks
    rw [unknown] at present
    cases present
  apply List.sum_eq_zero
  intro weight member
  obtain ⟨⟨request, reply⟩, present, rfl⟩ := List.mem_map.mp member
  cases request with
  | putData publication fileName imageData =>
      refine if_neg fun same => ?_
      subst same
      exact missing (publishes.pending _ present _ List.mem_cons_self)
  | downloadURL publication fileName =>
      refine if_neg fun same => ?_
      subst same
      obtain ⟨stored, inWritten⟩ := publishes.stored _ present
      exact missing (publishes.done _ inWritten)
  | _ => rfl

/-- A handler keeps the publications in order when it changes its own one in order. -/
theorem perform (publishes : market.Publishes written) {number : Nat} {old : Publication} {outcome : PublishOutcome}
    (present : market.publications[number]? = some old) (folder : outcome.publication.itemId = old.itemId)
    (images : outcome.publication.images = old.images)
    (item : outcome.publication.item.id = old.item.id ∨ old.item.id = some old.itemId)
    (issued : ∀ request ∈ outcome.issued, PublishFlight.Stored written ⟨request, none⟩ ∧
      (∀ other, other ≠ number → request.uploads other = 0) ∧
      ∀ entry ∈ request.written, entry.Tracks (market.publications.set number outcome.publication))
    (counts : (market.perform number outcome).Counts written number outcome.publication) :
    (market.perform number outcome).Publishes written := by
  have inside : number < market.publications.length := (List.getElem?_eq_some_iff.mp present).1
  have kept {entry : Written} (tracks : entry.Tracks market.publications) :
      entry.Tracks (market.publications.set number outcome.publication) := tracks.set present folder images item
  refine ⟨?_, fun entry member => kept (publishes.done entry member), ?_, ?_⟩
  · refine Pool.forall_append (fun flight member entry inWritten => ?_) fun flight member => ?_
    · exact kept (publishes.pending flight member entry inWritten)
    · obtain ⟨request, inIssued, rfl⟩ := List.mem_map.mp member
      exact (issued request inIssued).2.2
  · refine Pool.forall_append publishes.stored fun flight member => ?_
    obtain ⟨request, inIssued, rfl⟩ := List.mem_map.mp member
    exact (issued request inIssued).1
  · intro other publication found
    by_cases own : number = other
    · subst own
      have here : (market.publications.set number outcome.publication)[number]? = some outcome.publication := by
        simp [inside]
      obtain rfl := Option.some.inj (here.symm.trans found)
      exact counts
    · have before : market.publications[other]? = some publication :=
        (List.getElem?_set_ne own).symm.trans found
      refine (publishes.counts other publication before).mono ?_ ?_ (List.Subset.refl _)
      · exact List.Subset.refl _
      · exact (uploads_perform fun request inIssued => (issued request inIssued).2.1 other (Ne.symm own)).le

/-- A step that keeps the publications and their flights keeps them in order. -/
theorem congr (publishes : market.Publishes written) (publications : next.publications = market.publications)
    (flights : next.flights = market.flights) (used : market.used ⊆ next.used) : next.Publishes written := by
  have uploads (number : Nat) : next.uploads number ≤ market.uploads number := by
    rw [Market.uploads, Market.uploads, flights]
  refine ⟨?_, ?_, ?_, ?_⟩
  · rw [publications, flights]
    exact publishes.pending
  · rw [publications]
    exact publishes.done
  · rw [flights]
    exact publishes.stored
  · rw [publications]
    exact fun number publication present =>
      (publishes.counts number publication present).mono used (uploads number) (List.Subset.refl _)

/-- A request that belongs to no publication changes nothing for them. -/
theorem issue (publishes : market.Publishes written) {request : PublishRequest}
    (silent : request.written = []) (uploads : ∀ number, request.uploads number = 0)
    (stored : PublishFlight.Stored written ⟨request, none⟩) :
    Publishes written { market with flights := market.flights ++ [⟨request, none⟩] } := by
  refine ⟨Pool.forall_append publishes.pending fun flight member => ?_, publishes.done,
    Pool.forall_append publishes.stored fun flight member => ?_, fun number publication present => ?_⟩
  · rw [List.mem_singleton.mp member, silent]
    exact nofun
  · rwa [List.mem_singleton.mp member]
  · refine (publishes.counts number publication present).mono (List.Subset.refl _) ?_ (List.Subset.refl _)
    simp [Market.uploads, uploads]

/-- An applied request writes its entries, and a failed one writes nothing. -/
theorem serve (publishes : market.Publishes written) {index : Nat} {request : PublishRequest}
    (found : market.flights[index]? = some ⟨request, none⟩) {reply : PublishReply} {later : List Written}
    (applied : later = written ++ request.written ∨ later = written ∧ reply = .failed)
    (publications : next.publications = market.publications) (used : next.used = market.used)
    (flights : next.flights = market.flights.set index ⟨request, some reply⟩) : next.Publishes later := by
  have grows : written ⊆ later := by
    rcases applied with rfl | ⟨rfl, _⟩
    · exact List.subset_append_left _ _
    · exact List.Subset.refl _
  have tracked := publishes.pending _ (List.mem_of_getElem? found)
  have kept {flight : PublishFlight} (stored : flight.Stored written) : flight.Stored later := by
    obtain ⟨request, reply⟩ := flight
    cases request with
    | putData number fileName imageData =>
        cases reply with
        | none => trivial
        | some reply =>
            cases reply with
            | done => exact grows stored
            | _ => trivial
    | downloadURL number fileName =>
        obtain ⟨file, present⟩ := stored
        exact ⟨file, grows present⟩
    | _ => trivial
  refine ⟨?_, fun entry member => ?_, ?_, fun number publication present => ?_⟩
  · rw [publications, flights]
    exact Pool.forall_set publishes.pending tracked
  · rw [publications]
    rcases applied with rfl | ⟨rfl, _⟩
    · rcases List.mem_append.mp member with old | new
      · exact publishes.done entry old
      · exact tracked entry new
    · exact publishes.done entry member
  · rw [flights]
    refine Pool.forall_set (fun flight member => kept (publishes.stored flight member)) ?_
    have before := publishes.stored _ (List.mem_of_getElem? found)
    cases request with
    | putData number fileName imageData =>
        cases reply with
        | done =>
            rcases applied with rfl | ⟨_, impossible⟩
            · exact List.mem_append_right _ List.mem_cons_self
            · cases impossible
        | _ => trivial
    | downloadURL number fileName => exact kept before
    | _ => trivial
  · rw [publications] at present
    refine (publishes.counts number publication present).mono (used ▸ List.Subset.refl _) ?_ grows
    unfold Market.uploads
    rw [flights, Pool.sum_set _ found, Pool.sum_eraseIdx (fun flight => flight.request.uploads number) found]

/-- A callback takes its request away, and the images of its publication leave room for it. -/
theorem erase (publishes : market.Publishes written) {index : Nat} {flight : PublishFlight}
    (found : market.flights[index]? = some flight) (uuid : String) :
    Publishes written { market with flights := market.flights.eraseIdx index, used := uuid :: market.used } ∧
      ∀ number publication, market.publications[number]? = some publication →
        publication.uploadedImageCount + (flight.request.uploads number +
          uploads { market with flights := market.flights.eraseIdx index, used := uuid :: market.used } number) ≤
            publication.images.length := by
  have split (number : Nat) : market.uploads number = flight.request.uploads number +
      uploads { market with flights := market.flights.eraseIdx index, used := uuid :: market.used } number :=
    Pool.sum_eraseIdx (fun flight : PublishFlight => flight.request.uploads number) found
  refine ⟨⟨Pool.forall_eraseIdx publishes.pending, publishes.done, Pool.forall_eraseIdx publishes.stored,
    fun number publication present => ?_⟩, fun number publication present => ?_⟩
  · refine (publishes.counts number publication present).mono (List.subset_cons_self _ _) ?_ (List.Subset.refl _)
    rw [split number]
    exact Nat.le_add_left _ _
  · rw [← split number]
    exact (publishes.counts number publication present).bounded

/-- A counted image finishes its publication only when it is the last one. -/
theorem imageSaved (publishes : market.Publishes written) {uuid : String} {number : Nat} {imageLink : Option String}
    (fresh : ∀ publication, market.publications[number]? = some publication → uuid ≠ publication.itemId)
    (room : imageLink.isSome → ∀ publication, market.publications[number]? = some publication →
      publication.uploadedImageCount + (1 + market.uploads number) ≤ publication.images.length)
    (stored : imageLink.isSome → ∃ fileName, .file number fileName ∈ written) :
    (market.imageSaved uuid number imageLink).Publishes written := by
  rcases imageSaved_cases uuid number imageLink market with same | ⟨publication, screen, present, _, same⟩
  · rwa [same]
  · rw [same]
    have counts := publishes.counts number publication present
    have inside : number < market.publications.length := (List.getElem?_eq_some_iff.mp present).1
    cases imageLink with
    | none =>
        refine publishes.perform present rfl rfl (.inl rfl) (fun _ member => absurd member List.not_mem_nil)
          (counts.mono (List.Subset.refl _) ?_ (List.Subset.refl _))
        exact (uploads_perform fun _ member => absurd member List.not_mem_nil).le
    | some imageLink =>
        have room := room rfl publication present
        have unsaved : publication.item.id = some publication.itemId :=
          counts.item.resolve_right (by omega)
        unfold Publication.imageSaved
        simp only
        split
        · rename_i last
          rw [Publication.finish_eq]
          let saved : Publication := { publication with
            imageLinkArray := publication.imageLinkArray ++ [imageLink]
            uploadedImageCount := publication.uploadedImageCount + 1
            item := { publication.item with
              id := some uuid, imageLinks := some (publication.imageLinkArray ++ [imageLink]) } }
          have here : (market.publications.set number saved)[number]? = some saved := List.getElem?_set_self inside
          have tracks := saved_tracks written here rfl (fresh publication present)
          refine publishes.perform present rfl rfl (.inr unsaved) ?_ ⟨counts.used, ?_, fun _ => stored rfl, .inr last⟩
          · intro request member
            obtain ⟨files, silent, tracked⟩ := tracks request member
            exact ⟨files, fun other _ => silent other, tracked⟩
          · rw [uploads_perform fun request member => (tracks request member).2.1 number]
            simp only
            omega
        · refine publishes.perform present rfl rfl (.inl rfl) (fun _ member => absurd member List.not_mem_nil)
            ⟨counts.used, ?_, fun _ => stored rfl, .inl unsaved⟩
          rw [uploads_perform fun _ member => absurd member List.not_mem_nil]
          simp only
          omega

/-- A new publication has counted no image, and it owns its identifier. -/
theorem start (publishes : market.Publishes written) {publication : Publication} {used : List String}
    (drawn : market.used ⊆ used) (own : publication.itemId ∈ used) (count : publication.uploadedImageCount = 0)
    (item : publication.item.id = some publication.itemId ∨
      publication.uploadedImageCount = publication.images.length) :
    Publishes written { market with publications := market.publications ++ [publication], used := used } := by
  refine ⟨fun flight member entry inWritten => ?_, fun entry inWritten => ?_, publishes.stored,
    fun number other found => ?_⟩
  · exact (publishes.pending flight member entry inWritten).append _
  · exact (publishes.done entry inWritten).append _
  · by_cases old : number < market.publications.length
    · have before : market.publications[number]? = some other :=
        (List.getElem?_append_left old).symm.trans found
      exact (publishes.counts number other before).mono drawn (Nat.le_refl _) (List.Subset.refl _)
    · have last : number = market.publications.length := by
        have bound : number < (market.publications ++ [publication]).length :=
          (List.getElem?_eq_some_iff.mp found).1
        rw [List.length_append, List.length_singleton] at bound
        omega
      subst last
      obtain rfl := Option.some.inj (List.getElem?_concat_length.symm.trans found)
      have zero : market.uploads market.publications.length = 0 :=
        publishes.uploads_eq_zero (List.getElem?_eq_none (Nat.le_refl _))
      refine ⟨own, ?_, fun some => absurd (count ▸ some) (Nat.lt_irrefl 0), item⟩
      rw [count]
      exact (Nat.zero_add _).trans_le (zero.trans_le (Nat.zero_le _))

/-- The Done tap starts a publication that owns its identifiers. -/
theorem saveToFireStore (publishes : market.Publishes written) {double : String → Option Double} {connected : Bool}
    {uuids : String × String} {own : Nat} {screen : AddItemScreen} (different : uuids.1 ≠ uuids.2) :
    Publishes written (Market.perform { market with
      publications := market.publications ++
        [(screen.saveToFireStore double connected uuids own market.publications.length).publication]
      used := uuids.1 :: uuids.2 :: market.used } market.publications.length
        (screen.saveToFireStore double connected uuids own market.publications.length)) := by
  obtain ⟨folder, images, count, kind⟩ :=
    AddItemScreen.saveToFireStore_cases double connected uuids own market.publications.length screen
  generalize screen.saveToFireStore double connected uuids own market.publications.length = outcome at *
  have present : (market.publications ++ [outcome.publication])[market.publications.length]? =
      some outcome.publication := List.getElem?_concat_length
  have here : ((market.publications ++ [outcome.publication]).set market.publications.length
      outcome.publication)[market.publications.length]? = some outcome.publication := by simp
  have item : outcome.publication.item.id = some outcome.publication.itemId ∨
      outcome.publication.uploadedImageCount = outcome.publication.images.length := by
    rw [folder, images, count]
    rcases kind with ⟨unsaved, _⟩ | ⟨unsaved, _⟩ | ⟨_, none, _⟩
    · exact .inl unsaved
    · exact .inl unsaved
    · exact .inr (by rw [none]; rfl)
  have drawn : market.used ⊆ uuids.1 :: uuids.2 :: market.used := fun uuid member =>
    List.mem_cons_of_mem _ (List.mem_cons_of_mem _ member)
  have started := publishes.start drawn (folder ▸ List.mem_cons_self) count item
  have before := started.counts _ _ present
  have counted (bounded : (outcome.issued.map fun request =>
      request.uploads market.publications.length).sum ≤ outcome.publication.images.length) :
      Counts written (Market.perform { market with
        publications := market.publications ++ [outcome.publication]
        used := uuids.1 :: uuids.2 :: market.used } market.publications.length outcome)
          market.publications.length outcome.publication := by
    have zero : market.uploads market.publications.length = 0 :=
      publishes.uploads_eq_zero (List.getElem?_eq_none (Nat.le_refl _))
    refine ⟨before.used, ?_, before.stored, before.item⟩
    rw [count, Nat.zero_add]
    unfold uploads Market.perform at *
    rw [List.map_append, List.sum_append, zero, Nat.zero_add, List.map_map]
    exact bounded
  rcases kind with ⟨_, issued⟩ | ⟨_, some, issued⟩ | ⟨saved, none, issued⟩
  · refine started.perform present rfl rfl (.inl rfl) ?_ (counted ?_)
    · rw [issued]
      exact fun _ member => absurd member List.not_mem_nil
    · rw [issued]
      exact Nat.zero_le _
  · obtain ⟨fewer, stores⟩ := uploadImages_stores market.publications.length uuids.1 0 screen.itemImages
    refine started.perform present rfl rfl (.inl rfl) (fun request member => ?_) (counted ?_)
    · rw [issued] at member
      obtain ⟨suffix, imageData, rfl⟩ := stores request member
      refine ⟨trivial, fun other elsewhere => if_neg (Ne.symm elsewhere), fun entry inWritten => ?_⟩
      obtain rfl := List.mem_singleton.mp inWritten
      have inFolder : StoragePath.folder (imageFileName uuids.1 suffix) =
          ["ItemImages", outcome.publication.itemId] := folder ▸ rfl
      exact ⟨_, here, images ▸ some, inFolder⟩
    · rw [issued, images]
      refine Nat.le_trans ?_ fewer
      refine (List.sum_le_card_nsmul _ 1 fun weight member => ?_).trans ?_
      · obtain ⟨request, inIssued, rfl⟩ := List.mem_map.mp member
        exact request.uploads_le_one _
      · rw [List.length_map]
        exact (Nat.mul_one _).le
  · have tracks := saved_tracks written here saved (folder ▸ Ne.symm different)
    refine started.perform present rfl rfl (.inl rfl) (fun request member => ?_) (counted ?_)
    · obtain ⟨files, silent, tracked⟩ := tracks request (issued ▸ member)
      exact ⟨files, fun other _ => silent other, tracked⟩
    · rw [issued]
      exact Nat.zero_le _

/-- A completion runs after its request was taken away. -/
theorem complete (publishes : market.Publishes written) {index : Nat} {uuid : String} {request : PublishRequest}
    {reply : PublishReply} (found : market.flights[index]? = some ⟨request, some reply⟩)
    (unused : uuid ∉ market.used) :
    Publishes written (Market.complete uuid
      { market with flights := market.flights.eraseIdx index, used := uuid :: market.used } request reply) := by
  obtain ⟨erased, room⟩ := publishes.erase found uuid
  have stored := publishes.stored _ (List.mem_of_getElem? found)
  have fresh (number : Nat) (publication : Publication)
      (present : market.publications[number]? = some publication) : uuid ≠ publication.itemId := by
    rintro rfl
    exact unused (publishes.counts number publication present).used
  have failed (number : Nat) : Publishes written (Market.imageSaved uuid number none
      { market with flights := market.flights.eraseIdx index, used := uuid :: market.used }) := by
    refine erased.imageSaved (fresh number) (fun impossible => ?_) fun impossible => ?_
    · cases impossible
    · cases impossible
  cases request with
  | putData number fileName imageData =>
      cases reply with
      | done =>
          refine ⟨Pool.forall_append erased.pending fun flight member => ?_, erased.done,
            Pool.forall_append erased.stored fun flight member => ?_, fun other publication present => ?_⟩
          · rw [List.mem_singleton.mp member]
            exact fun entry inWritten => absurd inWritten List.not_mem_nil
          · rw [List.mem_singleton.mp member]
            exact ⟨fileName, stored⟩
          · obtain ⟨used, _, files, item⟩ := erased.counts other publication present
            refine ⟨used, le_of_eq_of_le ?_ (room other publication present), files, item⟩
            -- The link request takes the place of the stored image.
            unfold uploads Market.complete
            rw [List.map_append, List.sum_append, List.map_singleton, List.sum_singleton, Nat.add_comm (List.sum _)]
            rfl
      | failed => exact failed number
      | url absoluteString => exact failed number
  | downloadURL number fileName =>
      cases reply with
      | url absoluteString =>
          refine erased.imageSaved (fresh number) (fun _ publication present => ?_) fun _ => stored
          have space := room number publication present
          rwa [show PublishRequest.uploads number (.downloadURL number fileName) = 1 from if_pos rfl] at space
      | done => exact failed number
      | failed => exact failed number
  | setItem number name data => exact erased
  | addObject number object withID => exact erased
  | setCategory name data => exact erased

end Publishes

/-- Each step of the market keeps its publications in order. -/
theorem Publishes.step {double : String → Option Double} {link : StoragePath → String} {event : MarketEvent}
    (publishes : market.Publishes written) (taken : market.step double link event = some next) :
    next.Publishes (written ++ market.written event) := by
  have silent (silent : market.written event = []) (kept : next.Publishes written) :
      next.Publishes (written ++ market.written event) := by
    rwa [silent, List.append_nil]
  have edited {own : Nat} {change : AddItemScreen → AddItemScreen} (taken : market.edit own change = some next) :
      next.Publishes written := by
    obtain ⟨screens, rfl⟩ := edit_screens taken
    exact publishes.congr rfl rfl (List.Subset.refl _)
  cases event with
  | shop event =>
      obtain ⟨_, shop, _, rfl⟩ := step_shop taken
      exact silent rfl (publishes.congr rfl rfl (List.subset_append_right _ _))
  | openAddItem device category =>
      obtain rfl := Option.some.inj taken
      exact silent rfl (publishes.congr rfl rfl (List.Subset.refl _))
  | editFields own title price description => exact silent rfl (edited taken)
  | cameraButtonWasTapped own => exact silent rfl (edited taken)
  | didSelectImages own resolvedImages => exact silent rfl (edited taken)
  | doneButtonWasTapped own connected uuids =>
      obtain ⟨screen, _, _, ⟨_, rfl⟩ | ⟨_, _, _, different, rfl⟩⟩ := step_doneButtonWasTapped taken
      · exact silent rfl publishes
      · exact silent rfl (publishes.saveToFireStore different)
  | saveCategoryToFireStore category uuid =>
      obtain ⟨_, rfl⟩ := step_saveCategoryToFireStore taken
      have stored : PublishFlight.Stored written
          ⟨.setCategory uuid (categoryDictionaryFrom { category with id := uuid }), none⟩ := trivial
      exact silent rfl ((publishes.issue rfl (fun _ => rfl) stored).congr rfl rfl (List.subset_cons_self _ _))
  | serve index succeeds =>
      obtain ⟨request, found, ⟨rfl, rfl⟩ | ⟨rfl, rfl⟩⟩ := step_serve taken
      · obtain ⟨publications, flights, used⟩ := apply_keeps link market request
        have recorded : market.written (.serve index true) = request.written := by
          simp only [Market.written, found]
        rw [recorded]
        exact publishes.serve found (.inl rfl) publications used (by rw [flights])
      · exact silent rfl (publishes.serve found (.inr ⟨rfl, rfl⟩) rfl rfl rfl)
  | callback index uuid =>
      obtain ⟨request, reply, found, unused, ⟨_, rfl⟩ | ⟨_, rfl⟩⟩ := step_callback taken
      · exact silent rfl (publishes.erase found uuid).1
      · exact silent rfl (publishes.complete found unused)

end Market

/-- A published item has one identifier everywhere exactly when it was published without images. -/
theorem published_one_id_iff (double : String → Option Double) (link : StoragePath → String) {market final : Market}
    {events : List MarketEvent} (unpublished : market.publications = []) (idle : market.flights = [])
    (ran : market.run double link events = some final) {number : Nat} {publication : Publication}
    (present : final.publications[number]? = some publication)
    (published : ∃ name data,
      .document number name data ∈ Transition.log (Market.step double link) Market.written market events) :
    (∃ id, OneId (Transition.log (Market.step double link) Market.written market events) number id) ↔
      publication.images = [] := by
  have initial : Market.Publishes [] market := by
    refine ⟨?_, fun entry member => absurd member List.not_mem_nil, ?_, fun number publication found => ?_⟩
    · rw [idle]
      exact fun flight member => absurd member List.not_mem_nil
    · rw [idle]
      exact fun flight member => absurd member List.not_mem_nil
    · rw [unpublished] at found
      cases found
  have all : Transition.Along (Market.step double link) (fun _ _ => True) market events :=
    Transition.Along.of_all (fun _ _ => trivial) market events
  have publishes := Transition.run_log (fun market written => Market.Publishes written market)
    (fun _ _ _ _ publishes _ taken => publishes.step taken) initial all ran
  rw [List.nil_append] at publishes
  generalize Transition.log (Market.step double link) Market.written market events = written at *
  have own {other : Publication} (found : final.publications[number]? = some other) : other = publication :=
    Option.some.inj (found.symm.trans present)
  obtain ⟨name, data, member⟩ := published
  obtain ⟨other, found, hasId, different, named⟩ := publishes.done _ member
  obtain rfl := own found
  constructor
  · rintro ⟨id, one⟩
    by_contra some
    -- The item is saved, so all of its images are stored, in the folder of the first identifier.
    have counts := publishes.counts number other present
    have counted : other.uploadedImageCount = other.images.length :=
      counts.item.resolve_left fun unsaved => different (Option.some.inj (hasId.symm.trans unsaved))
    obtain ⟨fileName, stored⟩ := counts.stored (counted ▸ List.length_pos_iff.mpr some)
    obtain ⟨owner, found, _, inFolder⟩ := publishes.done _ stored
    obtain rfl := own found
    have folder : ["ItemImages", owner.itemId] = ["ItemImages", id] := inFolder.symm.trans (one.folder fileName stored)
    simp only [List.cons.injEq, and_true, true_and] at folder
    exact different ((one.document name data member).1.trans folder.symm)
  · intro none
    refine ⟨name, fun otherName otherData inWritten => ?_, fun withID inWritten => ?_, fun fileName inWritten => ?_⟩
    · obtain ⟨owner, found, named, _, reads⟩ := publishes.done _ inWritten
      obtain rfl := own found
      obtain rfl := Option.some.inj (named.symm.trans hasId)
      exact ⟨rfl, reads⟩
    · obtain ⟨owner, found, named, _⟩ := publishes.done _ inWritten
      obtain rfl := own found
      exact Option.some.inj (named.symm.trans hasId)
    · obtain ⟨owner, found, some, _⟩ := publishes.done _ inWritten
      obtain rfl := own found
      exact absurd none some

/-- Nothing has been published, and nobody is signed in. -/
def sellerMarket : Market where
  shop := { store := fun _ => Documents.empty, devices := fun _ => {}, flights := [] }

/-- These are the values that the two parameters have on the example inputs. -/
def sellerDouble (text : String) : Option Double :=
  if text = "1" then some ⟨0x3FF0000000000000⟩ else none

def sellerLink (fileName : StoragePath) : String :=
  "https://firebasestorage.googleapis.com/" ++ "/".intercalate fileName

def sellerCategory : Category := { name := "Clothing", id := "c", imageName := none, image := "menscloth" }

/-- The form is completed and published, and the item reaches the store and the search index. -/
def plainPublication : List MarketEvent :=
  [.openAddItem 0 sellerCategory, .editFields 0 "Shirt" "1" "A shirt",
    .doneButtonWasTapped 0 true ("A", "B"), .serve 0 true, .serve 1 true]

/-- An image is stored and linked before the item is written. -/
def imagePublication : List MarketEvent :=
  [.openAddItem 0 sellerCategory, .editFields 0 "Shirt" "1" "A shirt",
    .didSelectImages 0 [some ⟨some [0]⟩], .doneButtonWasTapped 0 true ("A", "B"), .serve 0 true, .callback 0 "C",
    .serve 0 true, .callback 0 "D", .serve 0 true, .serve 1 true]

theorem published_one_id_without_images :
    ∃ final publication, sellerMarket.run sellerDouble sellerLink plainPublication = some final ∧
      final.publications[0]? = some publication ∧
      ((∃ id, OneId (Transition.log (Market.step sellerDouble sellerLink) Market.written sellerMarket plainPublication)
        0 id) ↔ publication.images = []) := by
  refine ⟨_, _, rfl, rfl, published_one_id_iff sellerDouble sellerLink rfl rfl rfl rfl ?_⟩
  exact ⟨"B", _, List.mem_cons_self⟩

/-- The image stays in the folder of the first identifier while the item is written under another one. -/
theorem image_folder_has_other_id :
    (∃ final, sellerMarket.run sellerDouble sellerLink imagePublication = some final) ∧
      (∃ name data, .document 0 name data ∈
        Transition.log (Market.step sellerDouble sellerLink) Market.written sellerMarket imagePublication) ∧
      ¬ ∃ id, OneId (Transition.log (Market.step sellerDouble sellerLink) Market.written sellerMarket imagePublication)
        0 id := by
  have stored : Transition.log (Market.step sellerDouble sellerLink) Market.written sellerMarket imagePublication =
      [.file 0 ["ItemImages", "A", "0.jpg"],
        .document 0 "D" (itemDictionaryFrom
          { id := "D", name := "Shirt", categoryId := "c", description := "A shirt", price := sellerDouble "1",
            imageLinks := some [sellerLink ["ItemImages", "A", "0.jpg"]] }),
        .record 0 "D"] := rfl
  rw [stored]
  refine ⟨⟨_, rfl⟩, ⟨"D", _, List.mem_cons_of_mem _ List.mem_cons_self⟩, ?_⟩
  rintro ⟨id, one⟩
  have folder : StoragePath.folder ["ItemImages", "A", "0.jpg"] = ["ItemImages", id] :=
    one.folder _ List.mem_cons_self
  have record : "D" = id := one.record "D" (List.mem_cons_of_mem _ (List.mem_cons_of_mem _ List.mem_cons_self))
  subst record
  exact absurd folder (by decide)

end ShoppingApp
