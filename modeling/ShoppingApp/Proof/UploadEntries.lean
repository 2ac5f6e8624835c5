import Mathlib.Data.List.Perm.Subperm
import ShoppingApp.Library.Pool
import ShoppingApp.Proof.ItemIds

namespace ShoppingApp

/-- An image is stored, `saveImageInFirebase` reports it with its link or nil, and `uploadImages` delivers the links. -/
inductive UploadEntry where
  | stored (publication : Nat) (fileName : StoragePath)
  | reported (publication : Nat) (fileName : StoragePath) (imageLink : Option String)
  | delivered (publication : Nat) (imagesLinks : List String)

/-- The request stores an image of the publication or asks for its link. -/
def PublishRequest.upload (number : Nat) : PublishRequest → Option StoragePath
  | .putData publication fileName _ | .downloadURL publication fileName =>
      if publication = number then some fileName else none
  | .setItem _ _ _ | .addObject _ _ _ | .setCategory _ _ => none

/-- The image that has been reported for the publication. -/
def UploadEntry.reportedFile (number : Nat) : UploadEntry → Option StoragePath
  | .reported publication fileName _ => if publication = number then some fileName else none
  | .stored _ _ | .delivered _ _ => none

/-- The link that has been reported for the publication. -/
def UploadEntry.reportedLink (number : Nat) : UploadEntry → Option String
  | .reported publication _ imageLink => if publication = number then imageLink else none
  | .stored _ _ | .delivered _ _ => none

/-- The image that has been reported for the publication with a link. -/
def UploadEntry.linkedFile (number : Nat) : UploadEntry → Option StoragePath
  | .reported publication fileName (some _) => if publication = number then some fileName else none
  | .reported _ _ none | .stored _ _ | .delivered _ _ => none

/-- The links that have been delivered for the publication. -/
def UploadEntry.deliveredLinks (number : Nat) : UploadEntry → Option (List String)
  | .delivered publication imagesLinks => if publication = number then some imagesLinks else none
  | .stored _ _ | .reported _ _ _ => none

/-- The files of a publication, in the order of the selection of its images. -/
def Publication.fileNames (publication : Publication) : List StoragePath :=
  (List.range publication.images.length).map (imageFileName publication.itemId)

/-- The completion of `saveImageInFirebase` gets a link or nil, once the image is stored and its link is known. -/
def PublishRequest.reports : PublishRequest → PublishReply → List UploadEntry
  | .putData _ _ _, .done => []
  | .downloadURL number fileName, .url absoluteString => [.reported number fileName (some absoluteString)]
  | .putData number fileName _, _ | .downloadURL number fileName, _ => [.reported number fileName none]
  | _, _ => []

/-- An entry belongs to one publication. -/
def UploadEntry.publication : UploadEntry → Nat
  | .stored publication _ | .reported publication _ _ | .delivered publication _ => publication

/-- A link is asked for once its file is stored, and it is the link of the file. -/
def PublishFlight.Linked (link : StoragePath → String) (past : List UploadEntry) (flight : PublishFlight) : Prop :=
  match flight.request with
  | .putData number fileName _ => flight.reply = some .done → .stored number fileName ∈ past
  | .downloadURL number fileName => .stored number fileName ∈ past ∧
      ∀ absoluteString, flight.reply = some (.url absoluteString) → absoluteString = link fileName
  | .setItem _ _ _ | .addObject _ _ _ | .setCategory _ _ => True

namespace Market

/-- The images of the publication that are still on their way. -/
def awaitedFiles (market : Market) (number : Nat) : List StoragePath :=
  market.flights.filterMap fun flight => flight.request.upload number

/-- The completion of `uploadImages` puts the links that it gets into the item of its publication, and it writes the
item. -/
def delivery (market : Market) (flight : PublishFlight) : Option UploadEntry :=
  match flight.request with
  | .setItem number _ _ => some (.delivered number
      ((market.publications[number]?.bind fun publication => publication.item.imageLinks).getD []))
  | .putData _ _ _ | .downloadURL _ _ | .addObject _ _ _ | .setCategory _ _ => none

/-- The deliveries between two states show in the requests that have been added. -/
def deliveries (market next : Market) : List UploadEntry :=
  (next.flights.drop market.flights.length).filterMap next.delivery

/-- What an event stores, reports, and delivers. -/
def uploadEntries (market : Market) : MarketEvent → List UploadEntry
  | .serve index true =>
      match market.flights[index]? with
      | some ⟨.putData number fileName _, none⟩ => [.stored number fileName]
      | _ => []
  | .callback index uuid =>
      match market.flights[index]? with
      | some ⟨request, some reply⟩ =>
          if market.stopped request then []
          else
            let erased : Market :=
              { market with flights := market.flights.eraseIdx index, used := uuid :: market.used }
            request.reports reply ++ erased.deliveries (erased.complete uuid request reply)
      | _ => []
  | _ => []

/-- Each image of a publication is on its way or reported at most once, and the publication has collected the reported
links and delivered nothing before the last of them. -/
structure Collects (past : List UploadEntry) (market : Market) (number : Nat) (publication : Publication) : Prop where
  screen : publication.screen < market.screens.length
  files : (market.awaitedFiles number ++ past.filterMap (UploadEntry.reportedFile number)).Subperm publication.fileNames
  links : publication.imageLinkArray = past.filterMap (UploadEntry.reportedLink number)
  counted : publication.uploadedImageCount = publication.imageLinkArray.length
  once : (past.filterMap (UploadEntry.deliveredLinks number)).length ≤ 1
  waiting : publication.uploadedImageCount < publication.images.length →
    past.filterMap (UploadEntry.deliveredLinks number) = []

/-- Every publication collects its links, and what is on its way or reported belongs to a publication. -/
structure Uploading (link : StoragePath → String) (past : List UploadEntry) (market : Market) : Prop where
  awaited : ∀ number, market.awaitedFiles number ≠ [] → number < market.publications.length
  known : ∀ entry ∈ past, entry.publication < market.publications.length
  flights : ∀ flight ∈ market.flights, flight.Linked link past
  linked : ∀ number fileName imageLink, .reported number fileName (some imageLink) ∈ past →
    imageLink = link fileName ∧ .stored number fileName ∈ past
  collects : ∀ number publication, market.publications[number]? = some publication →
    market.Collects past number publication

end Market

/-- The closure of `uploadImages` collects and counts its link. -/
theorem Publication.imageSaved_collects {number : Nat} {uuid : String} {imageLink : Option String}
    {screen : AddItemScreen} {publication : Publication} {outcome : PublishOutcome}
    (handled : publication.imageSaved number uuid imageLink screen = outcome) :
    outcome.publication.screen = publication.screen ∧ outcome.publication.itemId = publication.itemId ∧
      outcome.publication.images = publication.images ∧
      outcome.publication.imageLinkArray = publication.imageLinkArray ++ imageLink.toList ∧
      outcome.publication.uploadedImageCount = publication.uploadedImageCount + imageLink.toList.length := by
  rw [← handled]
  unfold imageSaved
  cases imageLink with
  | none => exact ⟨rfl, rfl, rfl, (List.append_nil _).symm, rfl⟩
  | some imageLink =>
      dsimp only
      split <;> exact ⟨rfl, rfl, rfl, rfl, rfl⟩

/-- The last link is saved with the item, and before it nothing is requested. -/
theorem Publication.imageSaved_issues {number : Nat} {uuid : String} {imageLink : Option String}
    {screen : AddItemScreen} {publication : Publication} {outcome : PublishOutcome}
    (handled : publication.imageSaved number uuid imageLink screen = outcome) :
    outcome.issued = [] ∨
      outcome.publication.uploadedImageCount = outcome.publication.images.length ∧
        outcome.publication.item.imageLinks = some outcome.publication.imageLinkArray ∧
        ∃ data, outcome.issued = [.setItem number uuid data, .addObject number data uuid] := by
  rw [← handled]
  unfold imageSaved
  cases imageLink with
  | none => exact .inl rfl
  | some imageLink =>
      dsimp only
      split
      · rename_i last
        exact .inr ⟨last, rfl, _, rfl⟩
      · exact .inl rfl

/-- The closure puts no image on its way. -/
theorem Publication.imageSaved_silent {number : Nat} {uuid : String} {imageLink : Option String}
    {screen : AddItemScreen} {publication : Publication} {outcome : PublishOutcome}
    (handled : publication.imageSaved number uuid imageLink screen = outcome) :
    ∀ request ∈ outcome.issued, (∀ other, request.upload other = none) ∧
      ∀ link past, PublishFlight.Linked link past ⟨request, none⟩ := by
  rcases imageSaved_issues handled with issued | ⟨_, _, data, issued⟩
  · rw [issued]
    exact fun request member => absurd member List.not_mem_nil
  · rw [issued]
    intro request member
    rcases List.mem_pair.mp member with rfl | rfl
    · exact ⟨fun _ => rfl, fun _ _ => trivial⟩
    · exact ⟨fun _ => rfl, fun _ _ => trivial⟩

/-- A publication starts on its own screen without links. -/
theorem AddItemScreen.saveToFireStore_starts (double : String → Option Double) (connected : Bool)
    (uuids : String × String) (own number : Nat) (screen : AddItemScreen) :
    (screen.saveToFireStore double connected uuids own number).publication.screen = own ∧
      (screen.saveToFireStore double connected uuids own number).publication.imageLinkArray = [] := by
  unfold saveToFireStore
  dsimp only
  split
  · split <;> exact ⟨rfl, rfl⟩
  · exact ⟨rfl, rfl⟩

/-- The numbers of two different images differ in their file names. -/
theorem imageFileName_injective (itemId : String) : Function.Injective (imageFileName itemId) := by
  intro first second same
  simp only [imageFileName, List.cons.injEq, and_true, true_and] at same
  have digits := congrArg String.toList same
  rw [String.toList_append, String.toList_append] at digits
  have repr := List.append_cancel_right digits
  change first.repr.toList = second.repr.toList at repr
  rw [Nat.toList_repr, Nat.toList_repr] at repr
  calc
    first = Nat.ofDigitChars 10 (Nat.toDigits 10 first) 0 := Nat.ofDigitChars_ten_toDigits.symm
    _ = Nat.ofDigitChars 10 (Nat.toDigits 10 second) 0 := by rw [repr]
    _ = second := Nat.ofDigitChars_ten_toDigits

namespace UploadEntry

variable {entry : UploadEntry} {number : Nat}

/-- The views of a publication do not see the entries of another one. -/
theorem views_other (other : entry.publication ≠ number) :
    entry.reportedFile number = none ∧ entry.reportedLink number = none ∧ entry.deliveredLinks number = none := by
  cases entry with
  | stored publication fileName => exact ⟨rfl, rfl, rfl⟩
  | reported publication fileName imageLink => exact ⟨if_neg other, if_neg other, rfl⟩
  | delivered publication imagesLinks => exact ⟨rfl, rfl, if_neg other⟩

/-- Nothing is seen of a publication without entries. -/
theorem views_unknown {past : List UploadEntry} (unknown : ∀ entry ∈ past, entry.publication ≠ number) :
    past.filterMap (reportedFile number) = [] ∧ past.filterMap (reportedLink number) = [] ∧
      past.filterMap (deliveredLinks number) = [] :=
  ⟨List.filterMap_eq_nil_iff.mpr fun entry member => (views_other (unknown entry member)).1,
    List.filterMap_eq_nil_iff.mpr fun entry member => (views_other (unknown entry member)).2.1,
    List.filterMap_eq_nil_iff.mpr fun entry member => (views_other (unknown entry member)).2.2⟩

/-- A file with a link is a reported file. -/
theorem linkedFiles_sublist (past : List UploadEntry) (number : Nat) :
    (past.filterMap (linkedFile number)).Sublist (past.filterMap (reportedFile number)) := by
  induction past with
  | nil => exact List.Sublist.refl []
  | cons entry rest ih =>
      have file : entry.linkedFile number = none ∨ entry.linkedFile number = entry.reportedFile number := by
        cases entry with
        | stored publication fileName => exact .inl rfl
        | delivered publication imagesLinks => exact .inl rfl
        | reported publication fileName imageLink =>
            cases imageLink with
            | none => exact .inl rfl
            | some imageLink => exact .inr rfl
      rcases file with none | same
      · rw [List.filterMap_cons_none none]
        exact ih.trans (List.Sublist.filterMap _ (List.sublist_cons_self entry rest))
      · rw [List.filterMap_cons, List.filterMap_cons, same]
        split
        · exact ih
        · exact ih.cons_cons _

/-- The reported links are the links of their files. -/
theorem links_eq {link : StoragePath → String} {past : List UploadEntry}
    (linked : ∀ number fileName imageLink, .reported number fileName (some imageLink) ∈ past →
      imageLink = link fileName ∧ .stored number fileName ∈ past) (number : Nat) :
    past.filterMap (reportedLink number) = (past.filterMap (linkedFile number)).map link := by
  rw [List.map_filterMap]
  refine List.filterMap_congr fun entry member => ?_
  cases entry with
  | stored publication fileName => rfl
  | delivered publication imagesLinks => rfl
  | reported publication fileName imageLink =>
      by_cases own : publication = number
      · cases imageLink with
        | none => simp [reportedLink, linkedFile, own]
        | some imageLink => simp [reportedLink, linkedFile, own, (linked _ _ _ member).1]
      · cases imageLink <;> simp [reportedLink, linkedFile, own]

/-- A file with a link is stored. -/
theorem stored_of_linkedFile {link : StoragePath → String} {past : List UploadEntry} {fileName : StoragePath}
    (linked : ∀ number fileName imageLink, .reported number fileName (some imageLink) ∈ past →
      imageLink = link fileName ∧ .stored number fileName ∈ past)
    (member : fileName ∈ past.filterMap (linkedFile number)) : .stored number fileName ∈ past := by
  obtain ⟨entry, inside, shown⟩ := List.mem_filterMap.mp member
  cases entry with
  | stored publication other => cases shown
  | delivered publication imagesLinks => cases shown
  | reported publication other imageLink =>
      cases imageLink with
      | none => cases shown
      | some imageLink =>
          obtain ⟨rfl, same⟩ : publication = number ∧ some other = some fileName := by
            by_cases own : publication = number
            · exact ⟨own, (if_pos own).symm.trans shown⟩
            · exact absurd ((if_neg own).symm.trans shown) nofun
          obtain rfl := Option.some.inj same
          exact (linked publication other imageLink inside).2

end UploadEntry

theorem PublishFlight.Linked.mono {link : StoragePath → String} {past later : List UploadEntry}
    {flight : PublishFlight} (linked : flight.Linked link past) (grows : past ⊆ later) : flight.Linked link later := by
  obtain ⟨request, reply⟩ := flight
  cases request with
  | putData number fileName imageData => exact fun done => grows (linked done)
  | downloadURL number fileName => exact ⟨grows linked.1, linked.2⟩
  | setItem number name data => trivial
  | addObject number object withID => trivial
  | setCategory name data => trivial

/-- The loop numbers the files in the order of the images and stops at the trap. -/
theorem uploadImages_files (number : Nat) (itemId : String) (nameSuffix : Nat) (images : List (Option UIImage)) :
    ∃ count ≤ images.length, (uploadImages number itemId nameSuffix images).1.filterMap (PublishRequest.upload number) =
      (List.range' nameSuffix count).map (imageFileName itemId) := by
  induction images generalizing nameSuffix with
  | nil => exact ⟨0, Nat.le_refl 0, rfl⟩
  | cons image rest ih =>
      unfold uploadImages
      cases image.bind UIImage.jpegData with
      | none => exact ⟨0, Nat.zero_le _, rfl⟩
      | some imageData =>
          obtain ⟨count, fewer, files⟩ := ih (nameSuffix + 1)
          refine ⟨count + 1, Nat.succ_le_succ fewer, ?_⟩
          have own : PublishRequest.upload number (.putData number (imageFileName itemId nameSuffix) imageData) =
              some (imageFileName itemId nameSuffix) := if_pos rfl
          rw [List.filterMap_cons_some own, files, List.range'_succ, List.map_cons]

namespace Market

variable {market next : Market} {link : StoragePath → String} {past : List UploadEntry}

/-- A handler delivers the links of the item that it writes. -/
theorem deliveries_imageSaved {number : Nat} {uuid : String} {imageLink : Option String} {screen : AddItemScreen}
    {publication : Publication} {outcome : PublishOutcome} (present : market.publications[number]? = some publication)
    (handled : publication.imageSaved number uuid imageLink screen = outcome) :
    market.deliveries (market.perform number outcome) = [] ∨
      outcome.publication.uploadedImageCount = outcome.publication.images.length ∧
        outcome.publication.item.imageLinks = some outcome.publication.imageLinkArray ∧
        market.deliveries (market.perform number outcome) =
          [.delivered number outcome.publication.imageLinkArray] := by
  have added : (market.perform number outcome).flights.drop market.flights.length =
      outcome.issued.map fun request => ⟨request, none⟩ := List.drop_left
  have saved : (market.perform number outcome).publications[number]? = some outcome.publication :=
    List.getElem?_set_self (List.getElem?_eq_some_iff.mp present).1
  unfold deliveries
  rw [added]
  rcases Publication.imageSaved_issues handled with issued | ⟨last, links, data, issued⟩
  · rw [issued]
    exact .inl rfl
  · refine .inr ⟨last, links, ?_⟩
    rw [issued]
    simp [delivery, saved, links]

/-- The entries of a report show its file and its link, and its deliveries. -/
theorem report_views {number : Nat} {delivered : List UploadEntry} (fileName : StoragePath)
    (imageLink : Option String) (only : ∀ entry ∈ delivered, ∃ imagesLinks, entry = .delivered number imagesLinks) :
    (.reported number fileName imageLink :: delivered).filterMap (UploadEntry.reportedFile number) = [fileName] ∧
      (.reported number fileName imageLink :: delivered).filterMap (UploadEntry.reportedLink number) =
        imageLink.toList ∧
      (.reported number fileName imageLink :: delivered).filterMap (UploadEntry.deliveredLinks number) =
        delivered.filterMap (UploadEntry.deliveredLinks number) := by
  have silent {View : Type} (view : UploadEntry → Option View)
      (hidden : ∀ imagesLinks, view (.delivered number imagesLinks) = none) : delivered.filterMap view = [] := by
    refine List.filterMap_eq_nil_iff.mpr fun entry member => ?_
    obtain ⟨imagesLinks, rfl⟩ := only entry member
    exact hidden imagesLinks
  refine ⟨?_, ?_, List.filterMap_cons_none rfl⟩
  · have own : UploadEntry.reportedFile number (.reported number fileName imageLink) = some fileName := if_pos rfl
    rw [List.filterMap_cons_some own, silent _ fun _ => rfl]
  · have own : UploadEntry.reportedLink number (.reported number fileName imageLink) = imageLink := if_pos rfl
    rw [List.filterMap_cons, own, silent _ fun _ => rfl]
    cases imageLink <;> rfl

/-- A completion reports an image, asks for the link of a stored one, or does nothing. -/
theorem complete_cases (uuid : String) (market : Market) (request : PublishRequest) (reply : PublishReply) :
    (∃ number fileName imageLink, request.reports reply = [.reported number fileName imageLink] ∧
      (∀ other, request.upload other = if number = other then some fileName else none) ∧
      (∀ absoluteString, imageLink = some absoluteString →
        request = .downloadURL number fileName ∧ reply = .url absoluteString) ∧
      market.complete uuid request reply = market.imageSaved uuid number imageLink) ∨
    request.reports reply = [] ∧
      ((∃ number fileName imageData, request = .putData number fileName imageData ∧ reply = .done ∧
        market.complete uuid request reply =
          { market with flights := market.flights ++ [⟨.downloadURL number fileName, none⟩] }) ∨
        market.complete uuid request reply = market) := by
  cases request with
  | putData number fileName imageData =>
      cases reply with
      | done => exact .inr ⟨rfl, .inl ⟨number, fileName, imageData, rfl, rfl, rfl⟩⟩
      | failed => exact .inl ⟨number, fileName, none, rfl, fun _ => rfl, fun _ absent => (by cases absent), rfl⟩
      | url absoluteString =>
          exact .inl ⟨number, fileName, none, rfl, fun _ => rfl, fun _ absent => (by cases absent), rfl⟩
  | downloadURL number fileName =>
      cases reply with
      | url absoluteString =>
          refine .inl ⟨number, fileName, some absoluteString, rfl, fun _ => rfl, fun other same => ?_, rfl⟩
          exact ⟨rfl, congrArg PublishReply.url (Option.some.inj same)⟩
      | failed => exact .inl ⟨number, fileName, none, rfl, fun _ => rfl, fun _ absent => (by cases absent), rfl⟩
      | done => exact .inl ⟨number, fileName, none, rfl, fun _ => rfl, fun _ absent => (by cases absent), rfl⟩
  | setItem number name data => exact .inr ⟨rfl, .inr rfl⟩
  | addObject number object withID => exact .inr ⟨rfl, .inr rfl⟩
  | setCategory name data => exact .inr ⟨rfl, .inr rfl⟩

/-- A completion that reports nothing delivers nothing. -/
theorem deliveries_unreported {request : PublishRequest} {reply : PublishReply} (uuid : String)
    (silent : request.reports reply = []) : market.deliveries (market.complete uuid request reply) = [] := by
  rcases complete_cases uuid market request reply with
    ⟨number, fileName, imageLink, reports, _⟩ | ⟨_, ⟨number, fileName, imageData, _, _, same⟩ | same⟩
  · cases silent.symm.trans reports
  · simp [deliveries, same, delivery]
  · simp [deliveries, same]

/-- A callback records a report or a delivery. -/
theorem entry_of_callback {index : Nat} {uuid : String} {entry : UploadEntry}
    (recorded : entry ∈ market.uploadEntries (.callback index uuid)) :
    (∃ number fileName imageLink, entry = .reported number fileName imageLink) ∨
      ∃ number imagesLinks, entry = .delivered number imagesLinks := by
  simp only [uploadEntries] at recorded
  split at recorded
  · rename_i request reply _
    split at recorded
    · cases recorded
    · rcases List.mem_append.mp recorded with report | delivered
      · rcases complete_cases uuid market request reply with ⟨number, fileName, imageLink, reports, _⟩ | ⟨silent, _⟩
        · rw [reports] at report
          exact .inl ⟨number, fileName, imageLink, List.mem_singleton.mp report⟩
        · rw [silent] at report
          cases report
      · obtain ⟨⟨request, _⟩, _, shown⟩ := List.mem_filterMap.mp delivered
        cases request with
        | setItem number name data => exact .inr ⟨number, _, (Option.some.inj shown).symm⟩
        | _ => cases shown
  · cases recorded

/-- A callback stores no image. -/
theorem not_stored_of_callback {index number : Nat} {uuid : String} {fileName : StoragePath} :
    .stored number fileName ∉ market.uploadEntries (.callback index uuid) := by
  intro stored
  rcases entry_of_callback stored with ⟨_, _, _, impossible⟩ | ⟨_, _, impossible⟩
  · cases impossible
  · cases impossible

/-- Links are delivered by a callback. -/
theorem callback_of_delivered {event : MarketEvent} {number : Nat} {imagesLinks : List String}
    (delivered : .delivered number imagesLinks ∈ market.uploadEntries event) :
    ∃ index uuid, event = .callback index uuid := by
  unfold uploadEntries at delivered
  split at delivered
  · split at delivered
    · cases List.mem_singleton.mp delivered
    · cases delivered
  · exact ⟨_, _, rfl⟩
  · cases delivered

end Market

end ShoppingApp
