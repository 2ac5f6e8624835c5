import ShoppingApp.Proof.References

namespace ShoppingApp

/-- The file that the request stores. -/
def PublishRequest.file : PublishRequest → Option (StoragePath × ImageData)
  | .putData _ fileName imageData => some (fileName, imageData)
  | .downloadURL _ _ | .setItem _ _ _ | .addObject _ _ _ | .setCategory _ _ => none

/-- An album is the folder of a publication with its images. -/
def Publication.album (publication : Publication) : String × List (Option UIImage) :=
  (publication.itemId, publication.images)

/-- The file is an encoded image of one of the albums under the number of the image. -/
def IsPicture (albums : List (String × List (Option UIImage))) (file : StoragePath × ImageData) : Prop :=
  ∃ album ∈ albums, ∃ nameSuffix image, album.2[nameSuffix]? = some image ∧
    image.bind UIImage.jpegData = some file.2 ∧ file.1 = imageFileName album.1 nameSuffix

namespace Market

def albums (market : Market) : List (String × List (Option UIImage)) := market.publications.map Publication.album

/-- The files that are on their way to the storage. -/
def files (market : Market) : List (StoragePath × ImageData) :=
  market.flights.filterMap fun flight => flight.request.file

/-- A step starts the files of a new album, stores one of them, or leaves the albums and the storage. -/
inductive Stores (market next : Market) : Prop where
  | keep (albums : next.albums = market.albums) (files : next.files ⊆ market.files)
      (storage : next.storage = market.storage) (used : market.used ⊆ next.used)
  | start (album : String × List (Option UIImage)) (unused : album.1 ∉ market.used) (drawn : album.1 ∈ next.used)
      (albums : next.albums = market.albums ++ [album])
      (files : ∀ file ∈ next.files, file ∈ market.files ∨ IsPicture [album] file)
      (storage : next.storage = market.storage) (used : market.used ⊆ next.used)
  | store (file : StoragePath × ImageData) (waited : file ∈ market.files) (albums : next.albums = market.albums)
      (files : next.files ⊆ market.files)
      (storage : next.storage = file :: market.storage.filter fun other => decide (other.1 ≠ file.1))
      (used : market.used ⊆ next.used)

/-- The albums have different folders, and every file is a picture of them. -/
structure Pictured (market : Market) : Prop where
  folders : (market.albums.map Prod.fst).Nodup
  used : ∀ album ∈ market.albums, album.1 ∈ market.used
  waiting : ∀ file ∈ market.files, IsPicture market.albums file
  stored : ∀ file ∈ market.storage, IsPicture market.albums file

/-- The document is the one of a publication that has counted all of its images. -/
def Settles (market : Market) (number : Nat) (data : Dictionary) : Prop :=
  ∃ publication, market.publications[number]? = some publication ∧ publication.Complete ∧
    data = itemDictionaryFrom publication.item

/-- The stored items have the links of their stored pictures. -/
structure Illustrated (link : StoragePath → String) (past : List UploadEntry) (market : Market) : Prop where
  uploading : market.Uploading link past
  pictured : market.Pictured
  files : ∀ number fileName, .stored number fileName ∈ past → ∃ imageData, (fileName, imageData) ∈ market.storage
  waiting : ∀ document ∈ market.documents, market.Settles document.1 document.2
  stored : ∀ name data, market.shop.store.data .items name = some data → ∃ number, market.Settles number data

end Market

theorem IsPicture.mono {albums later : List (String × List (Option UIImage))} {file : StoragePath × ImageData}
    (picture : IsPicture albums file) (grows : albums ⊆ later) : IsPicture later file := by
  obtain ⟨album, member, picture⟩ := picture
  exact ⟨album, grows member, picture⟩

/-- The loop stores the encoded images under their numbers. -/
theorem uploadImages_pictures (number : Nat) (itemId : String) (nameSuffix : Nat) (images : List (Option UIImage)) :
    ∀ file ∈ (uploadImages number itemId nameSuffix images).1.filterMap PublishRequest.file,
      ∃ place image, images[place]? = some image ∧ image.bind UIImage.jpegData = some file.2 ∧
        file.1 = imageFileName itemId (nameSuffix + place) := by
  induction images generalizing nameSuffix with
  | nil => exact fun file member => absurd member List.not_mem_nil
  | cons image rest ih =>
      intro file member
      unfold uploadImages at member
      cases encoded : image.bind UIImage.jpegData with
      | none =>
          rw [encoded] at member
          exact absurd member List.not_mem_nil
      | some imageData =>
          rw [encoded] at member
          rcases List.mem_cons.mp member with rfl | later
          · exact ⟨0, image, rfl, encoded, rfl⟩
          · obtain ⟨place, found, present, encodes, named⟩ := ih (nameSuffix + 1) file later
            refine ⟨place + 1, found, present, encodes, ?_⟩
            rw [named, Nat.add_assoc, Nat.add_comm 1]

/-- The Done tap starts the files of its album. -/
theorem AddItemScreen.saveToFireStore_pictures (double : String → Option Double) (connected : Bool)
    (uuids : String × String) (own number : Nat) (screen : AddItemScreen) :
    (screen.saveToFireStore double connected uuids own number).publication.album = (uuids.1, screen.itemImages) ∧
      ∀ file ∈ (screen.saveToFireStore double connected uuids own number).issued.filterMap PublishRequest.file,
        IsPicture [(uuids.1, screen.itemImages)] file := by
  obtain ⟨itemId, images, _, kinds⟩ := saveToFireStore_cases double connected uuids own number screen
  refine ⟨by rw [Publication.album, itemId, images], fun file member => ?_⟩
  rcases kinds with ⟨_, issued⟩ | ⟨_, _, issued⟩ | ⟨_, _, issued⟩
  · rw [issued] at member
    exact absurd member List.not_mem_nil
  · rw [issued] at member
    obtain ⟨place, image, present, encoded, named⟩ :=
      uploadImages_pictures number uuids.1 0 screen.itemImages file member
    rw [Nat.zero_add] at named
    exact ⟨_, List.mem_singleton.mpr rfl, place, image, present, encoded, named⟩
  · rw [issued] at member
    exact absurd member List.not_mem_nil

/-- A reported image keeps the album, and it stores no file. -/
theorem Publication.imageSaved_album (number : Nat) (uuid : String) (imageLink : Option String) (screen : AddItemScreen)
    (publication : Publication) :
    (publication.imageSaved number uuid imageLink screen).publication.album = publication.album ∧
      (publication.imageSaved number uuid imageLink screen).issued.filterMap PublishRequest.file = [] := by
  have kept := Publication.imageSaved_collects (rfl : publication.imageSaved number uuid imageLink screen = _)
  refine ⟨Prod.ext kept.2.1 kept.2.2.1, ?_⟩
  rcases Publication.imageSaved_issues (rfl : publication.imageSaved number uuid imageLink screen = _) with
    issued | ⟨_, _, data, issued⟩
  · rw [issued]
    rfl
  · rw [issued]
    rfl

namespace Market

variable {market next : Market} {double : String → Option Double} {link : StoragePath → String} {event : MarketEvent}
  {past : List UploadEntry}

theorem files_perform (market : Market) (number : Nat) (outcome : PublishOutcome) :
    (market.perform number outcome).files = market.files ++ outcome.issued.filterMap PublishRequest.file := by
  unfold files perform
  rw [List.filterMap_append, List.filterMap_map]
  rfl

/-- A completion keeps the albums, and it stores no file. -/
theorem complete_albums (uuid : String) (market : Market) (request : PublishRequest) (reply : PublishReply) :
    (market.complete uuid request reply).albums = market.albums ∧
      (market.complete uuid request reply).files = market.files ∧
      (market.complete uuid request reply).storage = market.storage ∧
      (market.complete uuid request reply).used = market.used := by
  rcases complete_cases uuid market request reply with
    ⟨number, fileName, imageLink, _, _, _, same⟩ | ⟨_, ⟨number, fileName, imageData, _, _, same⟩ | same⟩
  · rw [same]
    rcases imageSaved_cases uuid number imageLink market with same | ⟨publication, screen, present, _, same⟩
    · rw [same]
      exact ⟨rfl, rfl, rfl, rfl⟩
    · rw [same]
      obtain ⟨album, silent⟩ := publication.imageSaved_album number uuid imageLink screen
      refine ⟨?_, ?_, rfl, rfl⟩
      · exact Pool.map_set_same Publication.album present album
      · rw [files_perform, silent, List.append_nil]
  · rw [same]
    refine ⟨rfl, Pool.filterMap_append_silent _ fun flight member => ?_, rfl, rfl⟩
    rw [List.mem_singleton.mp member]
    rfl
  · rw [same]
    exact ⟨rfl, rfl, rfl, rfl⟩

/-- Each step starts an album, stores a file, or leaves them. -/
theorem stores_of_step (taken : market.step double link event = some next) : market.Stores next := by
  have edited {own : Nat} {change : AddItemScreen → AddItemScreen} (taken : market.edit own change = some next) :
      market.Stores next := by
    obtain ⟨screens, rfl⟩ := edit_screens taken
    exact .keep rfl (List.Subset.refl _) rfl (List.Subset.refl _)
  cases event with
  | shop event =>
      obtain ⟨_, shop, _, rfl⟩ := step_shop taken
      exact .keep rfl (List.Subset.refl _) rfl (List.subset_append_right _ _)
  | openAddItem device category =>
      obtain rfl := Option.some.inj taken
      exact .keep rfl (List.Subset.refl _) rfl (List.Subset.refl _)
  | editFields own title price description => exact edited taken
  | cameraButtonWasTapped own => exact edited taken
  | didSelectImages own resolvedImages => exact edited taken
  | doneButtonWasTapped own connected uuids =>
      obtain ⟨screen, _, _, ⟨_, rfl⟩ | ⟨_, unused, _, _, rfl⟩⟩ := step_doneButtonWasTapped taken
      · exact .keep rfl (List.Subset.refl _) rfl (List.Subset.refl _)
      · obtain ⟨album, pictures⟩ :=
          screen.saveToFireStore_pictures double connected uuids own market.publications.length
        generalize screen.saveToFireStore double connected uuids own market.publications.length = outcome at *
        refine .start (uuids.1, screen.itemImages) unused List.mem_cons_self ?_ (fun file member => ?_) rfl
          fun uuid member => List.mem_cons_of_mem _ (List.mem_cons_of_mem _ member)
        · rw [albums, perform, List.set_append_right _ _ (Nat.le_refl _), Nat.sub_self, List.set_cons_zero,
            List.map_append, List.map_singleton, album]
          rfl
        · rw [files_perform] at member
          exact (List.mem_append.mp member).imp id (pictures file)
  | saveCategoryToFireStore category uuid =>
      obtain ⟨_, rfl⟩ := step_saveCategoryToFireStore taken
      refine .keep rfl (List.Perm.subset (.of_eq ?_)) rfl (List.subset_cons_self _ _)
      exact Pool.filterMap_append_silent _ fun flight member => by
        rw [List.mem_singleton.mp member]
        rfl
  | serve index succeeds =>
      obtain ⟨request, found, ⟨_, rfl⟩ | ⟨_, rfl⟩⟩ := step_serve taken
      · obtain ⟨publications, flights, used⟩ := apply_keeps link market request
        have albums : (market.apply link request).1.albums = market.albums :=
          congrArg (List.map Publication.album) publications
        have fewer : (((market.apply link request).1.flights.set index
            ⟨request, some (market.apply link request).2⟩).filterMap fun flight => flight.request.file) ⊆
              market.files := by
          rw [flights]
          exact List.Perm.subset (.of_eq (Pool.filterMap_set_same _ found rfl))
        cases stored : request.file with
        | none =>
            refine .keep albums fewer ?_ (List.Perm.subset (.of_eq used.symm))
            cases request with
            | putData number fileName imageData => cases stored
            | _ => rfl
        | some file =>
            refine .store file (List.mem_filterMap.mpr ⟨_, List.mem_of_getElem? found, stored⟩) albums fewer ?_
              (List.Perm.subset (.of_eq used.symm))
            cases request with
            | putData number fileName imageData =>
                obtain rfl := Option.some.inj stored
                rfl
            | _ => cases stored
      · exact .keep rfl (List.Perm.subset (.of_eq (Pool.filterMap_set_same _ found rfl))) rfl (List.Subset.refl _)
  | callback index uuid =>
      obtain ⟨request, reply, _, _, ⟨_, rfl⟩ | ⟨_, rfl⟩⟩ := step_callback taken
      · exact .keep rfl (List.Sublist.filterMap _ (List.eraseIdx_sublist ..)).subset rfl (List.subset_cons_self _ _)
      · obtain ⟨albums, files, storage, used⟩ := complete_albums uuid
          { market with flights := market.flights.eraseIdx index, used := uuid :: market.used } request reply
        refine .keep albums ?_ storage (used ▸ List.subset_cons_self _ _)
        exact files ▸ (List.Sublist.filterMap _ (List.eraseIdx_sublist ..)).subset

/-- The albums only grow. -/
theorem Stores.grows (stores : market.Stores next) : market.albums ⊆ next.albums := by
  cases stores with
  | keep albums files storage used => exact List.Perm.subset (.of_eq albums.symm)
  | start album unused drawn albums files storage used => exact albums ▸ List.subset_append_left _ _
  | store file waited albums files storage used => exact List.Perm.subset (.of_eq albums.symm)

/-- A stored file is replaced by a file of its name alone. -/
theorem Stores.keeps_file (stores : market.Stores next) {fileName : StoragePath}
    (stored : ∃ imageData, (fileName, imageData) ∈ market.storage) :
    ∃ imageData, (fileName, imageData) ∈ next.storage := by
  cases stores with
  | keep albums files storage used => exact storage ▸ stored
  | start album unused drawn albums files storage used => exact storage ▸ stored
  | store file waited albums files storage used =>
      rw [storage]
      by_cases same : fileName = file.1
      · exact ⟨file.2, List.mem_cons.mpr (.inl (Prod.ext same rfl))⟩
      · obtain ⟨imageData, member⟩ := stored
        exact ⟨imageData, List.mem_cons_of_mem _ (List.mem_filter.mpr ⟨member, decide_eq_true same⟩)⟩

/-- Every step stores pictures alone. -/
theorem Pictured.step (pictured : market.Pictured) (stores : market.Stores next) : next.Pictured := by
  have old {file : StoragePath × ImageData} (picture : IsPicture market.albums file) : IsPicture next.albums file :=
    picture.mono stores.grows
  cases stores with
  | keep albums files storage used =>
      refine ⟨albums ▸ pictured.folders, fun album member => ?_, fun file member => ?_, fun file member => ?_⟩
      · exact used (pictured.used album (albums ▸ member))
      · exact old (pictured.waiting file (files member))
      · exact old (pictured.stored file (storage ▸ member))
  | start album unused drawn albums files storage used =>
      refine ⟨?_, fun other member => ?_, fun file member => ?_, fun file member => ?_⟩
      · rw [albums, List.map_append]
        refine List.nodup_append.mpr ⟨pictured.folders, List.nodup_singleton _, ?_⟩
        intro folder earlier later last same
        obtain ⟨before, isOld, rfl⟩ := List.mem_map.mp earlier
        obtain rfl := List.mem_singleton.mp last
        exact unused (same ▸ pictured.used before isOld)
      · rw [albums] at member
        rcases List.mem_append.mp member with isOld | new
        · exact used (pictured.used other isOld)
        · exact List.mem_singleton.mp new ▸ drawn
      · rcases files file member with waited | picture
        · exact old (pictured.waiting file waited)
        · exact picture.mono (albums ▸ List.subset_append_right _ _)
      · exact old (pictured.stored file (storage ▸ member))
  | store file waited albums files storage used =>
      refine ⟨albums ▸ pictured.folders, fun album member => ?_, fun other member => ?_, fun other member => ?_⟩
      · exact used (pictured.used album (albums ▸ member))
      · exact old (pictured.waiting other (files member))
      · rw [storage] at member
        rcases List.mem_cons.mp member with rfl | kept
        · exact old (pictured.waiting other waited)
        · exact old (pictured.stored other (List.mem_filter.mp kept).1)

/-- A publication that has counted all of its images does not change any more. -/
theorem Settles.step {number : Nat} {data : Dictionary} (settles : market.Settles number data)
    (uploading : market.Uploading link past) (taken : market.step double link event = some next) :
    next.Settles number data := by
  obtain ⟨publication, present, complete, written⟩ := settles
  refine ⟨publication, ?_, complete, written⟩
  rcases step_documents taken with ⟨_, publications, _⟩ |
    ⟨own, connected, uuids, screen, outcome, _, _, _, publications, _⟩ |
    ⟨other, reported, screen, uuid, imageLink, outcome, found, awaited, _, _, publications, _⟩
  · exact publications ▸ present
  · rw [publications, List.getElem?_append_left (List.getElem?_eq_some_iff.mp present).1]
    exact present
  · have different : other ≠ number := by
      rintro rfl
      obtain rfl := Option.some.inj (found.symm.trans present)
      exact absurd complete.counted (uploading.unfinished present awaited).ne
    rw [publications]
    exact (List.getElem?_set_ne different).trans present

/-- A new document on its way is the one of a publication that has just finished. -/
theorem settles_of_waiting (settled : ∀ document ∈ market.documents, market.Settles document.1 document.2)
    (uploading : market.Uploading link past) (taken : market.step double link event = some next) :
    ∀ document ∈ next.documents, next.Settles document.1 document.2 := by
  have before (document : Nat × Dictionary) (member : document ∈ market.documents) :=
    (settled document member).step uploading taken
  rcases step_documents taken with ⟨_, _, fewer⟩ |
    ⟨own, connected, uuids, screen, outcome, _, saved, _, publications, documents⟩ |
    ⟨number, publication, screen, uuid, imageLink, outcome, present, _, saved, _, publications, fewer⟩
  · exact fun document member => before document (fewer member)
  · intro document member
    rw [documents] at member
    rcases List.mem_append.mp member with old | new
    · exact before document old
    · obtain ⟨rfl, complete⟩ := (AddItemScreen.saveToFireStore_saves saved).2 document new
      refine ⟨_, ?_, complete, rfl⟩
      rw [publications]
      exact List.getElem?_concat_length
  · intro document member
    rcases List.mem_append.mp (fewer member) with old | new
    · exact before document old
    · obtain ⟨rfl, complete⟩ := (Publication.imageSaved_saves saved).2 document new
      refine ⟨_, ?_, complete, rfl⟩
      rw [publications]
      exact List.getElem?_set_self (List.getElem?_eq_some_iff.mp present).1

/-- An entry of a stored file comes with the file. -/
theorem file_of_uploadEntries (taken : market.step double link event = some next) {number : Nat}
    {fileName : StoragePath} (entry : .stored number fileName ∈ market.uploadEntries event) :
    ∃ imageData, (fileName, imageData) ∈ next.storage := by
  cases event with
  | serve index succeeds =>
      cases succeeds with
      | false => cases entry
      | true =>
          obtain ⟨request, found, ⟨_, rfl⟩ | ⟨impossible, _⟩⟩ := step_serve taken
          · simp only [uploadEntries, found] at entry
            cases request with
            | putData owner path imageData =>
                cases List.mem_singleton.mp entry
                exact ⟨imageData, List.mem_cons_self⟩
            | _ => cases entry
          · cases impossible
  | callback index uuid =>
      exact absurd entry not_stored_of_callback
  | _ => cases entry

theorem Illustrated.step (illustrated : market.Illustrated link past)
    (taken : market.step double link event = some next) :
    next.Illustrated link (past ++ market.uploadEntries event) := by
  obtain ⟨uploading, pictured, files, waiting, stored⟩ := illustrated
  have stores := stores_of_step taken
  refine ⟨uploading.step taken, pictured.step stores, fun number fileName entry => ?_,
    settles_of_waiting waiting uploading taken, fun name data found => ?_⟩
  · rcases List.mem_append.mp entry with old | new
    · exact stores.keeps_file (files number fileName old)
    · exact file_of_uploadEntries taken new
  · rcases stored_of_step taken found with old | ⟨number, waited⟩
    · obtain ⟨number, settles⟩ := stored name data old
      exact ⟨number, settles.step uploading taken⟩
    · exact ⟨number, (waiting _ waited).step uploading taken⟩

theorem Illustrated.stop (illustrated : market.Illustrated link past) (number : Nat) :
    Illustrated link past { market with shop := market.shop.stop number } := by
  obtain ⟨uploading, pictured, files, waiting, stored⟩ := illustrated
  refine ⟨uploading.unmoved rfl (Nat.le_refl _) rfl, ?_, files, waiting, stored⟩
  exact ⟨pictured.folders, pictured.used, pictured.waiting, pictured.stored⟩

/-- Publications with one folder are one publication. -/
theorem Pictured.folder_unique (pictured : market.Pictured) {first second : Publication}
    (one : first ∈ market.publications) (other : second ∈ market.publications) (same : first.itemId = second.itemId) :
    first = second := by
  have folders : (market.publications.map Publication.itemId).Nodup := by
    have nodup := pictured.folders
    rwa [albums, List.map_map] at nodup
  exact List.inj_on_of_nodup_map folders one other same

/-- A file of a publication is its encoded image. -/
theorem Pictured.image_of_file (pictured : market.Pictured) {publication : Publication}
    (member : publication ∈ market.publications) {nameSuffix : Nat} {image : Option UIImage}
    (numbered : publication.images[nameSuffix]? = some image) {imageData : ImageData}
    (stored : (imageFileName publication.itemId nameSuffix, imageData) ∈ market.storage) :
    image.bind UIImage.jpegData = some imageData := by
  obtain ⟨album, inside, place, found, present, encoded, named⟩ := pictured.stored _ stored
  obtain ⟨other, isOther, rfl⟩ := List.mem_map.mp inside
  have parts := named
  simp only [Publication.album, imageFileName, List.cons.injEq] at parts
  obtain rfl := pictured.folder_unique member isOther parts.2.1
  obtain rfl := imageFileName_injective publication.itemId named
  obtain rfl := Option.some.inj (numbered.symm.trans present)
  exact encoded

/-- A stored item has one link for each image of its form, and the storage has each image as it was encoded. -/
theorem Illustrated.item {link : StoragePath → String} {past : List UploadEntry}
    (illustrated : market.Illustrated link past) {name : String} {data : Dictionary}
    (found : market.shop.store.data .items name = some data) :
    ∃ publication ∈ market.publications, ∃ files : List StoragePath,
      data = itemDictionaryFrom publication.item ∧ files.Perm publication.fileNames ∧
      (Item.ofDictionary data).imageLinks = some (files.map link) ∧
      ∀ nameSuffix image, publication.images[nameSuffix]? = some image →
        ∃ imageData, image.bind UIImage.jpegData = some imageData ∧ ∀ content,
          (imageFileName publication.itemId nameSuffix, content) ∈ market.storage ↔ content = imageData := by
  obtain ⟨uploading, pictured, files, _, stored⟩ := illustrated
  obtain ⟨number, publication, present, complete, rfl⟩ := stored name data found
  have member := List.mem_of_getElem? present
  obtain ⟨all, array, recorded⟩ := uploading.finished present complete.counted
  refine ⟨publication, member, _, rfl, all, ?_, fun nameSuffix image numbered => ?_⟩
  · rw [Item.ofDictionary_itemDictionaryFrom, complete.links, array]
  · have named : imageFileName publication.itemId nameSuffix ∈ publication.fileNames :=
      List.mem_map.mpr ⟨nameSuffix, List.mem_range.mpr (List.getElem?_eq_some_iff.mp numbered).1, rfl⟩
    obtain ⟨imageData, inStorage⟩ := files number _ (recorded _ named)
    have encoded := pictured.image_of_file member numbered inStorage
    refine ⟨imageData, encoded, fun content => ⟨fun also => ?_, fun same => same ▸ inStorage⟩⟩
    exact Option.some.inj ((pictured.image_of_file member numbered also).symm.trans encoded)

end Market

namespace App

variable {app next : App} {double : String → Option Double} {link : StoragePath → String} {event : AppEvent}

theorem Steps.illustrated (steps : app.Steps double link event next)
    (illustrated : ∃ past, app.market.Illustrated link past) : ∃ past, next.market.Illustrated link past := by
  refine steps.market_of (fun market => ∃ past, market.Illustrated link past) ?_ illustrated ?_
  · rintro market number ⟨past, illustrated⟩
    exact ⟨past, illustrated.stop number⟩
  · intro given after _ taken
    obtain ⟨past, illustrated⟩ := illustrated
    exact ⟨_, illustrated.step taken⟩

theorem Illustrated.start : ∃ past, App.start.market.Illustrated link past := by
  refine ⟨[], Market.Uploading.initial rfl rfl, ⟨List.nodup_nil, ?_, ?_, ?_⟩, ?_, ?_, ?_⟩
  · exact fun album member => absurd member List.not_mem_nil
  · exact fun file member => absurd member List.not_mem_nil
  · exact fun file member => absurd member List.not_mem_nil
  · exact fun number fileName entry => absurd entry List.not_mem_nil
  · exact fun document member => absurd member List.not_mem_nil
  · exact fun name data stored => by cases stored

theorem illustrated_of_run {events : List AppEvent} (ran : App.start.run double link events = some next) :
    ∃ past, next.market.Illustrated link past :=
  Transition.run_invariant (fun app => ∃ past, app.market.Illustrated link past)
    (fun _ _ _ illustrated _ taken => (steps_of_step taken).illustrated illustrated) Illustrated.start
    (.of_all (fun _ _ => trivial) App.start events) ran

end App

/-- In every run, a stored item has one link for each image of its form, the link of a file that is this image as it was
encoded, and no two publications share a folder. -/
theorem stored_items_show_their_images (double : String → Option Double) (link : StoragePath → String) {final : App}
    {events : List AppEvent} (ran : App.start.run double link events = some final) :
    (∀ name data, final.market.shop.store.data .items name = some data →
      ∃ publication ∈ final.market.publications, ∃ files : List StoragePath,
        data = itemDictionaryFrom publication.item ∧ files.Perm publication.fileNames ∧
        (Item.ofDictionary data).imageLinks = some (files.map link) ∧
        ∀ nameSuffix image, publication.images[nameSuffix]? = some image →
          ∃ imageData, image.bind UIImage.jpegData = some imageData ∧ ∀ content,
            (imageFileName publication.itemId nameSuffix, content) ∈ final.market.storage ↔ content = imageData) ∧
    ∀ first ∈ final.market.publications, ∀ second ∈ final.market.publications,
      first.itemId = second.itemId → first = second := by
  obtain ⟨past, illustrated⟩ := App.illustrated_of_run ran
  exact ⟨fun name data found => illustrated.item found,
    fun first one second other => illustrated.pictured.folder_unique one other⟩

/-- A category is saved and opened, and an item with two images is published in it. -/
def firstImages : List AppEvent :=
  firstVisit.take 9 ++
    [.didSelectImages 0 [some ⟨some [0]⟩, some ⟨some [1]⟩], .doneButtonWasTapped 0 true ("A", "B"), .serve 1 true,
      .serve 2 true, .callback 1 "D", .callback 1 "E", .serve 1 true, .serve 2 true, .callback 2 "F", .callback 1 "G",
      .serve 1 true].map AppEvent.market

/-- The item has the link of its second image first, and both files are stored. -/
theorem stored_items_show_their_images_first :
    ∃ final data, App.start.run sellerDouble sellerLink firstImages = some final ∧
      final.market.shop.store.data .items "G" = some data ∧ (Item.ofDictionary data).imageLinks =
        some [sellerLink (imageFileName "A" 1), sellerLink (imageFileName "A" 0)] ∧
      ∃ publication ∈ final.market.publications, ∃ files : List StoragePath, files.Perm publication.fileNames ∧
        (Item.ofDictionary data).imageLinks = some (files.map sellerLink) := by
  obtain ⟨publication, member, files, _, perm, links, _⟩ := (stored_items_show_their_images sellerDouble sellerLink
    (rfl : App.start.run sellerDouble sellerLink firstImages = some _)).1 "G" _ rfl
  exact ⟨_, _, rfl, rfl, rfl, publication, member, files, perm, links⟩

end ShoppingApp
