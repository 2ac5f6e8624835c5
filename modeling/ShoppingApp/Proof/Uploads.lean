import ShoppingApp.Proof.UploadEntries

namespace ShoppingApp

namespace Market

variable {market next : Market} {link : StoragePath → String} {past : List UploadEntry}

/-- Entries that show nothing of a publication keep what it collects. -/
theorem Collects.kept {number : Nat} {publication : Publication} (collects : market.Collects past number publication)
    {added : List UploadEntry} (screens : market.screens.length ≤ next.screens.length)
    (awaited : (next.awaitedFiles number).Subperm (market.awaitedFiles number))
    (noFile : added.filterMap (UploadEntry.reportedFile number) = [])
    (noLink : added.filterMap (UploadEntry.reportedLink number) = [])
    (nothing : added.filterMap (UploadEntry.deliveredLinks number) = []) :
    next.Collects (past ++ added) number publication := by
  refine ⟨collects.screen.trans_le screens, ?_, ?_, collects.counted, ?_, fun more => ?_⟩
  · rw [List.filterMap_append, noFile, List.append_nil]
    exact (awaited.append (List.Subperm.refl _)).trans collects.files
  · rw [List.filterMap_append, noLink, List.append_nil]
    exact collects.links
  · rw [List.filterMap_append, nothing, List.append_nil]
    exact collects.once
  · rw [List.filterMap_append, nothing, List.append_nil]
    exact collects.waiting more

/-- A reported file is no longer awaited, its link is collected, and the links are delivered with the last one. -/
theorem Collects.report {number : Nat} {publication after : Publication}
    (collects : market.Collects past number publication) {added : List UploadEntry} {fileName : StoragePath}
    {imageLink : Option String} (screens : market.screens.length ≤ next.screens.length)
    (awaited : (market.awaitedFiles number).Perm (fileName :: next.awaitedFiles number))
    (unfinished : publication.uploadedImageCount < publication.images.length)
    (collected : after.screen = publication.screen ∧ after.itemId = publication.itemId ∧
      after.images = publication.images ∧ after.imageLinkArray = publication.imageLinkArray ++ imageLink.toList ∧
      after.uploadedImageCount = publication.uploadedImageCount + imageLink.toList.length)
    (file : added.filterMap (UploadEntry.reportedFile number) = [fileName])
    (linked : added.filterMap (UploadEntry.reportedLink number) = imageLink.toList)
    (once : (added.filterMap (UploadEntry.deliveredLinks number)).length ≤ 1)
    (waits : after.uploadedImageCount < after.images.length →
      added.filterMap (UploadEntry.deliveredLinks number) = []) :
    next.Collects (past ++ added) number after := by
  obtain ⟨ownScreen, itemId, images, array, count⟩ := collected
  refine ⟨?_, ?_, ?_, ?_, ?_, fun more => ?_⟩
  · exact ownScreen ▸ collects.screen.trans_le screens
  · have names : after.fileNames = publication.fileNames := by
      rw [Publication.fileNames, images, itemId, Publication.fileNames]
    rw [List.filterMap_append, file, names]
    have moved := awaited.append_right (past.filterMap (UploadEntry.reportedFile number))
    rw [← List.singleton_append, List.append_assoc] at moved
    have last := moved.trans List.perm_append_comm
    rw [List.append_assoc] at last
    exact (List.Perm.subperm_right last).mp collects.files
  · rw [List.filterMap_append, linked, ← collects.links]
    exact array
  · rw [array, count, collects.counted, List.length_append]
  · rw [List.filterMap_append, collects.waiting unfinished, List.nil_append]
    exact once
  · rw [List.filterMap_append, collects.waiting unfinished, List.nil_append]
    exact waits more

namespace Uploading

/-- The counted images are the files with a link. -/
theorem counted (uploading : market.Uploading link past) {number : Nat} {publication : Publication}
    (present : market.publications[number]? = some publication) :
    publication.uploadedImageCount = (past.filterMap (UploadEntry.linkedFile number)).length := by
  have collects := uploading.collects number publication present
  rw [collects.counted, collects.links, UploadEntry.links_eq uploading.linked, List.length_map]

/-- A publication that still awaits a file has not counted all of its images. -/
theorem unfinished (uploading : market.Uploading link past) {number : Nat} {publication : Publication}
    (present : market.publications[number]? = some publication) (awaited : market.awaitedFiles number ≠ []) :
    publication.uploadedImageCount < publication.images.length := by
  have bounded := (uploading.collects number publication present).files.length_le
  have fewer := (UploadEntry.linkedFiles_sublist past number).length_le
  have positive := List.length_pos_iff.mpr awaited
  rw [List.length_append, Publication.fileNames, List.length_map, List.length_range] at bounded
  rw [uploading.counted present]
  omega

/-- A step that reports nothing and puts no image on its way keeps what is collected. -/
theorem keep (uploading : market.Uploading link past) {added : List UploadEntry}
    (publications : next.publications = market.publications) (screens : market.screens.length ≤ next.screens.length)
    (flights : ∀ flight ∈ next.flights, flight.Linked link (past ++ added))
    (awaited : ∀ number, (next.awaitedFiles number).Subperm (market.awaitedFiles number))
    (stores : ∀ entry ∈ added, ∃ number fileName, entry = .stored number fileName ∧
      number < market.publications.length) :
    next.Uploading link (past ++ added) := by
  have silent (number : Nat) : added.filterMap (UploadEntry.reportedFile number) = [] ∧
      added.filterMap (UploadEntry.reportedLink number) = [] ∧
      added.filterMap (UploadEntry.deliveredLinks number) = [] := by
    refine ⟨List.filterMap_eq_nil_iff.mpr fun entry member => ?_, List.filterMap_eq_nil_iff.mpr fun entry member => ?_,
      List.filterMap_eq_nil_iff.mpr fun entry member => ?_⟩ <;>
    · obtain ⟨_, _, rfl, _⟩ := stores entry member
      rfl
  refine ⟨fun number some => ?_, fun entry member => ?_, flights, fun number fileName imageLink member => ?_,
    fun number publication present => ?_⟩
  · rw [publications]
    refine uploading.awaited number fun none => some ?_
    have empty := awaited number
    rw [none] at empty
    exact List.subperm_nil.mp empty
  · rw [publications]
    rcases List.mem_append.mp member with old | new
    · exact uploading.known entry old
    · obtain ⟨number, fileName, rfl, inside⟩ := stores entry new
      exact inside
  · rcases List.mem_append.mp member with old | new
    · obtain ⟨same, stored⟩ := uploading.linked number fileName imageLink old
      exact ⟨same, List.mem_append_left _ stored⟩
    · obtain ⟨_, _, impossible, _⟩ := stores _ new
      cases impossible
  · rw [publications] at present
    obtain ⟨noFile, noLink, nothing⟩ := silent number
    exact (uploading.collects number publication present).kept screens (awaited number) noFile noLink nothing

/-- A report adds the link to its publication, and the last link delivers them. -/
theorem report (uploading : market.Uploading link past) {index number : Nat} {fileName : StoragePath}
    {flight : PublishFlight} {imageLink : Option String} {uuid : String} {publication : Publication}
    {screen : AddItemScreen} {outcome : PublishOutcome} {delivered : List UploadEntry}
    (found : market.flights[index]? = some flight)
    (uploads : ∀ other, flight.request.upload other = if number = other then some fileName else none)
    (linked : ∀ absoluteString ∈ imageLink, absoluteString = link fileName ∧ .stored number fileName ∈ past)
    (present : market.publications[number]? = some publication)
    (handled : publication.imageSaved number uuid imageLink screen = outcome)
    (deliveries : delivered = [] ∨
      outcome.publication.uploadedImageCount = outcome.publication.images.length ∧
        ∃ imagesLinks, delivered = [.delivered number imagesLinks]) :
    Uploading link (past ++ .reported number fileName imageLink :: delivered)
      (Market.perform { market with flights := market.flights.eraseIdx index, used := uuid :: market.used } number
        outcome) := by
  have collected := Publication.imageSaved_collects handled
  have issued := Publication.imageSaved_silent handled
  have inside : number < market.publications.length := (List.getElem?_eq_some_iff.mp present).1
  have grows : past ⊆ past ++ .reported number fileName imageLink :: delivered := List.subset_append_left _ _
  have only : ∀ entry ∈ delivered, ∃ imagesLinks, entry = .delivered number imagesLinks := by
    rcases deliveries with rfl | ⟨_, imagesLinks, rfl⟩
    · exact fun entry member => absurd member List.not_mem_nil
    · exact fun entry member => ⟨imagesLinks, List.mem_singleton.mp member⟩
  have owned : ∀ entry ∈ .reported number fileName imageLink :: delivered, entry.publication = number := by
    intro entry member
    rcases List.mem_cons.mp member with rfl | delivery
    · rfl
    · obtain ⟨imagesLinks, rfl⟩ := only entry delivery
      rfl
  have kept (other : Nat) : (Market.perform { market with
      flights := market.flights.eraseIdx index, used := uuid :: market.used } number outcome).awaitedFiles other =
          (market.flights.eraseIdx index).filterMap fun flight => flight.request.upload other :=
    Pool.filterMap_append_silent _ fun flight member => by
      obtain ⟨request, inIssued, rfl⟩ := List.mem_map.mp member
      exact (issued request inIssued).1 other
  have taken (other : Nat) : (market.awaitedFiles other).Perm ((if number = other then [fileName] else []) ++
      (market.flights.eraseIdx index).filterMap fun flight => flight.request.upload other) := by
    refine (Pool.filterMap_perm (fun flight : PublishFlight => flight.request.upload other) found).trans (.of_eq ?_)
    rw [uploads]
    split <;> rfl
  refine ⟨fun other some => ?_, fun entry member => ?_, ?_, fun other file absoluteString member => ?_,
    fun other after reached => ?_⟩
  · rw [Market.perform, List.length_set]
    rw [kept] at some
    refine uploading.awaited other fun none => some ?_
    have split := taken other
    rw [none] at split
    exact (List.append_eq_nil_iff.mp split.symm.eq_nil).2
  · rw [Market.perform, List.length_set]
    rcases List.mem_append.mp member with old | new
    · exact uploading.known entry old
    · rw [owned entry new]
      exact inside
  · refine Pool.forall_append (fun flight member => ?_) fun flight member => ?_
    · exact (uploading.flights flight (List.mem_of_mem_eraseIdx member)).mono grows
    · obtain ⟨request, inIssued, rfl⟩ := List.mem_map.mp member
      exact (issued request inIssued).2 _ _
  · rcases List.mem_append.mp member with old | new
    · obtain ⟨same, stored⟩ := uploading.linked other file absoluteString old
      exact ⟨same, grows stored⟩
    · rcases List.mem_cons.mp new with same | delivery
      · injection same with sameNumber sameFile sameLink
        subst sameNumber sameFile
        obtain ⟨same, stored⟩ := linked absoluteString sameLink.symm
        exact ⟨same, grows stored⟩
      · obtain ⟨_, impossible⟩ := only _ delivery
        cases impossible
  · by_cases own : number = other
    · subst own
      have same : (market.publications.set number outcome.publication)[number]? = some outcome.publication :=
        List.getElem?_set_self inside
      obtain rfl := Option.some.inj (same.symm.trans reached)
      obtain ⟨reportedFile, reportedLink, sameLinks⟩ := report_views fileName imageLink only
      have split := taken number
      rw [if_pos rfl] at split
      have unfinished := uploading.unfinished present fun none => by
        rw [none] at split
        cases split.symm.eq_nil
      refine (uploading.collects number publication present).report ?_ ?_ unfinished collected reportedFile
        reportedLink ?_ fun more => ?_
      · rw [Market.perform, List.length_set]
      · rw [kept]
        exact split
      · rw [sameLinks]
        rcases deliveries with rfl | ⟨_, imagesLinks, rfl⟩
        · exact Nat.zero_le 1
        · exact List.length_filterMap_le _ _
      · rw [sameLinks]
        rcases deliveries with rfl | ⟨last, _⟩
        · rfl
        · exact absurd last more.ne
    · have before : market.publications[other]? = some after := (List.getElem?_set_ne own).symm.trans reached
      obtain ⟨noFile, noLink, nothing⟩ := UploadEntry.views_unknown fun entry member =>
        (owned entry member).symm ▸ own
      refine (uploading.collects other after before).kept ?_ ?_ noFile noLink nothing
      · rw [Market.perform, List.length_set]
      · have split := taken other
        rw [if_neg own, List.nil_append] at split
        rw [kept]
        exact split.symm.subperm

/-- A new publication awaits its first files. -/
theorem start (uploading : market.Uploading link past) {publication : Publication} {screen : AddItemScreen}
    {outcome : PublishOutcome} {used : List String} (shown : market.screens[publication.screen]? = some screen)
    (own : outcome.publication = publication) (array : publication.imageLinkArray = [])
    (count : publication.uploadedImageCount = 0)
    (files : (outcome.issued.filterMap (PublishRequest.upload market.publications.length)).Subperm
      publication.fileNames)
    (issued : ∀ request ∈ outcome.issued, PublishFlight.Linked link past ⟨request, none⟩ ∧
      ∀ other, other ≠ market.publications.length → request.upload other = none) :
    Uploading link past (Market.perform
      { market with publications := market.publications ++ [publication], used := used }
      market.publications.length outcome) := by
  have publications : (market.publications ++ [publication]).set market.publications.length outcome.publication =
      market.publications ++ [publication] := by
    rw [own, List.set_append_right _ _ (Nat.le_refl _), Nat.sub_self, List.set_cons_zero]
  have none : market.awaitedFiles market.publications.length = [] := by
    by_contra some
    exact absurd (uploading.awaited _ some) (Nat.lt_irrefl _)
  have awaited (number : Nat) : (Market.perform
      { market with publications := market.publications ++ [publication], used := used }
      market.publications.length outcome).awaitedFiles number =
        market.awaitedFiles number ++ outcome.issued.filterMap (PublishRequest.upload number) := by
    unfold awaitedFiles Market.perform
    rw [List.filterMap_append, List.filterMap_map]
    rfl
  have elsewhere (number : Nat) (other : number ≠ market.publications.length) :
      outcome.issued.filterMap (PublishRequest.upload number) = [] :=
    List.filterMap_eq_nil_iff.mpr fun request member => (issued request member).2 number other
  refine ⟨fun number some => ?_, fun entry member => ?_, ?_, uploading.linked, fun number other found => ?_⟩
  · rw [Market.perform, publications, List.length_append, List.length_singleton]
    by_cases new : number = market.publications.length
    · exact new ▸ Nat.lt_succ_self _
    · rw [awaited, elsewhere number new, List.append_nil] at some
      exact Nat.lt_succ_of_lt (uploading.awaited number some)
  · rw [Market.perform, publications, List.length_append, List.length_singleton]
    exact Nat.lt_succ_of_lt (uploading.known entry member)
  · refine Pool.forall_append uploading.flights fun flight member => ?_
    obtain ⟨request, inIssued, rfl⟩ := List.mem_map.mp member
    exact (issued request inIssued).1
  · rw [Market.perform, publications] at found
    by_cases new : number = market.publications.length
    · subst new
      obtain rfl := Option.some.inj (List.getElem?_concat_length.symm.trans found)
      obtain ⟨noFile, noLink, nothing⟩ := UploadEntry.views_unknown fun entry member =>
        (uploading.known entry member).ne
      refine ⟨?_, ?_, array.trans noLink.symm, by rw [count, array]; rfl, ?_, fun _ => nothing⟩
      · rw [Market.perform, List.length_set]
        exact (List.getElem?_eq_some_iff.mp shown).1
      · rw [awaited, none, noFile, List.nil_append, List.append_nil]
        exact files
      · rw [nothing]
        exact Nat.zero_le 1
    · have old : number < market.publications.length := by
        have bound := (List.getElem?_eq_some_iff.mp found).1
        rw [List.length_append, List.length_singleton] at bound
        omega
      rw [List.getElem?_append_left old] at found
      rw [← List.append_nil past]
      refine (uploading.collects number other found).kept ?_ ?_ rfl rfl rfl
      · rw [Market.perform, List.length_set]
      · rw [awaited, elsewhere number new, List.append_nil]

/-- The Done tap puts the images of its publication on their way, or it writes an item without images. -/
theorem saveToFireStore (uploading : market.Uploading link past) {double : String → Option Double} {connected : Bool}
    {uuids : String × String} {own : Nat} {screen : AddItemScreen} (shown : market.screens[own]? = some screen) :
    Uploading link past (Market.perform { market with
      publications := market.publications ++
        [(screen.saveToFireStore double connected uuids own market.publications.length).publication]
      used := uuids.1 :: uuids.2 :: market.used } market.publications.length
        (screen.saveToFireStore double connected uuids own market.publications.length)) := by
  obtain ⟨folder, images, count, kind⟩ :=
    AddItemScreen.saveToFireStore_cases double connected uuids own market.publications.length screen
  obtain ⟨ownScreen, array⟩ := screen.saveToFireStore_starts double connected uuids own market.publications.length
  generalize screen.saveToFireStore double connected uuids own market.publications.length = outcome at *
  refine uploading.start (ownScreen ▸ shown) rfl array count ?_ ?_
  · rcases kind with ⟨_, issued⟩ | ⟨_, _, issued⟩ | ⟨_, _, issued⟩
    · rw [issued]
      exact List.nil_subperm
    · obtain ⟨count, fewer, files⟩ := uploadImages_files market.publications.length uuids.1 0 screen.itemImages
      rw [issued, files, Publication.fileNames, folder, images, ← List.range_eq_range']
      exact ((List.range_sublist.mpr fewer).map _).subperm
    · rw [issued]
      exact List.nil_subperm
  · rcases kind with ⟨_, issued⟩ | ⟨_, _, issued⟩ | ⟨_, _, issued⟩
    · rw [issued]
      exact fun request member => absurd member List.not_mem_nil
    · rw [issued]
      intro request member
      obtain ⟨_, stores⟩ := uploadImages_stores market.publications.length uuids.1 0 screen.itemImages
      obtain ⟨suffix, imageData, rfl⟩ := stores request member
      refine ⟨fun done => ?_, fun other elsewhere => if_neg (Ne.symm elsewhere)⟩
      cases done
    · rw [issued]
      intro request member
      rcases List.mem_pair.mp member with rfl | rfl
      · exact ⟨trivial, fun _ _ => rfl⟩
      · exact ⟨trivial, fun _ _ => rfl⟩

/-- An answer stores the file of its request or gives the link of its file. -/
theorem serve (uploading : market.Uploading link past) {index : Nat} {request : PublishRequest} {reply : PublishReply}
    {added : List UploadEntry} (found : market.flights[index]? = some ⟨request, none⟩)
    (publications : next.publications = market.publications) (screens : next.screens = market.screens)
    (flights : next.flights = market.flights.set index ⟨request, some reply⟩)
    (linked : PublishFlight.Linked link (past ++ added) ⟨request, some reply⟩)
    (stores : ∀ entry ∈ added, ∃ number fileName, entry = .stored number fileName ∧
      request.upload number = some fileName) : next.Uploading link (past ++ added) := by
  refine uploading.keep publications (congrArg List.length screens).ge ?_ (fun number => ?_) fun entry member => ?_
  · rw [flights]
    refine Pool.forall_set (fun flight member => ?_) linked
    exact (uploading.flights flight member).mono (List.subset_append_left _ _)
  · have same : next.awaitedFiles number = market.awaitedFiles number := by
      unfold awaitedFiles
      rw [flights]
      exact Pool.filterMap_set_same _ found rfl
    rw [same]
  · obtain ⟨number, fileName, rfl, uploads⟩ := stores entry member
    have awaited : fileName ∈ market.awaitedFiles number :=
      List.mem_filterMap.mpr ⟨_, List.mem_of_getElem? found, uploads⟩
    exact ⟨number, fileName, rfl, uploading.awaited number (List.ne_nil_of_mem awaited)⟩

/-- An answer that stores nothing gives a link or fails. -/
theorem answer (uploading : market.Uploading link past) {index : Nat} {request : PublishRequest} {reply : PublishReply}
    (found : market.flights[index]? = some ⟨request, none⟩) (publications : next.publications = market.publications)
    (screens : next.screens = market.screens) (flights : next.flights = market.flights.set index ⟨request, some reply⟩)
    (linked : PublishFlight.Linked link past ⟨request, some reply⟩) : next.Uploading link past := by
  rw [← List.append_nil past] at linked ⊢
  exact uploading.serve found publications screens flights linked fun entry member => absurd member List.not_mem_nil

/-- A step that stores and reports nothing and keeps the publications keeps what is collected. -/
theorem silent (uploading : market.Uploading link past) (publications : next.publications = market.publications)
    (screens : market.screens.length ≤ next.screens.length) (flights : ∀ flight ∈ next.flights, flight.Linked link past)
    (awaited : ∀ number, (next.awaitedFiles number).Subperm (market.awaitedFiles number)) :
    next.Uploading link past := by
  rw [← List.append_nil past] at flights ⊢
  exact uploading.keep publications screens flights awaited fun entry member => absurd member List.not_mem_nil

/-- A callback takes its request away. -/
theorem erase (uploading : market.Uploading link past) (index : Nat) (used : List String) :
    Uploading link past { market with flights := market.flights.eraseIdx index, used := used } := by
  refine uploading.silent rfl (Nat.le_refl _) (Pool.forall_eraseIdx uploading.flights) fun number => ?_
  exact (((List.eraseIdx_sublist market.flights index).filterMap _).subperm)

/-- The completion of `saveImageInFirebase` finds its publication and the screen of it. -/
theorem imageSaved (uploading : market.Uploading link past) {index number : Nat} {fileName : StoragePath}
    {flight : PublishFlight} (found : market.flights[index]? = some flight)
    (uploads : ∀ other, flight.request.upload other = if number = other then some fileName else none)
    (uuid : String) (imageLink : Option String) :
    ∃ publication screen, market.publications[number]? = some publication ∧
      Market.imageSaved uuid number imageLink
          { market with flights := market.flights.eraseIdx index, used := uuid :: market.used } =
        Market.perform { market with flights := market.flights.eraseIdx index, used := uuid :: market.used } number
          (publication.imageSaved number uuid imageLink screen) := by
  have awaited : fileName ∈ market.awaitedFiles number :=
    List.mem_filterMap.mpr ⟨_, List.mem_of_getElem? found, (uploads number).trans (if_pos rfl)⟩
  obtain ⟨publication, present⟩ : ∃ publication, market.publications[number]? = some publication :=
    ⟨_, List.getElem?_eq_getElem (uploading.awaited number (List.ne_nil_of_mem awaited))⟩
  obtain ⟨screen, shown⟩ : ∃ screen, market.screens[publication.screen]? = some screen :=
    ⟨_, List.getElem?_eq_getElem (uploading.collects number publication present).screen⟩
  exact ⟨publication, screen, present, imageSaved_eq present shown⟩

/-- A completion asks for the link of a stored file, or it reports the image. -/
theorem complete (uploading : market.Uploading link past) {index : Nat} {uuid : String} {request : PublishRequest}
    {reply : PublishReply} (found : market.flights[index]? = some ⟨request, some reply⟩) :
    let erased : Market := { market with flights := market.flights.eraseIdx index, used := uuid :: market.used }
    Uploading link (past ++ (request.reports reply ++ erased.deliveries (erased.complete uuid request reply)))
      (erased.complete uuid request reply) := by
  intro erased
  have linked := uploading.flights _ (List.mem_of_getElem? found)
  rcases complete_cases uuid erased request reply with
    ⟨number, fileName, imageLink, reports, uploads, known, completed⟩ |
    ⟨reports, ⟨number, fileName, imageData, rfl, rfl, completed⟩ | completed⟩
  · obtain ⟨publication, screen, present, saved⟩ := uploading.imageSaved found uploads uuid imageLink
    rw [completed, reports, List.singleton_append]
    change Uploading link (past ++ _ :: erased.deliveries (erased.imageSaved uuid number imageLink)) _
    rw [saved]
    refine uploading.report found uploads (fun absoluteString same => ?_) present rfl ?_
    · obtain ⟨rfl, rfl⟩ := known absoluteString same
      exact ⟨linked.2 absoluteString rfl, linked.1⟩
    · exact (deliveries_imageSaved (show erased.publications[number]? = some publication from present)
        rfl).imp_right fun delivers => ⟨delivers.1, _, delivers.2.2⟩
  · rw [deliveries_unreported uuid reports, reports, List.append_nil, List.append_nil, completed]
    -- The request for the link takes the place of the stored image.
    refine uploading.silent rfl (Nat.le_refl _) ?_ fun other => List.Perm.subperm ?_
    · refine Pool.forall_append (Pool.forall_eraseIdx uploading.flights) fun flight member => ?_
      rw [List.mem_singleton.mp member]
      refine ⟨linked rfl, fun absoluteString absent => ?_⟩
      cases absent
    · have split := Pool.filterMap_perm (fun flight : PublishFlight => flight.request.upload other) found
      refine List.Perm.trans ?_ (List.perm_append_comm.trans split.symm)
      refine List.Perm.of_eq ?_
      unfold awaitedFiles
      rw [List.filterMap_append]
      congr 1
  · rw [deliveries_unreported uuid reports, reports, List.append_nil, List.append_nil, completed]
    exact uploading.erase index _

end Uploading

/-- A step that is not recorded leaves the past as it is. -/
theorem Uploading.quiet {event : MarketEvent} (silent : market.uploadEntries event = [])
    (kept : next.Uploading link past) : next.Uploading link (past ++ market.uploadEntries event) := by
  rwa [silent, List.append_nil]

/-- A step that keeps the publications and the flights keeps what is collected. -/
theorem Uploading.unmoved (uploading : market.Uploading link past)
    (publications : next.publications = market.publications) (screens : market.screens.length ≤ next.screens.length)
    (flights : next.flights = market.flights) : next.Uploading link past := by
  refine uploading.silent publications screens (flights ▸ uploading.flights) fun number => ?_
  rw [awaitedFiles, flights]
  exact List.Subperm.refl _

theorem Uploading.edited (uploading : market.Uploading link past) {own : Nat} {change : AddItemScreen → AddItemScreen}
    (taken : market.edit own change = some next) : next.Uploading link past := by
  obtain ⟨screen, _, taken⟩ := Option.bind_eq_some_iff.mp taken
  split at taken
  · obtain rfl := Option.some.inj taken
    exact uploading.unmoved rfl (List.length_set ..).ge rfl
  · cases taken

/-- Only the answer of a stored image is recorded. -/
theorem Uploading.served {double : String → Option Double} {index : Nat} {succeeds : Bool}
    (uploading : market.Uploading link past) (taken : market.step double link (.serve index succeeds) = some next) :
    next.Uploading link (past ++ market.uploadEntries (.serve index succeeds)) := by
  obtain ⟨request, found, ⟨rfl, rfl⟩ | ⟨rfl, rfl⟩⟩ := step_serve taken
  · have before := uploading.flights _ (List.mem_of_getElem? found)
    cases request with
    | putData number fileName imageData =>
        have entries : market.uploadEntries (.serve index true) = [.stored number fileName] := by
          simp only [uploadEntries, found]
        rw [entries]
        refine uploading.serve found rfl rfl rfl (fun _ => List.mem_append_right _ List.mem_cons_self) ?_
        intro entry member
        exact ⟨number, fileName, List.mem_singleton.mp member, if_pos rfl⟩
    | downloadURL number fileName =>
        have entries : market.uploadEntries (.serve index true) = [] := by simp only [uploadEntries, found]
        refine quiet entries (uploading.answer found rfl rfl rfl ⟨before.1, fun absoluteString same => ?_⟩)
        exact (PublishReply.url.inj (Option.some.inj same)).symm
    | setItem number name data =>
        have entries : market.uploadEntries (.serve index true) = [] := by simp only [uploadEntries, found]
        exact quiet entries (uploading.answer found rfl rfl rfl trivial)
    | addObject number object withID =>
        have entries : market.uploadEntries (.serve index true) = [] := by simp only [uploadEntries, found]
        exact quiet entries (uploading.answer found rfl rfl rfl trivial)
    | setCategory name data =>
        have entries : market.uploadEntries (.serve index true) = [] := by simp only [uploadEntries, found]
        exact quiet entries (uploading.answer found rfl rfl rfl trivial)
  · refine quiet rfl (uploading.answer found rfl rfl rfl ?_)
    have before := uploading.flights _ (List.mem_of_getElem? found)
    cases request with
    | putData number fileName imageData =>
        intro done
        cases done
    | downloadURL number fileName =>
        refine ⟨before.1, fun absoluteString absent => ?_⟩
        cases absent
    | setItem number name data => trivial
    | addObject number object withID => trivial
    | setCategory name data => trivial

/-- A completion that runs is recorded with its report and its deliveries. -/
theorem uploadEntries_callback {index : Nat} {uuid : String} {request : PublishRequest} {reply : PublishReply}
    (found : market.flights[index]? = some ⟨request, some reply⟩) (running : market.stopped request = false) :
    let erased : Market := { market with flights := market.flights.eraseIdx index, used := uuid :: market.used }
    market.uploadEntries (.callback index uuid) =
      request.reports reply ++ erased.deliveries (erased.complete uuid request reply) := by
  simp only [uploadEntries, found, running, Bool.false_eq_true, if_false]

/-- A stopped application reports nothing. -/
theorem Uploading.callback {double : String → Option Double} {index : Nat} {uuid : String}
    (uploading : market.Uploading link past) (taken : market.step double link (.callback index uuid) = some next) :
    next.Uploading link (past ++ market.uploadEntries (.callback index uuid)) := by
  obtain ⟨request, reply, found, unused, ⟨stopped, rfl⟩ | ⟨running, rfl⟩⟩ := step_callback taken
  · have entries : market.uploadEntries (.callback index uuid) = [] := by
      simp only [uploadEntries, found, stopped, if_true]
    exact quiet entries (uploading.erase index _)
  · rw [uploadEntries_callback found running]
    exact uploading.complete found

/-- Each step keeps what is collected of the images. -/
theorem Uploading.step {double : String → Option Double} {event : MarketEvent} (uploading : market.Uploading link past)
    (taken : market.step double link event = some next) :
    next.Uploading link (past ++ market.uploadEntries event) := by
  cases event with
  | shop event =>
      obtain ⟨_, shop, _, rfl⟩ := step_shop taken
      exact quiet rfl (uploading.unmoved rfl (Nat.le_refl _) rfl)
  | openAddItem device category =>
      obtain rfl := Option.some.inj taken
      exact quiet rfl (uploading.unmoved rfl (by simp) rfl)
  | editFields own title price description => exact quiet rfl (uploading.edited taken)
  | cameraButtonWasTapped own => exact quiet rfl (uploading.edited taken)
  | didSelectImages own resolvedImages => exact quiet rfl (uploading.edited taken)
  | doneButtonWasTapped own connected uuids =>
      obtain ⟨screen, shown, _, ⟨_, rfl⟩ | ⟨_, _, _, _, rfl⟩⟩ := step_doneButtonWasTapped taken
      · exact quiet rfl uploading
      · exact quiet rfl (uploading.saveToFireStore shown)
  | saveCategoryToFireStore category uuid =>
      obtain ⟨_, rfl⟩ := step_saveCategoryToFireStore taken
      refine quiet rfl (uploading.silent rfl (Nat.le_refl _) ?_ fun number => ?_)
      · refine Pool.forall_append uploading.flights fun flight member => ?_
        rw [List.mem_singleton.mp member]
        trivial
      · refine List.Perm.subperm (.of_eq ?_)
        exact Pool.filterMap_append_silent _ fun flight member => by
          rw [List.mem_singleton.mp member]
          rfl
  | serve index succeeds => exact uploading.served taken
  | callback index uuid => exact uploading.callback taken

/-- A publication that has counted all of its images has the links of its stored files in the order of the reports. -/
theorem Uploading.finished (uploading : market.Uploading link past) {number : Nat} {publication : Publication}
    (present : market.publications[number]? = some publication)
    (all : publication.uploadedImageCount = publication.images.length) :
    (past.filterMap (UploadEntry.linkedFile number)).Perm publication.fileNames ∧
      publication.imageLinkArray = (past.filterMap (UploadEntry.linkedFile number)).map link ∧
      ∀ fileName ∈ publication.fileNames, .stored number fileName ∈ past := by
  have collects := uploading.collects number publication present
  have linked : (past.filterMap (UploadEntry.linkedFile number)).Subperm publication.fileNames :=
    ((UploadEntry.linkedFiles_sublist past number).trans (List.sublist_append_right _ _)).subperm.trans collects.files
  have complete : (past.filterMap (UploadEntry.linkedFile number)).Perm publication.fileNames := by
    refine linked.perm_of_length_le ?_
    rw [← uploading.counted present, all, Publication.fileNames, List.length_map, List.length_range]
  refine ⟨complete, collects.links.trans (UploadEntry.links_eq uploading.linked number), fun fileName member => ?_⟩
  exact UploadEntry.stored_of_linkedFile uploading.linked (complete.mem_iff.mpr member)

/-- A delivery is the last link of a publication, and the item gets the links. -/
theorem Uploading.delivers (uploading : market.Uploading link past) {double : String → Option Double}
    {event : MarketEvent} {number : Nat} {imagesLinks : List String}
    (taken : market.step double link event = some next)
    (delivered : .delivered number imagesLinks ∈ market.uploadEntries event) :
    ∃ publication, next.publications[number]? = some publication ∧
      publication.uploadedImageCount = publication.images.length ∧ publication.imageLinkArray = imagesLinks ∧
      publication.item.imageLinks = some imagesLinks := by
  obtain ⟨index, uuid, rfl⟩ := callback_of_delivered delivered
  obtain ⟨request, reply, found, _, ⟨stopped, rfl⟩ | ⟨running, rfl⟩⟩ := step_callback taken
  · simp only [uploadEntries, found, stopped, if_true] at delivered
    cases delivered
  · rw [uploadEntries_callback found running] at delivered
    let erased : Market := { market with flights := market.flights.eraseIdx index, used := uuid :: market.used }
    rcases complete_cases uuid erased request reply with
      ⟨owner, fileName, imageLink, reports, uploads, _, completed⟩ | ⟨silent, _⟩
    · obtain ⟨publication, screen, present, saved⟩ := uploading.imageSaved found uploads uuid imageLink
      have completed := completed.trans saved
      rw [reports, completed] at delivered
      rw [completed]
      rcases List.mem_append.mp delivered with impossible | delivery
      · cases List.mem_singleton.mp impossible
      · rcases deliveries_imageSaved (show erased.publications[owner]? = some publication from present) rfl with
          nothing | ⟨last, links, only⟩
        · rw [nothing] at delivery
          cases delivery
        · rw [only] at delivery
          obtain ⟨rfl, rfl⟩ := UploadEntry.delivered.inj (List.mem_singleton.mp delivery)
          exact ⟨_, List.getElem?_set_self (List.getElem?_eq_some_iff.mp present).1, last, rfl, links⟩
    · rw [silent, deliveries_unreported uuid silent] at delivered
      cases delivered

/-- Nothing is collected before the first publication. -/
theorem Uploading.initial (unpublished : market.publications = []) (idle : market.flights = []) :
    market.Uploading link [] := by
  refine ⟨fun number some => ?_, fun entry member => ?_, fun flight member => ?_, fun _ _ _ member => ?_,
    fun number publication present => ?_⟩
  · rw [awaitedFiles, idle] at some
    exact absurd rfl some
  · cases member
  · rw [idle] at member
    cases member
  · cases member
  · rw [unpublished] at present
    cases present

/-- Every run collects the links of its publications. -/
theorem Uploading.run {double : String → Option Double} {events : List MarketEvent}
    (unpublished : market.publications = []) (idle : market.flights = [])
    (ran : market.run double link events = some next) :
    next.Uploading link (Transition.log (Market.step double link) uploadEntries market events) :=
  Transition.run_log (fun reached past => reached.Uploading link past)
    (fun _ _ _ _ uploading _ taken => uploading.step taken) (Uploading.initial unpublished idle)
    (Transition.Along.of_all (fun _ _ => trivial) market events) ran

end Market

/-- Two images are stored, and the link of the second one is known first. -/
def pairPublication : List MarketEvent :=
  [.openAddItem 0 sellerCategory, .editFields 0 "Shirt" "1" "A shirt",
    .didSelectImages 0 [some ⟨some [0]⟩, some ⟨some [1]⟩], .doneButtonWasTapped 0 true ("A", "B"), .serve 0 true,
    .serve 1 true, .callback 0 "C", .callback 0 "D", .serve 0 true, .serve 1 true, .callback 1 "E", .callback 0 "F",
    .serve 0 true, .serve 1 true]

/-- The link of the first image arrives last and completes the delivery. -/
theorem pairPublication_delivers :
    ∃ reached next, sellerMarket.run sellerDouble sellerLink (pairPublication.take 11) = some reached ∧
      reached.step sellerDouble sellerLink (.callback 0 "F") = some next ∧
      reached.uploadEntries (.callback 0 "F") =
        [.reported 0 ["ItemImages", "A", "0.jpg"] (some (sellerLink ["ItemImages", "A", "0.jpg"])),
          .delivered 0 [sellerLink ["ItemImages", "A", "1.jpg"], sellerLink ["ItemImages", "A", "0.jpg"]]] :=
  ⟨_, _, rfl, rfl, rfl⟩

end ShoppingApp
