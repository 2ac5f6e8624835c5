import ShoppingApp.Proof.FetchedImages
import ShoppingApp.Proof.StoredImages

namespace ShoppingApp

/-- The images of the form as they are decoded after their way through the storage. -/
def Publication.pictures (image : ImageData → Option UIImage) (publication : Publication) : List UIImage :=
  publication.images.filterMap fun picked => (picked.bind UIImage.jpegData).bind image

/-- The storage answers a link with the file that it belongs to. -/
def Market.content (link : StoragePath → String) (market : Market) (url : String) : Option ImageData :=
  (market.storage.find? fun file => decide (link file.1 = url)).map Prod.snd

/-- Different files of the storage have different links. -/
def Market.Linked (link : StoragePath → String) (market : Market) : Prop :=
  ∀ first ∈ market.storage, ∀ second ∈ market.storage, link first.1 = link second.1 → first.1 = second.1

instance (link : StoragePath → String) (market : Market) : Decidable (market.Linked link) :=
  inferInstanceAs (Decidable (∀ first ∈ market.storage, ∀ second ∈ market.storage, link first.1 = link second.1 →
    first.1 = second.1))

namespace Market

variable {market : Market} {link : StoragePath → String} {past : List UploadEntry}

/-- The link of a file with one content leads to this content. -/
theorem Linked.content (linked : market.Linked link) {fileName : StoragePath} {bytes : ImageData}
    (only : ∀ content, (fileName, content) ∈ market.storage ↔ content = bytes) :
    market.content link (link fileName) = some bytes := by
  have stored : (fileName, bytes) ∈ market.storage := (only bytes).mpr rfl
  unfold Market.content
  cases found : market.storage.find? fun file => decide (link file.1 = link fileName) with
  | none =>
      have other := List.find?_eq_none.mp found _ stored
      exact absurd (decide_eq_true rfl) other
  | some file =>
      have same : link file.1 = link fileName := of_decide_eq_true (List.find?_some found :)
      have inside := List.mem_of_find?_eq_some found
      obtain ⟨name, content⟩ := file
      obtain rfl := linked _ inside _ stored same
      rw [Option.map_some, (only content).mp inside]

/-- The links of a stored item lead to the encoded images of its form. -/
theorem Linked.encoded (linked : market.Linked link) {publication : Publication} {files : List StoragePath}
    (all : files.Perm publication.fileNames)
    (stored : ∀ nameSuffix picked, publication.images[nameSuffix]? = some picked →
      ∃ imageData, picked.bind UIImage.jpegData = some imageData ∧ ∀ content,
        (imageFileName publication.itemId nameSuffix, content) ∈ market.storage ↔ content = imageData) :
    (∀ url ∈ files.map link, (market.content link url).isSome) ∧
      ((files.map link).map (market.content link)).Perm
        (publication.images.map fun picked => picked.bind UIImage.jpegData) := by
  have contents : ((files.map link).map (market.content link)).Perm
      (publication.images.map fun picked => picked.bind UIImage.jpegData) := by
    rw [List.map_map]
    refine (all.map _).trans (List.Perm.of_eq ?_)
    rw [Publication.fileNames, List.map_map]
    refine Pool.map_range fun nameSuffix picked present => ?_
    obtain ⟨imageData, encoded, only⟩ := stored nameSuffix picked present
    rw [encoded]
    exact linked.content only
  refine ⟨fun url member => ?_, contents⟩
  obtain ⟨picked, inside, same⟩ := List.mem_map.mp (contents.mem_iff.mp (List.mem_map_of_mem member))
  obtain ⟨nameSuffix, present⟩ := List.mem_iff_getElem?.mp inside
  obtain ⟨imageData, encoded, _⟩ := stored nameSuffix picked present
  rw [← same, encoded]
  rfl

/-- The decoded contents of the links are the pictures of the form. -/
theorem pictures_of_encoded (image : ImageData → Option UIImage) {publication : Publication} {imageUrls : List String}
    (encoded : (imageUrls.map (market.content link)).Perm
      (publication.images.map fun picked => picked.bind UIImage.jpegData)) :
    (imageUrls.filterMap fun url => (market.content link url).bind image).Perm (publication.pictures image) := by
  have decoded := encoded.filterMap (Option.bind · image)
  rwa [List.filterMap_map, List.filterMap_map] at decoded

end Market

namespace ItemViewController

variable {screen : ImageWorld ItemViewController} {past : List (ImageEntry (Option Item))}

/-- The screen of one download shows some of its downloaded pictures. -/
theorem Shows.subperm (shows : Shows screen past) (single : screen.downloads.length ≤ 1) :
    screen.view.itemImages.Subperm (past.filterMap (ImageEntry.picture 0)) := by
  rw [shows.shown, (shows.calls 0).array]
  cases last : (past.filterMap ImageEntry.delivered).getLast? with
  | none => exact List.nil_subperm
  | some images =>
      obtain ⟨entry, member, delivered⟩ := List.mem_filterMap.mp (List.mem_of_getLast? last)
      cases entry with
      | completed number shown =>
          obtain rfl := Option.some.inj delivered
          have owned := shows.owned number shown member
          obtain rfl : number = 0 := by omega
          have called : shown ∈ past.filterMap (ImageEntry.images 0) := List.mem_filterMap.mpr ⟨_, member, rfl⟩
          exact ((shows.calls 0).partly shown called).sublist.subperm
      | filled content => cases delivered
      | started number => cases delivered
      | downloaded number url picture => cases delivered

/-- The links of an item that is shown once are downloaded, awaited, or failed. -/
theorem fetched_of_run {wellFormed : String → Bool} {image : ImageData → Option UIImage}
    {content : String → Option ImageData} {final : ImageWorld ItemViewController}
    {events : List (ImageEvent (Option Item))} {item : Option Item} {imageUrls : List String}
    (links : item.bind Item.imageLinks = some imageUrls)
    (once : events.filterMap ImageEvent.content = [item])
    (fetches : Transition.Along (ImageWorld.step client wellFormed image) (ImageWorld.Fetches content) itemScreen
      events)
    (ran : itemScreen.run client wellFormed image events = some final) :
    ∃ download failed, final.downloads = [download] ∧
      ((itemScreen.log client wellFormed image events).filterMap (ImageEntry.linkOf 0) ++
        (download.awaited ++ failed)).Perm imageUrls ∧
      ((∀ event ∈ events, event.Succeeds) → failed = [] ∧ (download.awaited = [] →
        imageUrls = [] ∨ ImageEntry.Late 0 (itemScreen.log client wellFormed image events))) ∧
      (itemScreen.log client wellFormed image events).filterMap (ImageEntry.picture 0) =
        ((itemScreen.log client wellFormed image events).filterMap (ImageEntry.linkOf 0)).filterMap
          fun url => (content url).bind image := by
  have along : Transition.Along (ImageWorld.step client wellFormed image)
      (fun _ event => (∀ event ∈ events, event.Succeeds) → event.Succeeds) itemScreen events :=
    .of_forall fun event member all => all event member
  have held := Transition.run_log (Fetched (fun item => item.bind Item.imageLinks)
      (fun url => (content url).bind image) (∀ event ∈ events, event.Succeeds))
    (fun _ _ _ _ held both taken => held.step (fun _ _ => rfl) both.1 both.2 taken) (Fetched.fresh rfl)
    (fetches.and along) ran
  have urls := held.urls
  rw [List.nil_append] at held urls
  rw [show (Transition.log _ _ _ _).filterMap ImageEntry.content = [item] from
    (ImageWorld.log_content ran).trans once, List.filterMap_cons, links] at urls
  obtain ⟨download, single, sameUrls⟩ := List.map_eq_singleton_iff.mp urls
  obtain ⟨failed, parts, lost⟩ := held.parts 0 download (single ▸ rfl)
  refine ⟨download, failed, single, sameUrls ▸ parts, fun all => ⟨lost all, ?_⟩, held.pictures 0⟩
  exact sameUrls ▸ held.ends all 0 download (single ▸ rfl)

end ItemViewController

/-- In every run of the app and of an item screen whose links are answered from the storage, an opened item has links
under which the storage has the encoded images of the form that published it, and the screen shows some of the pictures
of this form, each at most once for each image, and it ends with all of them when no fetch fails. -/
theorem item_screens_show_published_pictures (double : String → Option Double) (link : StoragePath → String)
    (wellFormed : String → Bool) (image : ImageData → Option UIImage) {app : App} {events : List AppEvent}
    (ran : App.start.run double link events = some app) (linked : app.market.Linked link) {view : ItemView}
    (opened : view ∈ app.views) {final : ImageWorld ItemViewController} {shown : List (ImageEvent (Option Item))}
    (once : shown.filterMap ImageEvent.content = [some view.item])
    (fetches : Transition.Along (ImageWorld.step ItemViewController.client wellFormed image)
      (ImageWorld.Fetches (app.market.content link)) itemScreen shown)
    (ranScreen : itemScreen.run ItemViewController.client wellFormed image shown = some final) :
    ∃ publication ∈ app.market.publications,
      view.item = Item.ofDictionary (itemDictionaryFrom publication.item) ∧
      (∃ imageUrls, view.item.imageLinks = some imageUrls ∧
        (∀ url ∈ imageUrls, (app.market.content link url).isSome) ∧
        (imageUrls.map (app.market.content link)).Perm
          (publication.images.map fun picked => picked.bind UIImage.jpegData)) ∧
      final.view.itemImages.Subperm (publication.pictures image) ∧
      ((∀ download ∈ final.downloads, download.Finished) → final.mainQueue = [] →
        (∀ event ∈ shown, event.Succeeds) → final.view.itemImages.Perm (publication.pictures image)) := by
  obtain ⟨past, illustrated⟩ := App.illustrated_of_run ran
  obtain ⟨itemId, data, stored, decoded, _⟩ := (App.Sound.start.run ran).lists.views view opened
  obtain ⟨publication, member, files, rfl, all, links, encoded⟩ := illustrated.item stored
  have own : view.item.imageLinks = some (files.map link) := decoded ▸ links
  obtain ⟨lead, contents⟩ := linked.encoded all encoded
  have pictures := Market.pictures_of_encoded image contents
  obtain ⟨download, failed, single, parts, lost, downloaded⟩ :=
    ItemViewController.fetched_of_run (show (some view.item).bind Item.imageLinks = _ from own) once fetches ranScreen
  have shows := ItemViewController.Shows.run rfl rfl rfl ranScreen
  have one : final.downloads.length ≤ 1 := by rw [single]; exact Nat.le_refl 1
  refine ⟨publication, member, decoded.symm, ⟨_, own, lead, contents⟩, ?_, fun finished drained succeed => ?_⟩
  · have some := (List.sublist_append_left _ _).subperm.trans parts.subperm
    refine (shows.subperm one).trans ?_
    rw [downloaded]
    exact (Pool.filterMap_subperm _ some).trans pictures.subperm
  · have ended := (finished download (single ▸ List.mem_cons_self)).awaited
    obtain ⟨nothing, ends⟩ := lost succeed
    rw [ended, nothing, List.append_nil, List.append_nil] at parts
    have complete : ((itemScreen.log ItemViewController.client wellFormed image shown).filterMap
        (ImageEntry.picture 0)).Perm (publication.pictures image) := by
      rw [downloaded]
      exact (parts.filterMap _).trans pictures
    refine ((shows.all_iff one finished drained).mpr ?_).trans complete
    -- The last fetch of a call with links gets its picture when all tasks have started.
    refine (ends ended).imp_left fun none => ?_
    rw [none] at parts
    rw [downloaded, parts.eq_nil]
    rfl

/-- The item with two images is opened from its table. -/
def openedPictures : List AppEvent :=
  firstImages ++ [.itemsDidAppear 0, .serve 0 true, .callback 0, .didSelectItem 0 0]

/-- Both tasks start before the first fetch ends. -/
def fetchedPictures (item : Item) : List (ImageEvent (Option Item)) :=
  [.fill (some item), .start 0 0, .start 0 1, .finish 0 1 (some [0]), .finish 0 0 (some [1]), .main, .main]

theorem fetchedPictures_run {item : Item} {front back : String} (links : item.imageLinks = some [front, back]) :
    ∃ final, itemScreen.run ItemViewController.client (fun _ => true) decoded (fetchedPictures item) = some final ∧
      (∀ download ∈ final.downloads, download.Finished) ∧ final.mainQueue = [] := by
  obtain ⟨id, categoryId, name, description, price, imageLinks⟩ := item
  obtain rfl := links
  refine ⟨_, rfl, fun download member => ?_, rfl⟩
  obtain rfl := List.mem_singleton.mp member
  intro task member
  rcases List.mem_cons.mp member with rfl | last
  · rfl
  · obtain rfl := List.mem_singleton.mp last
    rfl

/-- The item screen shows both images of the form. -/
theorem item_screens_show_published_pictures_both :
    ∃ app view final, App.start.run sellerDouble sellerLink openedPictures = some app ∧ app.views = [view] ∧
      itemScreen.run ItemViewController.client (fun _ => true) decoded (fetchedPictures view.item) = some final ∧
      ∃ publication ∈ app.market.publications, final.view.itemImages.Perm (publication.pictures decoded) := by
  obtain ⟨app, view, ran, views, linked, links, fetches⟩ : ∃ app view,
      App.start.run sellerDouble sellerLink openedPictures = some app ∧ app.views = [view] ∧
        app.market.Linked sellerLink ∧
        view.item.imageLinks = some [sellerLink (imageFileName "A" 1), sellerLink (imageFileName "A" 0)] ∧
        Transition.Along (ImageWorld.step ItemViewController.client (fun _ => true) decoded)
          (ImageWorld.Fetches (app.market.content sellerLink)) itemScreen (fetchedPictures view.item) :=
    ⟨_, _, rfl, rfl, by decide, rfl, by decide⟩
  obtain ⟨final, ranScreen, finished, drained⟩ := fetchedPictures_run links
  obtain ⟨publication, member, _, _, _, all⟩ := item_screens_show_published_pictures sellerDouble sellerLink _ decoded
    ran linked (views ▸ List.mem_cons_self) rfl fetches ranScreen
  refine ⟨app, view, final, ran, views, ranScreen, publication, member, ?_⟩
  exact all finished drained (by simp [fetchedPictures, ImageEvent.Succeeds])

end ShoppingApp
