import ShoppingApp.Proof.CellReuse
import ShoppingApp.Proof.Listings
import ShoppingApp.Proof.ShownPictures

namespace ShoppingApp

/-- A view asks for links of its item alone, and it shows pictures of its completions. -/
structure PictureView (View : Type) extends ImageClient View (Option Item) where
  pictures : View → List UIImage
  asks (item : Option Item) (view : View) {imageUrls : List String} (asked : (fill item view).2 = some imageUrls) :
    ∃ links, item.bind Item.imageLinks = some links ∧ imageUrls ⊆ links
  fills (item : Option Item) (view : View) : pictures (fill item view).1 = pictures view
  completes (images : List UIImage) (view : View) : pictures (completion images view) ⊆ images ++ pictures view

/-- A cell asks for the first link of its item. -/
def ItemTableViewCell.pictureView : PictureView ItemTableViewCell where
  toImageClient := client
  pictures cell := cell.itemImageView.toList
  asks item cell imageUrls asked := by
    obtain ⟨link, first, rfl⟩ := Option.map_eq_some_iff.mp asked
    obtain ⟨links, has, front⟩ := Option.bind_eq_some_iff.mp first
    exact ⟨links, has, fun url same => List.mem_singleton.mp same ▸ List.mem_of_mem_head? front⟩
  fills _ _ := rfl
  completes images cell picture shown :=
    List.mem_append_left _ (List.mem_of_mem_head? (Option.mem_toList.mp shown))

/-- An item screen asks for all links of its item. -/
def ItemViewController.pictureView : PictureView ItemViewController where
  toImageClient := client
  pictures screen := screen.itemImages
  asks _ _ imageUrls asked := ⟨imageUrls, asked, List.Subset.refl imageUrls⟩
  fills _ _ := rfl
  completes images screen picture shown := by
    unfold client at shown
    dsimp only at shown
    split at shown
    · exact List.mem_append_left _ shown
    · exact List.mem_append_right _ shown

/-- The link is a URL, and each content that it has is a picture of the source. -/
def LeadsTo (wellFormed : String → Bool) (content : String → Option ImageData) (image : ImageData → Option UIImage)
    (source : UIImage → Prop) (url : String) : Prop :=
  wellFormed url = true ∧ ∀ imageData, content url = some imageData →
    ∃ picture, image imageData = some picture ∧ source picture

/-- A fetch without data leaves the application and the collected pictures. -/
theorem ImageWorld.step_failed {View Content : Type} {client : ImageClient View Content} {wellFormed : String → Bool}
    {image : ImageData → Option UIImage} {world next : ImageWorld View} {number index : Nat}
    (taken : world.step client wellFormed image (.finish number index none) = some next) :
    ∃ download finished, world.downloads[number]? = some download ∧ download.finish index none = some finished ∧
      next = { world with downloads := world.downloads.set number finished } := by
  unfold step at taken
  split at taken
  · cases taken
  · obtain ⟨download, present, taken⟩ := Option.bind_eq_some_iff.mp taken
    obtain ⟨finished, ended, same⟩ := Option.map_eq_some_iff.mp taken
    exact ⟨download, finished, present, ended, by simpa using same.symm⟩

namespace PictureView

variable {View : Type} {view : PictureView View} {wellFormed : String → Bool} {image : ImageData → Option UIImage}
  {content : String → Option ImageData} {source : UIImage → Prop} {world next : ImageWorld View}

/-- The links of the calls lead to pictures of the source, and these alone are collected and shown. -/
structure Sourced (view : PictureView View) (wellFormed : String → Bool) (content : String → Option ImageData)
    (image : ImageData → Option UIImage) (source : UIImage → Prop) (world : ImageWorld View) : Prop where
  running : world.trapped = false
  links : ∀ download ∈ world.downloads, ∀ url ∈ download.imageUrls, LeadsTo wellFormed content image source url
  collected : ∀ download ∈ world.downloads, ∀ picture ∈ download.imageArray, source picture
  shown : ∀ picture ∈ view.pictures world.view, source picture

namespace Sourced

/-- A new call asks for links of its item. -/
theorem fill (sourced : view.Sourced wellFormed content image source world) {item : Option Item}
    (leads : ∀ links, item.bind Item.imageLinks = some links →
      ∀ url ∈ links, LeadsTo wellFormed content image source url)
    (taken : world.step view.toImageClient wellFormed image (.fill item) = some next) :
    view.Sourced wellFormed content image source next := by
  obtain rfl := ImageWorld.step_fill taken
  refine ⟨sourced.running, Pool.forall_append sourced.links fun download member url inside => ?_,
    Pool.forall_append sourced.collected fun download member picture inside => ?_, ?_⟩
  · obtain ⟨imageUrls, asked, rfl⟩ := Option.map_eq_some_iff.mp (Option.mem_toList.mp member)
    obtain ⟨links, has, part⟩ := view.asks item world.view asked
    exact leads links has url (part inside)
  · obtain ⟨imageUrls, _, rfl⟩ := Option.map_eq_some_iff.mp (Option.mem_toList.mp member)
    cases inside
  · rw [view.fills]
    exact sourced.shown

/-- The link of a task that starts is a URL. -/
theorem start (sourced : view.Sourced wellFormed content image source world) {number index : Nat}
    (taken : world.step view.toImageClient wellFormed image (.start number index) = some next) :
    view.Sourced wellFormed content image source next := by
  obtain ⟨download, started, present, begun, rfl⟩ := ImageWorld.step_start taken
  obtain ⟨_, _, _, imageUrls, imageArray, _⟩ := ImageDownload.start_cases begun
  have member := List.mem_of_getElem? present
  refine ⟨?_, Pool.forall_set sourced.links ?_, Pool.forall_set sourced.collected ?_, sourced.shown⟩
  · cases linked : download.imageUrls[index]? with
    | none => rfl
    | some url => simp [(sourced.links download member url (List.mem_of_getElem? linked)).1]
  · rw [imageUrls]
    exact sourced.links download member
  · rw [imageArray]
    exact sourced.collected download member

/-- The data of a link is a picture of the source. -/
theorem finish (sourced : view.Sourced wellFormed content image source world) {number index : Nat}
    {data : Option ImageData} (fetches : world.Fetches content (.finish number index data : ImageEvent (Option Item)))
    (taken : world.step view.toImageClient wellFormed image (.finish number index data) = some next) :
    view.Sourced wellFormed content image source next := by
  cases data with
  | none =>
      obtain ⟨download, finished, present, ended, rfl⟩ := ImageWorld.step_failed taken
      obtain ⟨_, _, _, _, imageUrls, imageArray, _⟩ := ImageDownload.finish_cases ended
      have member := List.mem_of_getElem? present
      refine ⟨sourced.running, Pool.forall_set sourced.links ?_, Pool.forall_set sourced.collected ?_, sourced.shown⟩
      · rw [imageUrls]
        exact sourced.links download member
      · rw [imageArray, Option.toList_none, List.append_nil]
        exact sourced.collected download member
  | some imageData =>
      obtain ⟨download, finished, present, ended, outcome⟩ := ImageWorld.step_finish taken
      obtain ⟨url, _, linked, _, imageUrls, imageArray, _⟩ := ImageDownload.finish_cases ended
      have member := List.mem_of_getElem? present
      have came : content url = some imageData := fetches url (by rw [present]; exact linked) imageData rfl
      obtain ⟨picture, decoded, known⟩ :=
        (sourced.links download member url (List.mem_of_getElem? linked)).2 imageData came
      rw [Option.bind_some, decoded] at outcome imageArray
      rcases outcome with ⟨none, _⟩ | ⟨_, _, rfl⟩
      · cases none
      · refine ⟨sourced.running, Pool.forall_set sourced.links ?_, Pool.forall_set sourced.collected ?_, sourced.shown⟩
        · rw [imageUrls]
          exact sourced.links download member
        · rw [imageArray, Option.toList_some]
          exact Pool.forall_append (sourced.collected download member) fun other same =>
            List.mem_singleton.mp same ▸ known

/-- A completion shows what its call has collected. -/
theorem main (sourced : view.Sourced wellFormed content image source world)
    (taken : world.step view.toImageClient wellFormed image .main = some next) :
    view.Sourced wellFormed content image source next := by
  obtain ⟨number, rest, download, _, present, rfl⟩ := ImageWorld.step_main taken
  refine ⟨sourced.running, sourced.links, sourced.collected, fun picture shown => ?_⟩
  rcases List.mem_append.mp (view.completes download.imageArray world.view shown) with collected | before
  · exact sourced.collected download (List.mem_of_getElem? present) picture collected
  · exact sourced.shown picture before

/-- Every step keeps the sources when the links of each new item lead to them. -/
theorem step (sourced : view.Sourced wellFormed content image source world)
    {event : ImageEvent (Option Item)} (fetches : world.Fetches content event)
    (leads : ∀ item, event = .fill item → ∀ links, item.bind Item.imageLinks = some links →
      ∀ url ∈ links, LeadsTo wellFormed content image source url)
    (taken : world.step view.toImageClient wellFormed image event = some next) :
    view.Sourced wellFormed content image source next := by
  cases event with
  | fill item => exact sourced.fill (leads item rfl) taken
  | start number index => exact sourced.start taken
  | finish number index data => exact sourced.finish fetches taken
  | main => exact sourced.main taken

end Sourced

end PictureView

/-- The links of a stored item lead to the pictures of the form that published it. -/
theorem Market.Linked.leads {market : Market} {link : StoragePath → String} {past : List UploadEntry}
    (linked : market.Linked link) (illustrated : market.Illustrated link past) {wellFormed : String → Bool}
    {image : ImageData → Option UIImage} (urls : ∀ fileName, wellFormed (link fileName) = true)
    (decodes : ∀ picture imageData, UIImage.jpegData picture = some imageData → (image imageData).isSome = true)
    {item : Item} (keeps : market.shop.store.Keeps item) :
    ∃ publication ∈ market.publications, item = Item.ofDictionary (itemDictionaryFrom publication.item) ∧
      ∀ links, item.imageLinks = some links → ∀ url ∈ links,
        LeadsTo wellFormed (market.content link) image (· ∈ publication.pictures image) url := by
  obtain ⟨name, data, stored, rfl, _⟩ := keeps
  obtain ⟨publication, member, files, rfl, all, own, encoded⟩ := illustrated.item stored
  refine ⟨publication, member, rfl, fun links has url inside => ?_⟩
  obtain rfl := Option.some.inj (own.symm.trans has)
  obtain ⟨fileName, inFiles, rfl⟩ := List.mem_map.mp inside
  obtain ⟨nameSuffix, numbered, rfl⟩ := List.mem_map.mp (all.mem_iff.mp inFiles)
  have picked := List.getElem?_eq_getElem (List.mem_range.mp numbered)
  obtain ⟨imageData, jpeg, only⟩ := encoded nameSuffix _ picked
  obtain ⟨photo, same, jpegData⟩ := Option.bind_eq_some_iff.mp jpeg
  obtain ⟨picture, shown⟩ := Option.isSome_iff_exists.mp (decodes photo imageData jpegData)
  refine ⟨urls _, fun content served => ?_⟩
  obtain rfl := Option.some.inj ((linked.content only).symm.trans served)
  refine ⟨picture, shown, List.mem_filterMap.mpr ⟨_, List.mem_of_getElem? picked, ?_⟩⟩
  rw [jpeg]
  exact shown

/-- A screen of the app shows the item in a row or as its own. -/
inductive App.Shows (app : App) (item : Item) : Prop where
  | table {table : ItemsTable} (opened : table ∈ app.tables) (row : item ∈ table.itemArray)
  | basket {number : Nat} (row : item ∈ (app.device number).screen.allItems)
  | history {history : PurchasedHistory} (opened : history ∈ app.histories) (row : item ∈ history.itemArray)
  | search {number : Nat} (row : item ∈ (app.searches number).searchResults)
  | view {view : ItemView} (opened : view ∈ app.views) (own : view.item = item)

theorem App.Shows.kind {app : App} {item : Item} (shows : app.Shows item) {kind : Item → Prop}
    (lists : app.Lists kind) : kind item := by
  cases shows with
  | table opened row => exact lists.tables _ opened item row
  | basket row => exact (lists.shop.devices _).rows item row
  | history opened row => exact (lists.histories _ opened).rows item row
  | search row => exact (lists.searches _).rows item row
  | view opened own => exact own ▸ lists.views _ opened

/-- The store keeps an item that a screen has shown at any moment of the run. -/
theorem App.keeps_shown {double : String → Option Double} {link : StoragePath → String} {app reached : App}
    {before after : List AppEvent} (ran : App.start.run double link (before ++ after) = some app)
    (ranBefore : App.start.run double link before = some reached) {item : Item} (shows : reached.Shows item) :
    app.market.shop.store.Keeps item := by
  rw [App.run, Transition.run_append ranBefore] at ran
  have sound := App.Sound.start.run ranBefore
  obtain ⟨itemId, data, stored, decoded, named⟩ := shows.kind sound.lists
  exact ⟨itemId, data, sound.keeps ran (.items, itemId) data stored, decoded, named⟩

/-- A cell or an item screen may be filled again and again with items that the screens of the app have shown. When the
links of the storage are URLs and the encoded images decode, no download of a picture stops the application, and each
picture that such a view gets is a picture of the form that published one of its items. -/
theorem views_show_published_pictures (double : String → Option Double) (link : StoragePath → String)
    (wellFormed : String → Bool) (image : ImageData → Option UIImage) {app : App} {events : List AppEvent}
    (ran : App.start.run double link events = some app) (linked : app.market.Linked link)
    (urls : ∀ fileName, wellFormed (link fileName) = true)
    (decodes : ∀ picture imageData, UIImage.jpegData picture = some imageData → (image imageData).isSome = true)
    {View : Type} (view : PictureView View) {initial : View} {final : ImageWorld View}
    {filled : List (ImageEvent (Option Item))}
    (given : ∀ item, .fill (some item) ∈ filled → ∃ before after reached, events = before ++ after ∧
      App.start.run double link before = some reached ∧ reached.Shows item)
    (fetches : Transition.Along (ImageWorld.step view.toImageClient wellFormed image)
      (ImageWorld.Fetches (app.market.content link)) { view := initial } filled)
    (ranView : ImageWorld.run view.toImageClient wellFormed image { view := initial } filled = some final) :
    final.trapped = false ∧ ∀ picture ∈ view.pictures final.view, picture ∈ view.pictures initial ∨
      ∃ item, .fill (some item) ∈ filled ∧ ∃ publication ∈ app.market.publications,
        item = Item.ofDictionary (itemDictionaryFrom publication.item) ∧ picture ∈ publication.pictures image := by
  obtain ⟨past, illustrated⟩ := App.illustrated_of_run ran
  have sourced := Transition.run_invariant (view.Sourced wellFormed (app.market.content link) image fun picture =>
      picture ∈ view.pictures initial ∨ ∃ item, .fill (some item) ∈ filled ∧
        ∃ publication ∈ app.market.publications, item = Item.ofDictionary (itemDictionaryFrom publication.item) ∧
          picture ∈ publication.pictures image)
    (fun world event next sourced met taken => sourced.step met.1 (fun content same links has url inside => ?_) taken)
    ⟨rfl, fun download nothing => absurd nothing List.not_mem_nil,
      fun download nothing => absurd nothing List.not_mem_nil, fun picture shown => .inl shown⟩
    (fetches.and (.of_forall fun event member => member)) ranView
  · exact ⟨sourced.running, sourced.shown⟩
  · obtain ⟨item, rfl, own⟩ := Option.bind_eq_some_iff.mp has
    have member : .fill (some item) ∈ filled := same ▸ met.2
    obtain ⟨before, after, reached, rfl, ranBefore, shows⟩ := given item member
    obtain ⟨publication, published, decoded, leads⟩ :=
      linked.leads illustrated urls decodes (App.keeps_shown ran ranBefore shows)
    obtain ⟨wellFormed, contents⟩ := leads links own url inside
    refine ⟨wellFormed, fun imageData served => ?_⟩
    obtain ⟨picture, shown, inForm⟩ := contents imageData served
    exact ⟨picture, shown, .inr ⟨item, member, publication, published, decoded, inForm⟩⟩

/-- The row of the item gets the picture of its first link. -/
def rowPicture (item : Item) : List (ImageEvent (Option Item)) :=
  [.fill (some item), .start 0 0, .finish 0 0 (some [1]), .main]

theorem rowPicture_run {item : Item} {front back : String} (links : item.imageLinks = some [front, back])
    {content : String → Option ImageData} (served : content front = some [1]) :
    Transition.Along (ImageWorld.step ItemTableViewCell.client (fun _ => true) decoded) (ImageWorld.Fetches content)
        emptyCell (rowPicture item) ∧
      ∃ final, emptyCell.run ItemTableViewCell.client (fun _ => true) decoded (rowPicture item) = some final ∧
        final.view.itemImageView = some ⟨some [1]⟩ := by
  obtain ⟨id, categoryId, name, description, price, imageLinks⟩ := item
  obtain rfl := links
  refine ⟨⟨trivial, ?_⟩, _, rfl, rfl⟩
  rintro _ ⟨⟩
  refine ⟨trivial, ?_⟩
  rintro _ ⟨⟩
  refine ⟨?_, fun _ _ => ⟨trivial, fun _ _ => trivial⟩⟩
  rintro _ ⟨⟩ _ ⟨⟩
  exact served

/-- The row of the opened item shows an image of the form. -/
theorem views_show_published_pictures_row :
    ∃ app item final, App.start.run sellerDouble sellerLink openedPictures = some app ∧
      emptyCell.run ItemTableViewCell.client (fun _ => true) decoded (rowPicture item) = some final ∧
      final.trapped = false ∧ final.view.itemImageView = some ⟨some [1]⟩ ∧
      ∃ publication ∈ app.market.publications, ⟨some [1]⟩ ∈ publication.pictures decoded := by
  obtain ⟨app, view, ran, views, linked, links, served⟩ : ∃ app view,
      App.start.run sellerDouble sellerLink openedPictures = some app ∧ app.views = [view] ∧
        app.market.Linked sellerLink ∧
        view.item.imageLinks = some [sellerLink (imageFileName "A" 1), sellerLink (imageFileName "A" 0)] ∧
        app.market.content sellerLink (sellerLink (imageFileName "A" 1)) = some [1] :=
    ⟨_, _, rfl, rfl, by decide, rfl, rfl⟩
  obtain ⟨fetches, final, ranRow, shown⟩ := rowPicture_run links served
  have given : ∀ item, .fill (some item) ∈ rowPicture view.item → ∃ before after reached,
      openedPictures = before ++ after ∧ App.start.run sellerDouble sellerLink before = some reached ∧
        reached.Shows item := by
    intro item member
    have same : item = view.item := by simpa [rowPicture] using member
    exact ⟨openedPictures, [], app, (List.append_nil _).symm, ran, .view (views ▸ List.mem_cons_self) same.symm⟩
  obtain ⟨running, pictures⟩ := views_show_published_pictures sellerDouble sellerLink (fun _ => true) decoded ran linked
    (fun _ => rfl) (fun _ _ _ => rfl) ItemTableViewCell.pictureView given fetches ranRow
  rcases pictures ⟨some [1]⟩ (Option.mem_toList.mpr shown) with placeholder | ⟨_, _, publication, member, _, inForm⟩
  · cases List.mem_singleton.mp placeholder
  · exact ⟨app, view.item, final, ran, ranRow, running, shown, publication, member, inForm⟩

end ShoppingApp
