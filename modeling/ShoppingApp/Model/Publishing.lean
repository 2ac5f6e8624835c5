import ShoppingApp.Model.Category
import ShoppingApp.Model.World

namespace ShoppingApp

abbrev ImageData := List UInt8

/-- A picture is kept as the result of `jpegData(compressionQuality: 0.5)`. -/
structure UIImage where
  jpegData : Option ImageData
  deriving DecidableEq

/-- A file name is split at its slashes. -/
abbrev StoragePath := List String

/-- The images of an item lie in one folder and are numbered in the order of their selection. -/
def imageFileName (itemId : String) (nameSuffix : Nat) : StoragePath :=
  ["ItemImages", itemId, toString nameSuffix ++ ".jpg"]

/-- These are the variables of `AddItemViewController` on one device and the number of times it was popped. -/
structure AddItemScreen where
  device : Nat
  category : Category
  titleTextField : String := ""
  priceTextField : String := ""
  -- The text view of the storyboard has this text.
  descriptionTextView : String := "Description"
  itemImages : List (Option UIImage) := []
  loading : Bool := false
  popped : Nat := 0

/-- One call of `saveToFireStore` shares its item with the callbacks, and `uploadImages` shares its counters. -/
structure Publication where
  screen : Nat
  item : Item
  itemId : String
  images : List (Option UIImage)
  uploadedImageCount : Nat := 0
  imageLinkArray : List String := []

/-- A request carries the publication that issued it. -/
inductive PublishRequest where
  | putData (publication : Nat) (fileName : StoragePath) (imageData : ImageData)
  | downloadURL (publication : Nat) (fileName : StoragePath)
  | setItem (publication : Nat) (name : String) (data : Dictionary)
  | addObject (publication : Nat) (object : Dictionary) (withID : String)
  | setCategory (name : String) (data : Dictionary)

inductive PublishReply where
  | failed
  | done
  | url (absoluteString : String)

structure PublishFlight where
  request : PublishRequest
  reply : Option PublishReply

/-- A handler of the add-item screen leaves its screen and its publication, and it can stop the application. -/
structure PublishOutcome where
  screen : AddItemScreen
  publication : Publication
  issued : List PublishRequest := []
  trapped : Bool := false

/-- The loop stores one file for each image, and an image that is nil or cannot be encoded stops it by a trap. -/
def uploadImages (publication : Nat) (itemId : String) : Nat → List (Option UIImage) → List PublishRequest × Bool
  | _, [] => ([], false)
  | nameSuffix, image :: rest =>
      match image.bind UIImage.jpegData with
      | none => ([], true)
      | some imageData =>
          let later := uploadImages publication itemId (nameSuffix + 1) rest
          (.putData publication (imageFileName itemId nameSuffix) imageData :: later.1, later.2)

/-- The item gets a new identifier before it is written. -/
def saveItemsToFireStore (publication : Nat) (uuid : String) (item : Item) : Item × PublishRequest :=
  let item := { item with id := some uuid }
  (item, .setItem publication uuid (itemDictionaryFrom item))

/-- The identifier of the item is unwrapped by force. -/
def saveItemToAlgolia (publication : Nat) (item : Item) : Option PublishRequest :=
  item.id.map fun id => .addObject publication (itemDictionaryFrom item) id

/-- Both branches of `saveToFireStore` end by writing the item and leaving the screen. -/
def Publication.finish (number : Nat) (uuid : String) (screen : AddItemScreen) (publication : Publication) :
    PublishOutcome :=
  let saved := saveItemsToFireStore number uuid publication.item
  let publication := { publication with item := saved.1 }
  match saveItemToAlgolia number saved.1 with
  | none => ⟨screen, publication, [saved.2], true⟩
  | some addObject =>
      ⟨{ screen with loading := false, popped := screen.popped + 1 }, publication, [saved.2, addObject], false⟩

/-- This is the completion of `saveImageInFirebase` in `uploadImages`. -/
def Publication.imageSaved (number : Nat) (uuid : String) (imageLink : Option String) (screen : AddItemScreen)
    (publication : Publication) : PublishOutcome :=
  match imageLink with
  | none => ⟨screen, publication, [], false⟩
  | some imageLink =>
      let publication := { publication with
        imageLinkArray := publication.imageLinkArray ++ [imageLink]
        uploadedImageCount := publication.uploadedImageCount + 1 }
      if publication.uploadedImageCount = publication.images.length then
        { publication with item := { publication.item with imageLinks := some publication.imageLinkArray } }.finish
          number uuid screen
      else ⟨screen, publication, [], false⟩

namespace AddItemScreen

def fieldsAreCompleted (screen : AddItemScreen) : Bool :=
  screen.titleTextField ≠ "" && screen.priceTextField ≠ "" && screen.descriptionTextView ≠ ""

/-- The price text is read by `double`, which stands for `Double(String)`, and the two branches draw one or two new
identifiers. -/
def saveToFireStore (double : String → Option Double) (connected : Bool) (uuids : String × String)
    (own number : Nat) (screen : AddItemScreen) : PublishOutcome :=
  let screen := { screen with loading := true }
  let item : Item :=
    { id := uuids.1, name := screen.titleTextField, categoryId := screen.category.id,
      description := screen.descriptionTextView, price := double screen.priceTextField }
  let publication : Publication := { screen := own, item := item, itemId := uuids.1, images := screen.itemImages }
  if 0 < screen.itemImages.length then
    if connected then
      let uploads := uploadImages number uuids.1 0 screen.itemImages
      ⟨screen, publication, uploads.1, uploads.2⟩
    else ⟨screen, publication, [], false⟩
  else publication.finish number uuids.2 screen

end AddItemScreen

/-- One file is stored for each image before the trap. -/
theorem uploadImages_stores (number : Nat) (itemId : String) (nameSuffix : Nat) (images : List (Option UIImage)) :
    (uploadImages number itemId nameSuffix images).1.length ≤ images.length ∧
      ∀ request ∈ (uploadImages number itemId nameSuffix images).1, ∃ suffix imageData,
        request = .putData number (imageFileName itemId suffix) imageData := by
  induction images generalizing nameSuffix with
  | nil => exact ⟨Nat.le_refl 0, nofun⟩
  | cons image rest ih =>
      unfold uploadImages
      cases image.bind UIImage.jpegData with
      | none => exact ⟨Nat.zero_le _, nofun⟩
      | some imageData =>
          obtain ⟨fewer, stores⟩ := ih (nameSuffix + 1)
          refine ⟨Nat.succ_le_succ fewer, fun request member => ?_⟩
          rcases List.mem_cons.mp member with rfl | later
          · exact ⟨nameSuffix, imageData, rfl⟩
          · exact stores request later

/-- The item is written under a new identifier when the publication finishes. -/
theorem Publication.finish_eq (number : Nat) (uuid : String) (screen : AddItemScreen) (publication : Publication) :
    publication.finish number uuid screen =
      ⟨{ screen with loading := false, popped := screen.popped + 1 },
        { publication with item := { publication.item with id := some uuid } },
        [.setItem number uuid (itemDictionaryFrom { publication.item with id := some uuid }),
          .addObject number (itemDictionaryFrom { publication.item with id := some uuid }) uuid], false⟩ := rfl

/-- A publication starts offline, with its images, or with its item. -/
theorem AddItemScreen.saveToFireStore_cases (double : String → Option Double) (connected : Bool)
    (uuids : String × String) (own number : Nat) (screen : AddItemScreen) :
    let outcome := screen.saveToFireStore double connected uuids own number
    outcome.publication.itemId = uuids.1 ∧ outcome.publication.images = screen.itemImages ∧
      outcome.publication.uploadedImageCount = 0 ∧
      (outcome.publication.item.id = some uuids.1 ∧ outcome.issued = [] ∨
        outcome.publication.item.id = some uuids.1 ∧ screen.itemImages ≠ [] ∧
          outcome.issued = (uploadImages number uuids.1 0 screen.itemImages).1 ∨
        outcome.publication.item.id = some uuids.2 ∧ screen.itemImages = [] ∧
          outcome.issued = [.setItem number uuids.2 (itemDictionaryFrom outcome.publication.item),
            .addObject number (itemDictionaryFrom outcome.publication.item) uuids.2]) := by
  unfold saveToFireStore
  by_cases some : 0 < screen.itemImages.length
  · simp only [some, if_true]
    cases connected with
    | true => exact ⟨rfl, rfl, rfl, .inr (.inl ⟨rfl, List.ne_nil_of_length_pos some, rfl⟩)⟩
    | false => exact ⟨rfl, rfl, rfl, .inl ⟨rfl, rfl⟩⟩
  · simp only [some, if_false]
    have none : screen.itemImages = [] := List.length_eq_zero_iff.mp (Nat.eq_zero_of_not_pos some)
    exact ⟨rfl, rfl, rfl, .inr (.inr ⟨rfl, none, rfl⟩)⟩

/-- The market is the shop with its add-item screens, their publications, the image storage, and the search index. -/
structure Market where
  shop : World
  screens : List AddItemScreen := []
  publications : List Publication := []
  storage : List (StoragePath × ImageData) := []
  algolia : Documents String Dictionary := Documents.empty
  flights : List PublishFlight := []
  used : List String := []

/-- The shop takes a step, a seller uses an add-item screen, a category is saved, or a request of them goes on. -/
inductive MarketEvent where
  | shop (event : Event)
  | openAddItem (device : Nat) (category : Category)
  | editFields (screen : Nat) (title price description : String)
  | cameraButtonWasTapped (screen : Nat)
  | didSelectImages (screen : Nat) (resolvedImages : List (Option UIImage))
  | doneButtonWasTapped (screen : Nat) (connected : Bool) (uuids : String × String)
  | saveCategoryToFireStore (category : Category) (uuid : String)
  | serve (index : Nat) (succeeds : Bool)
  | callback (index : Nat) (uuid : String)

/-- A callback of the shop can draw a new identifier. -/
def Event.uuid : Event → Option String
  | .callback _ uuid => some uuid
  | .gesture _ _ | .serve _ _ => none

/-- A trap stops the whole application of a device. -/
def World.stop (world : World) (number : Nat) : World :=
  { world with devices := Function.update world.devices number { world.devices number with trapped := true } }

/-- The publication that issued the request. -/
def PublishRequest.publication : PublishRequest → Option Nat
  | .putData publication _ _ | .downloadURL publication _ | .setItem publication _ _
  | .addObject publication _ _ => some publication
  | .setCategory _ _ => none

namespace Market

/-- A visible screen of a running application takes the gestures. -/
def usable (market : Market) (screen : AddItemScreen) : Bool :=
  !(market.shop.devices screen.device).trapped && (market.shop.devices screen.device).screen.payment.isNone &&
    decide (screen.popped = 0)

/-- The changed screen takes its place when it is usable. -/
def edit (market : Market) (own : Nat) (change : AddItemScreen → AddItemScreen) : Option Market :=
  market.screens[own]?.bind fun screen =>
    if market.usable screen then some { market with screens := market.screens.set own (change screen) } else none

/-- A handler updates its screen and its publication and adds its requests to the flights. -/
def perform (market : Market) (number : Nat) (outcome : PublishOutcome) : Market :=
  { market with
    shop := if outcome.trapped then market.shop.stop outcome.screen.device else market.shop
    screens := market.screens.set outcome.publication.screen outcome.screen
    publications := market.publications.set number outcome.publication
    flights := market.flights ++ outcome.issued.map fun request => ⟨request, none⟩ }

/-- The Done tap publishes a completed form under new identifiers. -/
def doneButtonWasTapped (double : String → Option Double) (connected : Bool) (uuids : String × String) (own : Nat)
    (screen : AddItemScreen) (market : Market) : Option Market :=
  if screen.fieldsAreCompleted then
    if uuids.1 ∈ market.used ∨ uuids.2 ∈ market.used ∨ uuids.1 = uuids.2 then none
    else
      let outcome := screen.saveToFireStore double connected uuids own market.publications.length
      some ({ market with
        publications := market.publications ++ [outcome.publication]
        used := uuids.1 :: uuids.2 :: market.used }.perform market.publications.length outcome)
  else some market

/-- The services apply a request: a file replaces the file of the same name, and a document the document. -/
def apply (link : StoragePath → String) (market : Market) : PublishRequest → Market × PublishReply
  | .putData _ fileName imageData =>
      ({ market with storage :=
        (fileName, imageData) :: market.storage.filter fun file => decide (file.1 ≠ fileName) }, .done)
  | .downloadURL _ fileName => (market, .url (link fileName))
  | .setItem _ name data =>
      ({ market with shop := { market.shop with store := market.shop.store.setData .items name data } }, .done)
  | .addObject _ object withID => ({ market with algolia := market.algolia.set withID object }, .done)
  | .setCategory name data =>
      ({ market with shop := { market.shop with store := market.shop.store.setData .category name data } }, .done)

/-- The application of the request has stopped. -/
def stopped (market : Market) (request : PublishRequest) : Bool :=
  ((request.publication.bind fun number => market.publications[number]?).bind fun publication =>
    market.screens[publication.screen]?).any fun screen => (market.shop.devices screen.device).trapped

/-- The completion of `saveImageInFirebase` runs on the screen and the publication that started it. -/
def imageSaved (uuid : String) (number : Nat) (imageLink : Option String) (market : Market) : Market :=
  match market.publications[number]? with
  | none => market
  | some publication =>
      match market.screens[publication.screen]? with
      | none => market
      | some screen => market.perform number (publication.imageSaved number uuid imageLink screen)

/-- A stored file is asked for its link, and the link or the failure goes to the completion. -/
def complete (uuid : String) (market : Market) : PublishRequest → PublishReply → Market
  | .putData number fileName _, .done =>
      { market with flights := market.flights ++ [⟨.downloadURL number fileName, none⟩] }
  | .downloadURL number _, .url absoluteString => market.imageSaved uuid number (some absoluteString)
  | .putData number _ _, _ | .downloadURL number _, _ => market.imageSaved uuid number none
  | _, _ => market

/-- The parameters stand for `Double(String)` and for the links that the storage gives to its files. -/
def step (double : String → Option Double) (link : StoragePath → String) (market : Market) :
    MarketEvent → Option Market
  | .shop event =>
      if ∃ uuid ∈ event.uuid, uuid ∈ market.used then none
      else (market.shop.step event).map fun shop =>
        { market with shop := shop, used := event.uuid.toList ++ market.used }
  | .openAddItem device category =>
      some { market with screens := market.screens ++ [{ device := device, category := category }] }
  | .editFields own title price description =>
      market.edit own fun screen =>
        { screen with titleTextField := title, priceTextField := price, descriptionTextView := description }
  | .cameraButtonWasTapped own => market.edit own fun screen => { screen with itemImages := [] }
  | .didSelectImages own resolvedImages =>
      market.edit own fun screen =>
        if 0 < resolvedImages.length then { screen with itemImages := resolvedImages } else screen
  | .doneButtonWasTapped own connected uuids =>
      market.screens[own]?.bind fun screen =>
        if market.usable screen then market.doneButtonWasTapped double connected uuids own screen else none
  | .saveCategoryToFireStore category uuid =>
      if uuid ∈ market.used then none
      else some { market with
        flights := market.flights ++
          [⟨.setCategory uuid (categoryDictionaryFrom { category with id := uuid }), none⟩]
        used := uuid :: market.used }
  | .serve index succeeds =>
      match market.flights[index]? with
      | some ⟨request, none⟩ =>
          if succeeds then
            let applied := market.apply link request
            some { applied.1 with flights := applied.1.flights.set index ⟨request, some applied.2⟩ }
          else some { market with flights := market.flights.set index ⟨request, some .failed⟩ }
      | _ => none
  | .callback index uuid =>
      match market.flights[index]? with
      | some ⟨request, some reply⟩ =>
          if uuid ∈ market.used then none
          else
            let erased : Market :=
              { market with flights := market.flights.eraseIdx index, used := uuid :: market.used }
            some (if market.stopped request then erased else erased.complete uuid request reply)
      | _ => none

/-- The market runs under the two parameters. -/
abbrev run (double : String → Option Double) (link : StoragePath → String) (market : Market)
    (events : List MarketEvent) : Option Market := Transition.run (step double link) market events

variable {double : String → Option Double} {link : StoragePath → String} {market next : Market}

theorem step_shop {event : Event} (taken : market.step double link (.shop event) = some next) :
    (∀ uuid ∈ event.uuid, uuid ∉ market.used) ∧ ∃ shop, market.shop.step event = some shop ∧
      next = { market with shop := shop, used := event.uuid.toList ++ market.used } := by
  simp only [step] at taken
  split at taken
  · cases taken
  · rename_i unused
    obtain ⟨shop, stepped, same⟩ := Option.map_eq_some_iff.mp taken
    exact ⟨fun uuid drawn old => unused ⟨uuid, drawn, old⟩, shop, stepped, same.symm⟩

/-- The gestures that fill the form change the screens alone. -/
theorem edit_screens {own : Nat} {change : AddItemScreen → AddItemScreen}
    (edited : market.edit own change = some next) : ∃ screens, next = { market with screens := screens } := by
  obtain ⟨screen, _, taken⟩ := Option.bind_eq_some_iff.mp edited
  split at taken
  · exact ⟨_, (Option.some.inj taken).symm⟩
  · cases taken

theorem step_doneButtonWasTapped {own : Nat} {connected : Bool} {uuids : String × String}
    (taken : market.step double link (.doneButtonWasTapped own connected uuids) = some next) :
    ∃ screen, market.screens[own]? = some screen ∧ market.usable screen = true ∧
      (screen.fieldsAreCompleted = false ∧ next = market ∨
        screen.fieldsAreCompleted = true ∧ uuids.1 ∉ market.used ∧ uuids.2 ∉ market.used ∧ uuids.1 ≠ uuids.2 ∧
        next = perform { market with
          publications := market.publications ++
            [(screen.saveToFireStore double connected uuids own market.publications.length).publication]
          used := uuids.1 :: uuids.2 :: market.used } market.publications.length
            (screen.saveToFireStore double connected uuids own market.publications.length)) := by
  obtain ⟨screen, found, taken⟩ := Option.bind_eq_some_iff.mp taken
  split at taken
  · rename_i usable
    refine ⟨screen, found, usable, ?_⟩
    simp only [doneButtonWasTapped] at taken
    split at taken
    · rename_i completed
      split at taken
      · cases taken
      · rename_i unused
        simp only [not_or] at unused
        exact .inr ⟨completed, unused.1, unused.2.1, unused.2.2, (Option.some.inj taken).symm⟩
    · rename_i incomplete
      exact .inl ⟨Bool.eq_false_iff.mpr incomplete, (Option.some.inj taken).symm⟩
  · cases taken

theorem step_saveCategoryToFireStore {category : Category} {uuid : String}
    (taken : market.step double link (.saveCategoryToFireStore category uuid) = some next) :
    uuid ∉ market.used ∧ next = { market with
      flights := market.flights ++ [⟨.setCategory uuid (categoryDictionaryFrom { category with id := uuid }), none⟩]
      used := uuid :: market.used } := by
  simp only [step] at taken
  split at taken
  · cases taken
  · rename_i unused
    exact ⟨unused, (Option.some.inj taken).symm⟩

theorem step_serve {index : Nat} {succeeds : Bool}
    (taken : market.step double link (.serve index succeeds) = some next) :
    ∃ request, market.flights[index]? = some ⟨request, none⟩ ∧
      ((succeeds = true ∧ next = { (market.apply link request).1 with
          flights := (market.apply link request).1.flights.set index ⟨request, some (market.apply link request).2⟩ }) ∨
        (succeeds = false ∧ next = { market with flights := market.flights.set index ⟨request, some .failed⟩ })) := by
  simp only [step] at taken
  split at taken
  · rename_i request found
    refine ⟨request, found, ?_⟩
    cases succeeds with
    | true => exact .inl ⟨rfl, (Option.some.inj taken).symm⟩
    | false => exact .inr ⟨rfl, (Option.some.inj taken).symm⟩
  · cases taken

theorem step_callback {index : Nat} {uuid : String}
    (taken : market.step double link (.callback index uuid) = some next) :
    ∃ request reply, market.flights[index]? = some ⟨request, some reply⟩ ∧ uuid ∉ market.used ∧
      ((market.stopped request = true ∧
          next = { market with flights := market.flights.eraseIdx index, used := uuid :: market.used }) ∨
        (market.stopped request = false ∧
          next = complete uuid { market with flights := market.flights.eraseIdx index, used := uuid :: market.used }
            request reply)) := by
  simp only [step] at taken
  split at taken
  · rename_i request reply found
    split at taken
    · cases taken
    · rename_i unused
      refine ⟨request, reply, found, unused, ?_⟩
      cases stopped : market.stopped request with
      | true =>
          rw [stopped, if_pos rfl] at taken
          exact .inl ⟨rfl, (Option.some.inj taken).symm⟩
      | false =>
          rw [stopped, if_neg Bool.false_ne_true] at taken
          exact .inr ⟨rfl, (Option.some.inj taken).symm⟩
  · cases taken

/-- A request changes neither the publications nor the flights when the services apply it. -/
theorem apply_keeps (link : StoragePath → String) (market : Market) (request : PublishRequest) :
    (market.apply link request).1.publications = market.publications ∧
      (market.apply link request).1.flights = market.flights ∧
      (market.apply link request).1.used = market.used := by
  cases request <;> exact ⟨rfl, rfl, rfl⟩

/-- The completion runs on its publication and the screen of it. -/
theorem imageSaved_eq {uuid : String} {number : Nat} {imageLink : Option String} {publication : Publication}
    {screen : AddItemScreen} (present : market.publications[number]? = some publication)
    (shown : market.screens[publication.screen]? = some screen) :
    market.imageSaved uuid number imageLink =
      market.perform number (publication.imageSaved number uuid imageLink screen) := by
  simp only [imageSaved, present, shown]

/-- The completion changes its publication, or the publication or its screen is unknown. -/
theorem imageSaved_cases (uuid : String) (number : Nat) (imageLink : Option String) (market : Market) :
    market.imageSaved uuid number imageLink = market ∨
      ∃ publication screen, market.publications[number]? = some publication ∧
        market.screens[publication.screen]? = some screen ∧
        market.imageSaved uuid number imageLink =
          market.perform number (publication.imageSaved number uuid imageLink screen) := by
  cases found : market.publications[number]? with
  | none => exact .inl (by simp only [imageSaved, found])
  | some publication =>
      cases shown : market.screens[publication.screen]? with
      | none => exact .inl (by simp only [imageSaved, found, shown])
      | some screen => exact .inr ⟨publication, screen, rfl, shown, imageSaved_eq found shown⟩

end Market

end ShoppingApp
