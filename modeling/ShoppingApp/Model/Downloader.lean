import ShoppingApp.Library.Pool
import ShoppingApp.Library.Transition
import ShoppingApp.Model.Publishing

namespace ShoppingApp

/-- The task of a link waits on its own queue, fetches the data, or is over. -/
inductive DownloadPhase where
  | queued
  | fetching
  | finished
  deriving DecidableEq

structure DownloadTask where
  link : String
  phase : DownloadPhase := .queued
  deriving DecidableEq

def DownloadTask.started (task : DownloadTask) : Bool := decide (task.phase ≠ .queued)

/-- A task keeps its link in every phase. -/
theorem DownloadTask.links_set {tasks : List DownloadTask} {index : Nat} {task : DownloadTask}
    (found : tasks[index]? = some task) (phase : DownloadPhase) :
    (tasks.set index ⟨task.link, phase⟩).map DownloadTask.link = tasks.map DownloadTask.link :=
  Pool.map_set_same DownloadTask.link found rfl

/-- The started tasks are counted again when one task goes on. -/
theorem DownloadTask.countP_set {tasks : List DownloadTask} {index : Nat} {task : DownloadTask}
    (found : tasks[index]? = some task) (changed : DownloadTask) :
    (tasks.set index changed).countP started + (if task.started then 1 else 0) =
      tasks.countP started + if changed.started then 1 else 0 := by
  obtain ⟨inside, rfl⟩ := List.getElem?_eq_some_iff.mp found
  have positive : (if tasks[index].started then 1 else 0) ≤ tasks.countP started := by
    split
    · rename_i begun
      exact List.countP_pos_iff.mpr ⟨_, List.getElem_mem inside, begun⟩
    · exact Nat.zero_le _
  rw [List.countP_set inside]
  omega

/-- The tasks of one call of `downloadImages` share the array and the counter of the started tasks. -/
structure ImageDownload where
  imageUrls : List String
  tasks : List DownloadTask
  imageArray : List UIImage
  downloadedCounter : Nat
  dispatched : tasks.map DownloadTask.link = imageUrls
  counted : downloadedCounter = tasks.countP DownloadTask.started

/-- The loop puts one task on a new queue for each link. -/
def downloadImages (imageUrls : List String) : ImageDownload where
  imageUrls := imageUrls
  tasks := imageUrls.map fun link => { link := link }
  imageArray := []
  downloadedCounter := 0
  dispatched := by simp [Function.comp_def]
  counted := by
    rw [List.countP_map]
    exact (List.countP_eq_zero.mpr fun link _ => Bool.false_ne_true).symm

namespace ImageDownload

/-- A task counts itself before it fetches. -/
def start (index : Nat) (download : ImageDownload) : Option ImageDownload :=
  match found : download.tasks[index]? with
  | some ⟨link, .queued⟩ => some
      { imageUrls := download.imageUrls
        tasks := download.tasks.set index ⟨link, .fetching⟩
        imageArray := download.imageArray
        downloadedCounter := download.downloadedCounter + 1
        dispatched := (DownloadTask.links_set found .fetching).trans download.dispatched
        counted := download.counted ▸ (DownloadTask.countP_set found ⟨link, .fetching⟩).symm }
  | _ => none

/-- A fetched picture is appended, and a fetch without data only ends its task. -/
def finish (index : Nat) (picture : Option UIImage) (download : ImageDownload) : Option ImageDownload :=
  match found : download.tasks[index]? with
  | some ⟨link, .fetching⟩ => some
      { imageUrls := download.imageUrls
        tasks := download.tasks.set index ⟨link, .finished⟩
        imageArray := download.imageArray ++ picture.toList
        downloadedCounter := download.downloadedCounter
        dispatched := (DownloadTask.links_set found .finished).trans download.dispatched
        counted := download.counted.trans (Nat.succ.inj (DownloadTask.countP_set found ⟨link, .finished⟩)).symm }
  | _ => none

/-- A task that starts was queued, and it counts itself. -/
theorem start_cases {download started : ImageDownload} {index : Nat} (begun : download.start index = some started) :
    ∃ link, download.tasks[index]? = some ⟨link, .queued⟩ ∧
      started.tasks = download.tasks.set index ⟨link, .fetching⟩ ∧
      started.imageUrls = download.imageUrls ∧ started.imageArray = download.imageArray ∧
      started.downloadedCounter = download.downloadedCounter + 1 := by
  unfold start at begun
  split at begun
  · rename_i link found
    obtain rfl := Option.some.inj begun
    exact ⟨link, found, rfl, rfl, rfl, rfl⟩
  · cases begun

/-- A task that ends was fetching, and it appends what it fetched. -/
theorem finish_cases {download finished : ImageDownload} {index : Nat} {picture : Option UIImage}
    (ended : download.finish index picture = some finished) :
    ∃ link, download.tasks[index]? = some ⟨link, .fetching⟩ ∧ download.imageUrls[index]? = some link ∧
      finished.tasks = download.tasks.set index ⟨link, .finished⟩ ∧
      finished.imageUrls = download.imageUrls ∧ finished.imageArray = download.imageArray ++ picture.toList ∧
      finished.downloadedCounter = download.downloadedCounter := by
  unfold finish at ended
  split at ended
  · rename_i link found
    obtain rfl := Option.some.inj ended
    refine ⟨link, found, ?_, rfl, rfl, rfl, rfl⟩
    rw [← download.dispatched, List.getElem?_map, found]
    rfl
  · cases ended

/-- All tasks of the call are over. -/
def Finished (download : ImageDownload) : Prop := ∀ task ∈ download.tasks, task.phase = .finished

instance (download : ImageDownload) : Decidable download.Finished :=
  inferInstanceAs (Decidable (∀ task ∈ download.tasks, task.phase = .finished))

/-- All tasks of the call have started. -/
def allStarted (download : ImageDownload) : Bool :=
  decide (download.downloadedCounter = download.imageUrls.length)

theorem allStarted_iff (download : ImageDownload) :
    download.allStarted = true ↔ ∀ task ∈ download.tasks, task.phase ≠ .queued := by
  rw [allStarted, decide_eq_true_iff, download.counted, ← download.dispatched, List.length_map, List.countP_eq_length]
  exact forall₂_congr fun task _ => decide_eq_true_iff

end ImageDownload

/-- A view starts downloads when it gets its content, and the completion puts the delivered images on it. -/
structure ImageClient (View Content : Type) where
  fill : Content → View → View × Option (List String)
  completion : List UIImage → View → View

/-- A recording client does what its client does, and it keeps the images of each call of its completion. -/
def ImageClient.recording {View Content : Type} (client : ImageClient View Content) :
    ImageClient (View × List (List UIImage)) Content where
  fill content recorded :=
    (((client.fill content recorded.1).1, recorded.2), (client.fill content recorded.1).2)
  completion images recorded := (client.completion images recorded.1, recorded.2 ++ [images])

/-- The views share the calls of `downloadImages`, and the main queue holds the number of a call for each block. -/
structure ImageWorld (View : Type) where
  view : View
  downloads : List ImageDownload := []
  mainQueue : List Nat := []
  trapped : Bool := false

/-- The view gets its content, a task starts, its fetch ends with data or nothing, or the main queue runs a block. -/
inductive ImageEvent (Content : Type) where
  | fill (content : Content)
  | start (number index : Nat)
  | finish (number index : Nat) (data : Option ImageData)
  | main

/-- These are the observable parts of a step. -/
inductive ImageEntry (Content : Type) where
  | filled (content : Content)
  | started (number : Nat)
  | downloaded (number : Nat) (link : String) (picture : UIImage)
  | completed (number : Nat) (images : List UIImage)

namespace ImageWorld

variable {View Content : Type}

/-- The parameters stand for the success of `NSURL(string:)` and for `UIImage(data:)`, whose results are unwrapped by
force. A stopped application takes no step. -/
def step (client : ImageClient View Content) (wellFormed : String → Bool) (image : ImageData → Option UIImage)
    (world : ImageWorld View) (event : ImageEvent Content) : Option (ImageWorld View) :=
  if world.trapped then none
  else match event with
  | .fill content =>
      let filled := client.fill content world.view
      some { world with
        view := filled.1
        downloads := world.downloads ++ (filled.2.map downloadImages).toList }
  | .start number index =>
      world.downloads[number]?.bind fun download =>
        (download.start index).map fun started =>
          { world with
            downloads := world.downloads.set number started
            trapped := !(download.imageUrls[index]?).all wellFormed }
  | .finish number index data =>
      world.downloads[number]?.bind fun download =>
        (download.finish index (data.bind image)).map fun finished =>
          if data.isSome && (data.bind image).isNone then { world with trapped := true }
          else { world with
            downloads := world.downloads.set number finished
            mainQueue := world.mainQueue ++
              if (data.bind image).isSome && download.allStarted then [number] else [] }
  | .main =>
      match world.mainQueue with
      | [] => none
      | number :: rest =>
          -- The block reads the array when it runs, not when it was put on the queue.
          world.downloads[number]?.map fun download =>
            { world with view := client.completion download.imageArray world.view, mainQueue := rest }

abbrev run (client : ImageClient View Content) (wellFormed : String → Bool) (image : ImageData → Option UIImage)
    (world : ImageWorld View) (events : List (ImageEvent Content)) : Option (ImageWorld View) :=
  Transition.run (step client wellFormed image) world events

section Steps

variable {client : ImageClient View Content} {wellFormed : String → Bool} {image : ImageData → Option UIImage}
  {world next : ImageWorld View}

theorem step_fill {content : Content} (taken : world.step client wellFormed image (.fill content) = some next) :
    next = { world with
      view := (client.fill content world.view).1
      downloads := world.downloads ++ ((client.fill content world.view).2.map downloadImages).toList } := by
  unfold step at taken
  split at taken
  · cases taken
  · exact (Option.some.inj taken).symm

theorem step_start {number index : Nat} (taken : world.step client wellFormed image (.start number index) = some next) :
    ∃ download started, world.downloads[number]? = some download ∧ download.start index = some started ∧
      next = { world with
        downloads := world.downloads.set number started
        trapped := !(download.imageUrls[index]?).all wellFormed } := by
  unfold step at taken
  split at taken
  · cases taken
  · obtain ⟨download, present, taken⟩ := Option.bind_eq_some_iff.mp taken
    obtain ⟨started, begun, same⟩ := Option.map_eq_some_iff.mp taken
    exact ⟨download, started, present, begun, same.symm⟩

/-- A fetch ends without a picture, with data that stops the application, or with a picture. -/
theorem step_finish {number index : Nat} {data : Option ImageData}
    (taken : world.step client wellFormed image (.finish number index data) = some next) :
    ∃ download finished, world.downloads[number]? = some download ∧
      download.finish index (data.bind image) = some finished ∧
      (data.bind image = none ∧ (next = { world with trapped := true } ∨
          data = none ∧ next = { world with downloads := world.downloads.set number finished }) ∨
        ∃ picture, data.bind image = some picture ∧ next = { world with
          downloads := world.downloads.set number finished
          mainQueue := world.mainQueue ++ if download.allStarted then [number] else [] }) := by
  unfold step at taken
  split at taken
  · cases taken
  · obtain ⟨download, present, taken⟩ := Option.bind_eq_some_iff.mp taken
    obtain ⟨finished, ended, same⟩ := Option.map_eq_some_iff.mp taken
    refine ⟨download, finished, present, ended, ?_⟩
    cases fetched : data.bind image with
    | some picture => exact .inr ⟨picture, rfl, by simpa [fetched] using same.symm⟩
    | none =>
        cases data with
        | none => exact .inl ⟨rfl, .inr ⟨rfl, by simpa using same.symm⟩⟩
        | some bytes => exact .inl ⟨rfl, .inl (by simpa [fetched] using same.symm)⟩

/-- The main queue runs its first block. -/
theorem step_main (taken : world.step client wellFormed image .main = some next) :
    ∃ number rest download, world.mainQueue = number :: rest ∧ world.downloads[number]? = some download ∧
      next = { world with view := client.completion download.imageArray world.view, mainQueue := rest } := by
  unfold step at taken
  split at taken
  · cases taken
  · dsimp only at taken
    split at taken
    · cases taken
    · rename_i number rest queue
      obtain ⟨download, present, same⟩ := Option.map_eq_some_iff.mp taken
      exact ⟨number, rest, download, queue, present, same.symm⟩

end Steps

/-- The images that a call has collected. -/
def imageArray (world : ImageWorld View) (number : Nat) : List UIImage :=
  ((world.downloads[number]?).map ImageDownload.imageArray).getD []

/-- The world of a recording client, with the calls that it has recorded. -/
def recording (calls : List (List UIImage)) (world : ImageWorld View) : ImageWorld (View × List (List UIImage)) where
  view := (world.view, calls)
  downloads := world.downloads
  mainQueue := world.mainQueue
  trapped := world.trapped

section Entries

variable (client : ImageClient View Content) (wellFormed : String → Bool) (image : ImageData → Option UIImage)

/-- The images of the completion calls of a step, as a recording client gets them. -/
def completions (world : ImageWorld View) (event : ImageEvent Content) : List (List UIImage) :=
  (((world.recording []).step client.recording wellFormed image event).map fun next => next.view.2).getD []

/-- The call whose task or block the event runs. -/
def caller (world : ImageWorld View) : ImageEvent Content → Nat
  | .fill _ => world.downloads.length
  | .start number _ | .finish number _ _ => number
  | .main => world.mainQueue.headD 0

/-- A downloaded picture belongs to the link of its task. -/
def observed (world : ImageWorld View) : ImageEvent Content → List (ImageEntry Content)
  | .fill content => [.filled content]
  | .start number _ => [.started number]
  | .finish number index data =>
      ((world.downloads[number]?.bind fun download => download.imageUrls[index]?).bind fun link =>
        (data.bind image).map fun picture => .downloaded number link picture).toList
  | .main => []

/-- What an event brings is recorded before the completion calls of its step. -/
def entries (world : ImageWorld View) (event : ImageEvent Content) : List (ImageEntry Content) :=
  world.observed image event ++
    (world.completions client wellFormed image event).map (.completed (world.caller event))

end Entries

section Recording

variable {client : ImageClient View Content} {wellFormed : String → Bool} {image : ImageData → Option UIImage}
  {world next : ImageWorld View} {event : ImageEvent Content}

/-- A recording client takes the steps of its client, and it gets the images of the block that runs. -/
theorem step_recording (taken : world.step client wellFormed image event = some next) :
    (world.recording []).step client.recording wellFormed image event = some (next.recording (match event with
      | .main => world.mainQueue.head?.toList.map world.imageArray
      | _ => [])) := by
  unfold step at taken ⊢
  rw [show (world.recording []).trapped = world.trapped from rfl]
  split at taken
  · cases taken
  rename_i running
  rw [if_neg running]
  cases event with
  | fill content =>
      obtain rfl := Option.some.inj taken
      rfl
  | start number index =>
      obtain ⟨download, present, taken⟩ := Option.bind_eq_some_iff.mp taken
      obtain ⟨started, begun, rfl⟩ := Option.map_eq_some_iff.mp taken
      exact Option.bind_eq_some_iff.mpr ⟨download, present, Option.map_eq_some_iff.mpr ⟨started, begun, rfl⟩⟩
  | finish number index data =>
      obtain ⟨download, present, taken⟩ := Option.bind_eq_some_iff.mp taken
      obtain ⟨finished, ended, rfl⟩ := Option.map_eq_some_iff.mp taken
      refine Option.bind_eq_some_iff.mpr ⟨download, present, Option.map_eq_some_iff.mpr ⟨finished, ended, ?_⟩⟩
      split <;> rfl
  | main =>
      dsimp only [recording] at taken ⊢
      split at taken
      · cases taken
      · rename_i number rest queue
        obtain ⟨download, present, rfl⟩ := Option.map_eq_some_iff.mp taken
        simp [ImageClient.recording, queue, present, imageArray]

/-- Nothing but a block of the main queue calls the completion. -/
theorem completions_of_step (taken : world.step client wellFormed image event = some next) :
    world.completions client wellFormed image event = match event with
      | .main => world.mainQueue.head?.toList.map world.imageArray
      | _ => [] := by
  rw [completions, step_recording taken]
  rfl

theorem entries_fill {content : Content}
    (taken : world.step client wellFormed image (.fill content) = some next) :
    world.entries client wellFormed image (.fill content) = [.filled content] := by
  rw [entries, completions_of_step taken]
  rfl

theorem entries_start {number index : Nat}
    (taken : world.step client wellFormed image (.start number index) = some next) :
    world.entries client wellFormed image (.start number index) = [.started number] := by
  rw [entries, completions_of_step taken]
  rfl

/-- A fetch without a picture is not recorded, and a picture is recorded with the link of its task. -/
theorem entries_finish {number index : Nat} {data : Option ImageData} {download : ImageDownload} {link : String}
    (taken : world.step client wellFormed image (.finish number index data) = some next)
    (present : world.downloads[number]? = some download) (linked : download.imageUrls[index]? = some link) :
    world.entries client wellFormed image (.finish number index data) =
      ((data.bind image).map fun picture => .downloaded number link picture).toList := by
  rw [entries, completions_of_step taken, observed, present, Option.bind_some, linked, Option.bind_some]
  exact List.append_nil _

/-- The first block of the main queue calls the completion with the images of its call. -/
theorem entries_main {number : Nat} {rest : List Nat}
    (taken : world.step client wellFormed image .main = some next) (queue : world.mainQueue = number :: rest) :
    world.entries client wellFormed image .main = [.completed number (world.imageArray number)] := by
  rw [entries, completions_of_step taken, caller, queue]
  rfl

end Recording

end ImageWorld

/-! The two views that show downloaded images. -/

/-- The labels of a cell keep the values that they show. -/
structure ItemTableViewCell where
  item : Option Item := none
  nameLabel : Option String := none
  descriptionLabel : Option String := none
  priceLabel : Double := .zero
  itemImageView : Option UIImage

/-- The cell shows the picture of this link. -/
def firstLink (item : Option Item) : Option String := (item.bind Item.imageLinks).bind List.head?

/-- This is the observer `didSet` of `ItemTableViewCell.item` with the completion of its download. -/
def ItemTableViewCell.client : ImageClient ItemTableViewCell (Option Item) where
  fill item cell :=
    ({ cell with
        item := item
        nameLabel := item.bind Item.name
        descriptionLabel := item.bind Item.description
        priceLabel := (item.bind Item.price).getD .zero },
      (firstLink item).map fun link => [link])
  completion images cell := { cell with itemImageView := images.head? }

structure ItemViewController where
  item : Option Item := none
  itemImages : List UIImage := []

/-- This is `downloadItemPictures` with the completion of its download. -/
def ItemViewController.client : ImageClient ItemViewController (Option Item) where
  fill item screen := ({ screen with item := item }, item.bind Item.imageLinks)
  completion images screen := if 0 < images.length then { screen with itemImages := images } else screen

end ShoppingApp
