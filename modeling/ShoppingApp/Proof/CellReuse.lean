import ShoppingApp.Proof.ImageDelivery

namespace ShoppingApp

/-- The link whose picture was downloaded. -/
def ImageEntry.link {Content : Type} : ImageEntry Content → Option String
  | .downloaded _ link _ => some link
  | _ => none

namespace ItemTableViewCell

/-- Each fetch gets the picture of its link. -/
def Fetches (image : ImageData → Option UIImage) (picture : String → UIImage) (cell : ImageWorld ItemTableViewCell) :
    ImageEvent (Option Item) → Prop
  | .finish number index data =>
      ∀ link ∈ cell.downloads[number]?.bind fun download => download.imageUrls[index]?,
        data.bind image = some (picture link)
  | _ => True

instance (image : ImageData → Option UIImage) (picture : String → UIImage) (cell : ImageWorld ItemTableViewCell) :
    ∀ event, Decidable (Fetches image picture cell event)
  | .finish number index data => inferInstanceAs (Decidable (∀ link ∈ cell.downloads[number]?.bind fun download =>
      download.imageUrls[index]?, data.bind image = some (picture link)))
  | .fill _ | .start _ _ | .main => inferInstanceAs (Decidable True)

/-- The cell shows the picture of the last block that ran, and the waiting blocks hold the later pictures. -/
structure Reused (picture : String → UIImage) (placeholder : UIImage) (cell : ImageWorld ItemTableViewCell)
    (past : List (ImageEntry (Option Item))) : Prop where
  urls : cell.downloads.map ImageDownload.imageUrls =
    ((past.filterMap ImageEntry.content).filterMap firstLink).map fun link => [link]
  single : ∀ download ∈ cell.downloads, ∃ task, download.tasks = [task] ∧
    (task.phase = .finished ∧ past.filterMap ImageEntry.link ≠ [] ∨ task.phase ≠ .finished ∧ download.imageArray = [])
  known : past.filterMap ImageEntry.link ≠ [] → (past.filterMap ImageEntry.content).filterMap firstLink ≠ []
  shown : ∃ ran waiting, past.filterMap ImageEntry.link = ran ++ waiting ∧
    cell.mainQueue.map cell.imageArray = waiting.map (fun link => [picture link]) ∧
    cell.view.itemImageView = some ((ran.map picture).getLast?.getD placeholder)

namespace Reused

variable {picture : String → UIImage} {placeholder : UIImage} {cell next : ImageWorld ItemTableViewCell}
  {past : List (ImageEntry (Option Item))} {wellFormed : String → Bool} {image : ImageData → Option UIImage}

theorem fresh (empty : cell.view.itemImageView = some placeholder) (noDownloads : cell.downloads = [])
    (idle : cell.mainQueue = []) : Reused picture placeholder cell [] where
  urls := by rw [noDownloads]; rfl
  single := by rw [noDownloads]; exact nofun
  known := fun some => absurd rfl some
  shown := ⟨[], [], rfl, by rw [idle]; rfl, empty⟩

/-- A waiting block has a picture. -/
theorem waits (reused : Reused picture placeholder cell past) {number : Nat} (queued : number ∈ cell.mainQueue) :
    cell.imageArray number ≠ [] := by
  obtain ⟨_, waiting, _, blocks, _⟩ := reused.shown
  have block := List.mem_map_of_mem (f := cell.imageArray) queued
  rw [blocks] at block
  obtain ⟨link, _, same⟩ := List.mem_map.mp block
  rw [← same]
  exact List.cons_ne_nil _ _

/-- An assignment starts the download of its first link. -/
theorem fill (reused : Reused picture placeholder cell past) {content : Option Item}
    (taken : cell.step client wellFormed image (.fill content) = some next) :
    Reused picture placeholder next (past ++ [.filled content]) := by
  have same := ImageWorld.step_fill taken
  have links : (past ++ [ImageEntry.filled content]).filterMap ImageEntry.link = past.filterMap ImageEntry.link := by
    simp [ImageEntry.link]
  have contents : (past ++ [ImageEntry.filled content]).filterMap ImageEntry.content =
      past.filterMap ImageEntry.content ++ [content] := by simp [ImageEntry.content]
  have downloads : next.downloads =
      cell.downloads ++ (((firstLink content).map fun link => [link]).map downloadImages).toList := by
    rw [same]
    rfl
  have arrays : next.imageArray = cell.imageArray :=
    funext fun number => (ImageWorld.fill_call downloads rfl number).1
  refine ⟨?_, fun download member => ?_, fun some => ?_, ?_⟩
  · rw [contents, List.filterMap_append, List.map_append, ← reused.urls, downloads, List.map_append]
    cases linked : firstLink content <;> simp [linked, downloadImages]
  · rw [links]
    rw [downloads] at member
    rcases List.mem_append.mp member with old | new
    · exact reused.single download old
    · cases linked : firstLink content with
      | none =>
          rw [linked] at new
          cases new
      | some link =>
          rw [linked] at new
          obtain rfl := List.mem_singleton.mp new
          exact ⟨⟨link, .queued⟩, rfl, .inr ⟨nofun, rfl⟩⟩
  · rw [contents, List.filterMap_append]
    exact List.append_ne_nil_of_left_ne_nil (reused.known (links ▸ some)) _
  · have shown := reused.shown
    rw [links, arrays, same]
    exact shown

/-- The call of a running task has one task, and its array is empty. -/
theorem running (reused : Reused picture placeholder cell past) {number index : Nat} {download : ImageDownload}
    {task : DownloadTask} (present : cell.downloads[number]? = some download)
    (found : download.tasks[index]? = some task) (runs : task.phase ≠ .finished) :
    download.tasks = [task] ∧ index = 0 ∧ download.imageArray = [] ∧ number ∉ cell.mainQueue := by
  obtain ⟨only, single, phase⟩ := reused.single download (List.mem_of_getElem? present)
  rw [single, List.getElem?_singleton] at found
  split at found
  · rename_i first
    obtain rfl := Option.some.inj found
    have empty := (phase.resolve_left fun ended => runs ended.1).2
    refine ⟨single, first, empty, fun queued => reused.waits queued ?_⟩
    rw [ImageWorld.imageArray_of present, empty]
  · cases found

/-- A step of a call without a waiting block changes no waiting block. -/
theorem blocks_set {number : Nat} {download changed : ImageDownload}
    (present : cell.downloads[number]? = some download) (put : next.downloads = cell.downloads.set number changed)
    (silent : number ∉ cell.mainQueue) : cell.mainQueue.map next.imageArray = cell.mainQueue.map cell.imageArray :=
  List.map_congr_left fun other queued =>
    ((ImageWorld.set_call present put).2.2 other fun same => silent (same ▸ queued)).1

/-- A task that starts shows nothing. -/
theorem start (reused : Reused picture placeholder cell past) {number index : Nat}
    (taken : cell.step client wellFormed image (.start number index) = some next) :
    Reused picture placeholder next (past ++ [.started number]) := by
  obtain ⟨download, started, present, begun, same⟩ := ImageWorld.step_start taken
  obtain ⟨link, found, tasks, sameUrls, sameArray, _⟩ := ImageDownload.start_cases begun
  obtain ⟨single, rfl, empty, silent⟩ := reused.running present found nofun
  have links : (past ++ [ImageEntry.started number]).filterMap ImageEntry.link = past.filterMap ImageEntry.link := by
    simp [ImageEntry.link]
  have contents : (past ++ [ImageEntry.started number]).filterMap ImageEntry.content =
      past.filterMap ImageEntry.content := by simp [ImageEntry.content]
  have downloads : next.downloads = cell.downloads.set number started := by rw [same]
  refine ⟨?_, fun changed member => ?_, fun some => ?_, ?_⟩
  · rw [contents, downloads, Pool.map_set_same ImageDownload.imageUrls present sameUrls, reused.urls]
  · rw [links]
    rw [downloads] at member
    rcases List.mem_or_eq_of_mem_set member with old | rfl
    · exact reused.single changed old
    · exact ⟨⟨link, .fetching⟩, by rw [tasks, single]; rfl, .inr ⟨nofun, sameArray.trans empty⟩⟩
  · rw [contents]
    exact reused.known (links ▸ some)
  · obtain ⟨ran, waiting, order, blocks, shows⟩ := reused.shown
    have queue : next.mainQueue = cell.mainQueue := by rw [same]
    refine ⟨ran, waiting, links.trans order, ?_, by rw [same]; exact shows⟩
    rw [queue, blocks_set present downloads silent, blocks]

/-- The picture of a fetch waits on the main queue. -/
theorem finish (reused : Reused picture placeholder cell past) {number index : Nat} {data : Option ImageData}
    (fetches : Fetches image picture cell (.finish number index data))
    (taken : cell.step client wellFormed image (.finish number index data) = some next) :
    Reused picture placeholder next (past ++ cell.entries client wellFormed image (.finish number index data)) := by
  obtain ⟨download, finished, present, ended, outcome⟩ := ImageWorld.step_finish taken
  obtain ⟨link, found, linked, tasks, sameUrls, array, _⟩ := ImageDownload.finish_cases ended
  obtain ⟨single, rfl, empty, silent⟩ := reused.running present found nofun
  have fetched := fetches link (by rw [present]; exact linked)
  have all : download.allStarted = true := by
    rw [ImageDownload.allStarted_iff, single]
    intro task member
    exact List.mem_singleton.mp member ▸ nofun
  rw [fetched, empty] at array
  rcases outcome with ⟨none, _⟩ | ⟨_, _, same⟩
  · cases none.symm.trans fetched
  · rw [all, if_pos rfl] at same
    rw [ImageWorld.entries_finish taken present linked, fetched]
    have links : (past ++ [ImageEntry.downloaded number link (picture link)]).filterMap ImageEntry.link =
        past.filterMap ImageEntry.link ++ [link] := by simp [ImageEntry.link]
    have contents : (past ++ [ImageEntry.downloaded number link (picture link)]).filterMap ImageEntry.content =
        past.filterMap ImageEntry.content := by simp [ImageEntry.content]
    have downloads : next.downloads = cell.downloads.set number finished := by rw [same]
    have more : past.filterMap ImageEntry.link ++ [link] ≠ [] :=
      List.append_ne_nil_of_right_ne_nil _ (List.cons_ne_nil _ _)
    refine ⟨?_, fun changed member => ?_, fun _ => ?_, ?_⟩
    · rw [Option.map_some, Option.toList_some, contents, downloads,
        Pool.map_set_same ImageDownload.imageUrls present sameUrls, reused.urls]
    · rw [Option.map_some, Option.toList_some, links]
      rw [downloads] at member
      rcases List.mem_or_eq_of_mem_set member with old | rfl
      · obtain ⟨task, only, phase⟩ := reused.single changed old
        exact ⟨task, only, phase.imp_left fun ended => ⟨ended.1, more⟩⟩
      · exact ⟨⟨link, .finished⟩, by rw [tasks, single]; rfl, .inl ⟨rfl, more⟩⟩
    · rw [Option.map_some, Option.toList_some, contents]
      intro none
      have noUrls := reused.urls
      rw [none, List.map_nil, List.map_eq_nil_iff] at noUrls
      rw [noUrls] at present
      cases present
    · obtain ⟨ran, waiting, order, blocks, shows⟩ := reused.shown
      have queue : next.mainQueue = cell.mainQueue ++ [number] := by rw [same]
      refine ⟨ran, waiting ++ [link], ?_, ?_, by rw [same]; exact shows⟩
      · rw [Option.map_some, Option.toList_some, links, order, List.append_assoc]
      · rw [queue, List.map_append, blocks_set present downloads silent, blocks, List.map_append, List.map_singleton,
          List.map_singleton, (ImageWorld.set_call present downloads).1, array]
        rfl

/-- The first block of the main queue shows its picture. -/
theorem main (reused : Reused picture placeholder cell past)
    (taken : cell.step client wellFormed image .main = some next) :
    Reused picture placeholder next (past ++ cell.entries client wellFormed image .main) := by
  obtain ⟨number, rest, download, queue, present, same⟩ := ImageWorld.step_main taken
  rw [ImageWorld.entries_main taken queue]
  have links : (past ++ [ImageEntry.completed number (cell.imageArray number)]).filterMap ImageEntry.link =
      past.filterMap ImageEntry.link := by simp [ImageEntry.link]
  have contents : (past ++ [ImageEntry.completed number (cell.imageArray number)]).filterMap ImageEntry.content =
      past.filterMap ImageEntry.content := by simp [ImageEntry.content]
  have downloads : next.downloads = cell.downloads := by rw [same]
  refine ⟨?_, ?_, ?_, ?_⟩
  · rw [contents, downloads, reused.urls]
  · rw [links, downloads]
    exact reused.single
  · rw [links, contents]
    exact reused.known
  · obtain ⟨ran, waiting, order, blocks, _⟩ := reused.shown
    rw [queue, List.map_cons] at blocks
    cases waiting with
    | nil => cases blocks
    | cons link later =>
        obtain ⟨first, blocks⟩ := List.cons.inj blocks
        rw [ImageWorld.imageArray_of present] at first
        refine ⟨ran ++ [link], later, ?_, ?_, ?_⟩
        · rw [links, order, List.append_assoc, List.singleton_append]
        · rw [same]
          exact blocks
        · rw [same, List.map_append, List.map_singleton, List.getLast?_concat]
          change download.imageArray.head? = _
          rw [first]
          rfl

/-- Every step with successful fetches keeps the cell. -/
theorem step (reused : Reused picture placeholder cell past) {event : ImageEvent (Option Item)}
    (fetches : Fetches image picture cell event) (taken : cell.step client wellFormed image event = some next) :
    Reused picture placeholder next (past ++ cell.entries client wellFormed image event) := by
  cases event with
  | fill content =>
      rw [ImageWorld.entries_fill taken]
      exact reused.fill taken
  | start number index =>
      rw [ImageWorld.entries_start taken]
      exact reused.start taken
  | finish number index data => exact reused.finish fetches taken
  | main => exact reused.main taken

/-- When no block waits, the cell shows the picture that was downloaded last. -/
theorem settled (reused : Reused picture placeholder cell past) (drained : cell.mainQueue = []) :
    cell.view.itemImageView =
      some (((past.filterMap ImageEntry.link).getLast?.map picture).getD placeholder) := by
  obtain ⟨ran, waiting, order, blocks, shows⟩ := reused.shown
  rw [drained, List.map_nil, eq_comm, List.map_eq_nil_iff] at blocks
  rw [shows, order, blocks, List.append_nil, List.getLast?_map]

/-- When all tasks are over, a picture was downloaded exactly if an assigned item has a link. -/
theorem downloaded_iff (reused : Reused picture placeholder cell past)
    (finished : ∀ download ∈ cell.downloads, download.Finished) :
    past.filterMap ImageEntry.link = [] ↔ ∀ item ∈ past.filterMap ImageEntry.content, firstLink item = none := by
  rw [← List.filterMap_eq_nil_iff]
  refine ⟨fun none => ?_, fun none => ?_⟩
  · by_contra some
    have noDownloads : cell.downloads ≠ [] := fun empty => by
      have urls := reused.urls
      rw [empty, List.map_nil, eq_comm, List.map_eq_nil_iff] at urls
      exact some urls
    obtain ⟨download, member⟩ := List.exists_mem_of_ne_nil _ noDownloads
    obtain ⟨task, single, ended | ⟨runs, _⟩⟩ := reused.single download member
    · exact ended.2 none
    · exact runs (finished download member task (single ▸ List.mem_cons_self))
  · by_contra some
    exact reused.known some none

end Reused

/-- The link of the item that was assigned last. -/
def lastLink (events : List (ImageEvent (Option Item))) : Option String :=
  (events.filterMap ImageEvent.content).getLast?.bind firstLink

end ItemTableViewCell

/-- When all downloads have finished, the cell shows the picture of the last assigned item, or the placeholder for an
item without a link, exactly if the last download was for that picture or no assigned item has a link. -/
theorem cell_shows_own_picture_iff (wellFormed : String → Bool) (image : ImageData → Option UIImage)
    (picture : String → UIImage) (placeholder : UIImage) {cell final : ImageWorld ItemTableViewCell}
    {events : List (ImageEvent (Option Item))} (empty : cell.view.itemImageView = some placeholder)
    (noDownloads : cell.downloads = []) (idle : cell.mainQueue = [])
    (succeed : Transition.Along (ImageWorld.step ItemTableViewCell.client wellFormed image)
      (ItemTableViewCell.Fetches image picture) cell events)
    (ran : cell.run ItemTableViewCell.client wellFormed image events = some final)
    (finished : ∀ download ∈ final.downloads, download.Finished) (drained : final.mainQueue = []) :
    final.view.itemImageView = some (((ItemTableViewCell.lastLink events).map picture).getD placeholder) ↔
      (∃ own last, ItemTableViewCell.lastLink events = some own ∧
        ((cell.log ItemTableViewCell.client wellFormed image events).filterMap ImageEntry.link).getLast? = some last ∧
        picture last = picture own) ∨
      ItemTableViewCell.lastLink events = none ∧
        ((∀ item ∈ events.filterMap ImageEvent.content, firstLink item = none) ∨
          ∃ last, ((cell.log ItemTableViewCell.client wellFormed image events).filterMap ImageEntry.link).getLast? =
            some last ∧ picture last = placeholder) := by
  have reused := Transition.run_log (fun cell past => ItemTableViewCell.Reused picture placeholder cell past)
    (fun _ _ _ _ reused fetches taken => reused.step fetches taken)
    (ItemTableViewCell.Reused.fresh empty noDownloads idle) succeed ran
  rw [List.nil_append] at reused
  have contents := ImageWorld.log_content ran
  have downloaded := reused.downloaded_iff finished
  rw [contents] at downloaded
  rw [reused.settled drained]
  generalize (cell.log ItemTableViewCell.client wellFormed image events).filterMap ImageEntry.link = links at *
  cases assigned : ItemTableViewCell.lastLink events with
  | some own =>
      obtain ⟨item, last, linked⟩ := Option.bind_eq_some_iff.mp assigned
      have some : links ≠ [] := fun none => by
        rw [downloaded.mp none item (List.mem_of_getLast? last)] at linked
        cases linked
      rw [List.getLast?_eq_some_getLast some]
      simp
  | none =>
      cases latest : links.getLast? with
      | none =>
          have empty := List.getLast?_eq_none_iff.mp latest
          exact iff_of_true rfl (.inr ⟨rfl, .inl (downloaded.mp empty)⟩)
      | some last =>
          have some : ¬ ∀ item ∈ events.filterMap ImageEvent.content, firstLink item = none := fun none => by
            rw [downloaded.mpr none] at latest
            cases latest
          rw [or_iff_right some]
          simp

/-- The placeholder of the cell has no bytes. -/
def emptyCell : ImageWorld ItemTableViewCell := { view := { itemImageView := some ⟨none⟩ } }

/-- The picture of a link is the length of the link. -/
def linkPicture (link : String) : UIImage := ⟨some [link.length.toUInt8]⟩

def linkedItem (imageLinks : List String) : Option Item := some { imageLinks := some imageLinks }

/-- The downloads of two assignments finish in the order of the assignments. -/
def reuseInOrder : List (ImageEvent (Option Item)) :=
  [.fill (linkedItem ["a"]), .fill (linkedItem ["bb"]), .start 0 0, .start 1 0, .finish 0 0 (some [1]),
    .finish 1 0 (some [2]), .main, .main]

theorem cell_shows_own_picture_in_order :
    ∃ final, emptyCell.run ItemTableViewCell.client (fun _ => true) decoded reuseInOrder = some final ∧
      final.view.itemImageView = some (linkPicture "bb") := by
  obtain ⟨final, ran, finished, drained⟩ : ∃ final, emptyCell.run ItemTableViewCell.client (fun _ => true) decoded
      reuseInOrder = some final ∧ (∀ download ∈ final.downloads, download.Finished) ∧ final.mainQueue = [] :=
    ⟨_, rfl, by decide, rfl⟩
  refine ⟨final, ran, ?_⟩
  exact (cell_shows_own_picture_iff (fun _ => true) decoded linkPicture ⟨none⟩ rfl rfl rfl (by decide) ran finished
    drained).mpr (.inl ⟨"bb", "bb", rfl, rfl, rfl⟩)

/-- The first download finishes last, or the second item has no link: the cell shows the picture of the first item. -/
theorem reused_cell_shows_other_picture :
    (∃ final, emptyCell.run ItemTableViewCell.client (fun _ => true) decoded
        [.fill (linkedItem ["a"]), .fill (linkedItem ["bb"]), .start 0 0, .start 1 0, .finish 1 0 (some [2]),
          .finish 0 0 (some [1]), .main, .main] = some final ∧
      (∀ download ∈ final.downloads, download.Finished) ∧ final.mainQueue = [] ∧
      firstLink final.view.item = some "bb" ∧ final.view.itemImageView = some (linkPicture "a")) ∧
    (∃ final, emptyCell.run ItemTableViewCell.client (fun _ => true) decoded
        [.fill (linkedItem ["a"]), .start 0 0, .finish 0 0 (some [1]), .main, .fill (linkedItem [])] = some final ∧
      (∀ download ∈ final.downloads, download.Finished) ∧ final.mainQueue = [] ∧
      firstLink final.view.item = none ∧ final.view.itemImageView = some (linkPicture "a")) ∧
    linkPicture "a" ≠ linkPicture "bb" ∧ linkPicture "a" ≠ ⟨none⟩ :=
  ⟨⟨_, rfl, by decide, rfl, rfl, rfl⟩, ⟨_, rfl, by decide, rfl, rfl, rfl⟩, by decide, by decide⟩

end ShoppingApp
