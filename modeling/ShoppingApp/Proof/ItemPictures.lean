import ShoppingApp.Proof.ImageDelivery

namespace ShoppingApp

/-- The images of a completion call, whatever download it belongs to. -/
def ImageEntry.delivered {Content : Type} : ImageEntry Content → Option (List UIImage)
  | .completed _ images => some images
  | _ => none

namespace ItemViewController

variable {wellFormed : String → Bool} {image : ImageData → Option UIImage}
  {screen next : ImageWorld ItemViewController} {past : List (ImageEntry (Option Item))}

/-- The item screen shows what the last completion call delivered, and each call belongs to a download. -/
structure Shows (screen : ImageWorld ItemViewController) (past : List (ImageEntry (Option Item))) : Prop where
  calls : ∀ number, ImageCall number screen past
  filled : screen.downloads.length ≤ (past.filterMap ImageEntry.content).length
  owned : ∀ number images, .completed number images ∈ past → number < screen.downloads.length
  shown : screen.view.itemImages = (past.filterMap ImageEntry.delivered).getLast?.getD []

theorem Shows.fresh (empty : screen.view.itemImages = []) (noDownloads : screen.downloads = [])
    (idle : screen.mainQueue = []) : Shows screen [] where
  calls := fun _ => .fresh noDownloads idle
  filled := by rw [noDownloads]; exact Nat.le_refl 0
  owned := nofun
  shown := empty

/-- A block that waits delivers a picture. -/
theorem Shows.delivers (shows : Shows screen past) {number : Nat} (queued : number ∈ screen.mainQueue) :
    0 < (screen.imageArray number).length := by
  have call := shows.calls number
  obtain ⟨_, late⟩ := call.delivers.mp (.inl queued)
  exact List.length_pos_iff.mpr (call.array ▸ late.downloaded)

/-- A step that calls no completion keeps what the screen shows. -/
theorem Shows.quiet (shows : Shows screen past) {logged : List (ImageEntry (Option Item))}
    (calls : ∀ number, ImageCall number next (past ++ logged)) (images : next.view.itemImages = screen.view.itemImages)
    (fewer : screen.downloads.length ≤ next.downloads.length)
    (filled : next.downloads.length ≤ ((past ++ logged).filterMap ImageEntry.content).length)
    (silent : ∀ entry ∈ logged, entry.delivered = none) : Shows next (past ++ logged) := by
  refine ⟨calls, filled, fun number images member => ?_, ?_⟩
  · rcases List.mem_append.mp member with old | new
    · exact (shows.owned number images old).trans_le fewer
    · cases silent _ new
  · rw [images, shows.shown, List.filterMap_append, List.filterMap_eq_nil_iff.mpr silent, List.append_nil]

/-- Every step keeps what the screen shows. -/
theorem Shows.step (shows : Shows screen past) {event : ImageEvent (Option Item)}
    (taken : screen.step client wellFormed image event = some next) :
    Shows next (past ++ screen.entries client wellFormed image event) := by
  have calls := fun number => (shows.calls number).step (ImageWorld.callStep taken number)
  cases event with
  | fill content =>
      have same := ImageWorld.step_fill taken
      rw [ImageWorld.entries_fill taken] at calls ⊢
      have length : next.downloads.length ≤ screen.downloads.length + 1 := by
        rw [same, List.length_append]
        exact Nat.add_le_add_left Option.length_toList_le _
      refine shows.quiet calls (by rw [same]; rfl) ?_ ?_ fun entry member => ?_
      · rw [same, List.length_append]
        exact Nat.le_add_right _ _
      · rw [List.filterMap_append, List.length_append]
        exact length.trans (Nat.add_le_add_right shows.filled 1)
      · exact List.mem_singleton.mp member ▸ rfl
  | start number index =>
      obtain ⟨download, started, _, _, same⟩ := ImageWorld.step_start taken
      rw [ImageWorld.entries_start taken] at calls ⊢
      have length : next.downloads.length = screen.downloads.length := by rw [same, List.length_set]
      refine shows.quiet calls (by rw [same]) length.ge ?_ fun entry member => ?_
      · rw [length, List.filterMap_append, List.length_append]
        exact shows.filled.trans (Nat.le_add_right _ _)
      · exact List.mem_singleton.mp member ▸ rfl
  | finish number index data =>
      obtain ⟨download, finished, present, ended, outcome⟩ := ImageWorld.step_finish taken
      obtain ⟨link, _, linked, _⟩ := ImageDownload.finish_cases ended
      have kept : next.view = screen.view ∧ next.downloads.length = screen.downloads.length := by
        rcases outcome with ⟨_, same | ⟨_, same⟩⟩ | ⟨_, _, same⟩
        · rw [same]
          exact ⟨rfl, rfl⟩
        · rw [same]
          exact ⟨rfl, List.length_set⟩
        · rw [same]
          exact ⟨rfl, List.length_set⟩
      rw [ImageWorld.entries_finish taken present linked] at calls ⊢
      refine shows.quiet calls (by rw [kept.1]) kept.2.ge ?_ fun entry member => ?_
      · rw [kept.2, List.filterMap_append, List.length_append]
        exact shows.filled.trans (Nat.le_add_right _ _)
      · obtain ⟨_, _, rfl⟩ := Option.map_eq_some_iff.mp (Option.mem_toList.mp member)
        rfl
  | main =>
      obtain ⟨number, rest, download, queue, present, same⟩ := ImageWorld.step_main taken
      have some := shows.delivers (queue ▸ List.mem_cons_self : number ∈ screen.mainQueue)
      rw [ImageWorld.imageArray_of present] at some
      rw [ImageWorld.entries_main taken queue] at calls ⊢
      have downloads : next.downloads = screen.downloads := by rw [same]
      refine ⟨calls, ?_, fun owner images member => ?_, ?_⟩
      · rw [downloads, List.filterMap_append, List.length_append]
        exact shows.filled.trans (Nat.le_add_right _ _)
      · rw [downloads]
        rcases List.mem_append.mp member with old | new
        · exact shows.owned owner images old
        · obtain ⟨rfl, _⟩ := ImageEntry.completed.inj (List.mem_singleton.mp new)
          exact (List.getElem?_eq_some_iff.mp present).1
      · have last : (past ++ [ImageEntry.completed number (screen.imageArray number)]).filterMap ImageEntry.delivered =
            past.filterMap ImageEntry.delivered ++ [screen.imageArray number] := by simp [ImageEntry.delivered]
        rw [last, List.getLast?_concat, same, ImageWorld.imageArray_of present]
        change (if 0 < download.imageArray.length then _ else screen.view : ItemViewController).itemImages = _
        rw [if_pos some]
        rfl

/-- Every run keeps what the screen shows. -/
theorem Shows.run {events : List (ImageEvent (Option Item))} (empty : screen.view.itemImages = [])
    (noDownloads : screen.downloads = []) (idle : screen.mainQueue = [])
    (ran : screen.run client wellFormed image events = some next) :
    Shows next (screen.log client wellFormed image events) :=
  Transition.run_log (fun screen past => Shows screen past) (fun _ _ _ _ shows _ taken => shows.step taken)
    (Shows.fresh empty noDownloads idle) (Transition.Along.of_all (fun _ _ => trivial) screen events) ran

/-- A screen with one download shows all its pictures at the end exactly if there are none or one of them is late. -/
theorem Shows.all_iff (shows : Shows screen past) (single : screen.downloads.length ≤ 1)
    (finished : ∀ download ∈ screen.downloads, download.Finished) (drained : screen.mainQueue = []) :
    screen.view.itemImages.Perm (past.filterMap (ImageEntry.picture 0)) ↔
      past.filterMap (ImageEntry.picture 0) = [] ∨ ImageEntry.Late 0 past := by
  have first : past.filterMap ImageEntry.delivered = past.filterMap (ImageEntry.images 0) := by
    refine List.filterMap_congr fun entry member => ?_
    cases entry with
    | completed number images =>
        have owned := shows.owned number images member
        exact (if_pos (by omega)).symm
    | filled content => rfl
    | started number => rfl
    | downloaded number link picture => rfl
  have call := shows.calls 0
  have idle : 0 ∉ screen.mainQueue := by
    rw [drained]
    exact List.not_mem_nil
  have called := call.called_iff (fun download present => finished download (List.mem_of_getElem? present)) idle
  rw [shows.shown, first, ← called]
  cases last : (past.filterMap (ImageEntry.images 0)).getLast? with
  | none =>
      have never := List.getLast?_eq_none_iff.mp last
      rw [or_iff_left (not_not.mpr never), Option.getD_none, List.nil_perm]
  | some images =>
      have some := List.ne_nil_of_mem (List.mem_of_getLast? last)
      refine iff_of_true ?_ (.inr some)
      rw [Option.getD_some, call.last idle images last, call.array]

end ItemViewController

/-- The item screen, which is filled once, ends with all downloaded pictures exactly if there are none or one of them
was downloaded after the last task had started. -/
theorem item_screen_shows_pictures_iff (wellFormed : String → Bool) (image : ImageData → Option UIImage)
    {screen final : ImageWorld ItemViewController} {events : List (ImageEvent (Option Item))}
    (empty : screen.view.itemImages = []) (noDownloads : screen.downloads = []) (idle : screen.mainQueue = [])
    (ran : screen.run ItemViewController.client wellFormed image events = some final)
    (once : (events.filterMap ImageEvent.content).length ≤ 1)
    (finished : ∀ download ∈ final.downloads, download.Finished) (drained : final.mainQueue = []) :
    final.view.itemImages.Perm
        ((screen.log ItemViewController.client wellFormed image events).filterMap (ImageEntry.picture 0)) ↔
      (screen.log ItemViewController.client wellFormed image events).filterMap (ImageEntry.picture 0) = [] ∨
        ImageEntry.Late 0 (screen.log ItemViewController.client wellFormed image events) := by
  have shows := ItemViewController.Shows.run empty noDownloads idle ran
  have filled := shows.filled
  rw [ImageWorld.log_content ran] at filled
  exact shows.all_iff (filled.trans once) finished drained

end ShoppingApp
