import ShoppingApp.Model.Downloader

namespace ShoppingApp

/-- The content that the view gets. -/
def ImageEvent.content {Content : Type} : ImageEvent Content → Option Content
  | .fill content => some content
  | _ => none

namespace ImageEntry

variable {Content : Type}

def content : ImageEntry Content → Option Content
  | .filled content => some content
  | _ => none

/-- A picture that the call has downloaded. -/
def picture (number : Nat) : ImageEntry Content → Option UIImage
  | .downloaded owner _ picture => if owner = number then some picture else none
  | _ => none

/-- The images of one call of the completion. -/
def images (number : Nat) : ImageEntry Content → Option (List UIImage)
  | .completed owner images => if owner = number then some images else none
  | _ => none

/-- The call that the entry is about. -/
def owner : ImageEntry Content → Option Nat
  | .filled _ => none
  | .started number | .downloaded number _ _ | .completed number _ => some number

/-- A picture of the call is downloaded after its last task has started. -/
def Late (number : Nat) (past : List (ImageEntry Content)) : Prop :=
  Transition.Since (fun entry => entry ≠ .started number)
    (fun entry => ∃ link picture, entry = .downloaded number link picture) past

variable {number : Nat} {past : List (ImageEntry Content)}

theorem late_concat {last : ImageEntry Content} :
    Late number (past ++ [last]) ↔ (∃ link picture, last = .downloaded number link picture) ∨
      last ≠ .started number ∧ Late number past := Transition.since_concat

/-- The entries of other calls do not count. -/
theorem of_other {logged : List (ImageEntry Content)} (other : ∀ entry ∈ logged, entry.owner ≠ some number) :
    logged.filterMap (picture number) = [] ∧ logged.filterMap (images number) = [] ∧
      ∀ past : List (ImageEntry Content), Late number (past ++ logged) ↔ Late number past := by
  refine ⟨List.filterMap_eq_nil_iff.mpr fun entry member => ?_,
    List.filterMap_eq_nil_iff.mpr fun entry member => ?_, ?_⟩
  · cases entry with
    | downloaded owner link picture => exact if_neg fun same => other _ member (congrArg some same)
    | filled content => rfl
    | started owner => rfl
    | completed owner images => rfl
  · cases entry with
    | completed owner images => exact if_neg fun same => other _ member (congrArg some same)
    | filled content => rfl
    | started owner => rfl
    | downloaded owner link picture => rfl
  · refine Transition.since_append fun entry member => ⟨?_, ?_⟩
    · rintro rfl
      exact other _ member rfl
    · rintro ⟨link, shown, rfl⟩
      exact other _ member rfl

/-- A late picture is a picture. -/
theorem Late.downloaded (late : Late number past) : past.filterMap (picture number) ≠ [] := by
  obtain ⟨before, _, after, rfl, ⟨link, shown, rfl⟩, _⟩ := late
  simp [picture]

end ImageEntry

/-- A call whose tasks have all started starts no further task. -/
theorem ImageDownload.start_waiting {download started : ImageDownload} {index : Nat}
    (begun : download.start index = some started) : download.allStarted = false := by
  obtain ⟨link, found, _⟩ := ImageDownload.start_cases begun
  refine Bool.eq_false_iff.mpr fun all => ?_
  exact download.allStarted_iff.mp all _ (List.mem_of_getElem? found) rfl

namespace ImageWorld

variable {View Content : Type} {client : ImageClient View Content} {wellFormed : String → Bool}
  {image : ImageData → Option UIImage} {world next : ImageWorld View}

def allStarted (world : ImageWorld View) (number : Nat) : Bool :=
  ((world.downloads[number]?).map ImageDownload.allStarted).getD false

theorem imageArray_of {number : Nat} {download : ImageDownload} (present : world.downloads[number]? = some download) :
    world.imageArray number = download.imageArray := by
  rw [imageArray, present]
  rfl

theorem allStarted_of {number : Nat} {download : ImageDownload} (present : world.downloads[number]? = some download) :
    world.allStarted number = download.allStarted := by
  rw [allStarted, present]
  rfl

/-- A step does one of four things to a call. -/
inductive CallStep (number : Nat) (world next : ImageWorld View) : List (ImageEntry Content) → Prop where
  | quiet {logged : List (ImageEntry Content)}
      (other : ∀ entry ∈ logged, entry.owner ≠ some number)
      (array : next.imageArray number = world.imageArray number)
      (started : world.imageArray number = [] ∨ next.allStarted number = world.allStarted number)
      (queue : number ∈ next.mainQueue ↔ number ∈ world.mainQueue) : CallStep number world next logged
  | start (array : next.imageArray number = world.imageArray number) (waiting : world.allStarted number = false)
      (queue : next.mainQueue = world.mainQueue) : CallStep number world next [.started number]
  | download (link : String) (picture : UIImage) (array : next.imageArray number = world.imageArray number ++ [picture])
      (started : next.allStarted number = world.allStarted number)
      (queue : number ∈ next.mainQueue ↔ number ∈ world.mainQueue ∨ world.allStarted number = true) :
      CallStep number world next [.downloaded number link picture]
  | complete (array : next.imageArray number = world.imageArray number)
      (started : next.allStarted number = world.allStarted number) (queued : number ∈ world.mainQueue) :
      CallStep number world next [.completed number (world.imageArray number)]

/-- A new call has no images, and the old calls are kept. -/
theorem fill_call {downloads : List ImageDownload} {imageUrls : Option (List String)}
    (new : next.downloads = downloads ++ (imageUrls.map downloadImages).toList)
    (old : world.downloads = downloads) (number : Nat) :
    next.imageArray number = world.imageArray number ∧
      (world.imageArray number = [] ∨ next.allStarted number = world.allStarted number) := by
  rw [imageArray, imageArray, allStarted, allStarted, new, old]
  by_cases inside : number < downloads.length
  · rw [List.getElem?_append_left inside]
    exact ⟨rfl, .inr rfl⟩
  · rw [List.getElem?_eq_none (Nat.le_of_not_lt inside), List.getElem?_append_right (Nat.le_of_not_lt inside)]
    refine ⟨?_, .inl rfl⟩
    cases imageUrls with
    | none => rfl
    | some links =>
        cases number - downloads.length with
        | zero => rfl
        | succ beyond => rfl

/-- A step changes the call that it is about and no other call. -/
theorem set_call {owner : Nat} {download changed : ImageDownload} (present : world.downloads[owner]? = some download)
    (put : next.downloads = world.downloads.set owner changed) :
    next.imageArray owner = changed.imageArray ∧ next.allStarted owner = changed.allStarted ∧
      ∀ number, number ≠ owner → next.imageArray number = world.imageArray number ∧
        next.allStarted number = world.allStarted number := by
  have inside := (List.getElem?_eq_some_iff.mp present).1
  have own : next.downloads[owner]? = some changed := by rw [put, List.getElem?_set_self inside]
  refine ⟨imageArray_of own, allStarted_of own, fun number apart => ?_⟩
  have same : next.downloads[number]? = world.downloads[number]? := by rw [put, List.getElem?_set_ne apart.symm]
  rw [imageArray, imageArray, allStarted, allStarted, same]
  exact ⟨rfl, rfl⟩

/-- A step that is recorded for another call is quiet. -/
theorem CallStep.of_other {number : Nat} {entry : ImageEntry Content} (other : entry.owner ≠ some number)
    (array : next.imageArray number = world.imageArray number)
    (started : world.imageArray number = [] ∨ next.allStarted number = world.allStarted number)
    (queue : number ∈ next.mainQueue ↔ number ∈ world.mainQueue) : CallStep number world next [entry] :=
  .quiet (fun _ member => List.mem_singleton.mp member ▸ other) array started queue

theorem callStep_fill {content : Content} (taken : world.step client wellFormed image (.fill content) = some next)
    (number : Nat) : CallStep number world next [ImageEntry.filled content] := by
  have same := step_fill taken
  have downloads : next.downloads =
      world.downloads ++ ((client.fill content world.view).2.map downloadImages).toList := by rw [same]
  obtain ⟨array, started⟩ := fill_call downloads rfl number
  exact .of_other (Option.some_ne_none number).symm array started (by rw [same])

theorem callStep_start {owner index : Nat} (taken : world.step client wellFormed image (.start owner index) = some next)
    (number : Nat) : CallStep number world next ([.started owner] : List (ImageEntry Content)) := by
  obtain ⟨download, started, present, begun, same⟩ := step_start taken
  have put : next.downloads = world.downloads.set owner started := by rw [same]
  have queue : next.mainQueue = world.mainQueue := by rw [same]
  obtain ⟨array, _, apart⟩ := set_call present put
  by_cases mine : number = owner
  · subst mine
    obtain ⟨_, _, _, _, sameArray, _⟩ := ImageDownload.start_cases begun
    refine .start ?_ ?_ queue
    · rw [array, sameArray, imageArray_of present]
    · rw [allStarted_of present, ImageDownload.start_waiting begun]
  · obtain ⟨array, started⟩ := apart number mine
    exact .of_other (fun same => mine (Option.some.inj same).symm) array (.inr started) (by rw [queue])

/-- A fetch without a picture is quiet, and it stops the application or ends its task. -/
theorem callStep_finish {owner index : Nat} {data : Option ImageData}
    (taken : world.step client wellFormed image (.finish owner index data) = some next) (number : Nat) :
    CallStep number world next (world.entries client wellFormed image (.finish owner index data)) := by
  obtain ⟨download, finished, present, ended, outcome⟩ := step_finish taken
  obtain ⟨link, _, linked, _, sameUrls, sameArray, sameCounter⟩ := ImageDownload.finish_cases ended
  have sameStarted : finished.allStarted = download.allStarted := by
    rw [ImageDownload.allStarted, sameCounter, sameUrls, ImageDownload.allStarted]
  rw [entries_finish taken present linked]
  rcases outcome with ⟨none, same | ⟨_, same⟩⟩ | ⟨picture, some, same⟩
  · rw [none]
    exact .quiet (fun _ member => absurd member List.not_mem_nil) (by rw [same]; rfl) (.inr (by rw [same]; rfl))
      (by rw [same])
  · rw [none] at sameArray ⊢
    have put : next.downloads = world.downloads.set owner finished := by rw [same]
    obtain ⟨array, started, apart⟩ := set_call present put
    refine .quiet (fun _ member => absurd member List.not_mem_nil) ?_ (.inr ?_) (by rw [same])
    · by_cases mine : number = owner
      · rw [mine, array, sameArray, imageArray_of present, Option.toList_none, List.append_nil]
      · exact (apart number mine).1
    · by_cases mine : number = owner
      · rw [mine, started, sameStarted, allStarted_of present]
      · exact (apart number mine).2
  · rw [some] at sameArray ⊢
    have put : next.downloads = world.downloads.set owner finished := by rw [same]
    obtain ⟨array, started, apart⟩ := set_call present put
    by_cases mine : number = owner
    · subst mine
      refine .download link picture ?_ ?_ ?_
      · rw [array, sameArray, imageArray_of present]
        rfl
      · rw [started, sameStarted, allStarted_of present]
      · rw [same, allStarted_of present, List.mem_append]
        cases download.allStarted <;> simp
    · obtain ⟨array, started⟩ := apart number mine
      refine .of_other (fun same => mine (Option.some.inj same).symm) array (.inr started) ?_
      rw [same, List.mem_append]
      cases download.allStarted <;> simp [mine]

theorem callStep_main (taken : world.step client wellFormed image .main = some next) (number : Nat) :
    CallStep number world next (world.entries client wellFormed image .main) := by
  obtain ⟨owner, rest, download, queue, present, same⟩ := step_main taken
  have array : next.imageArray number = world.imageArray number := by rw [same]; rfl
  have started : next.allStarted number = world.allStarted number := by rw [same]; rfl
  rw [entries_main taken queue]
  by_cases mine : number = owner
  · subst mine
    exact .complete array started (queue ▸ List.mem_cons_self)
  · refine .of_other (fun same => mine (Option.some.inj same).symm) array (.inr started) ?_
    rw [same, queue, List.mem_cons, or_iff_right mine]

/-- Every step is one of the four. -/
theorem callStep {event : ImageEvent Content} (taken : world.step client wellFormed image event = some next)
    (number : Nat) : CallStep number world next (world.entries client wellFormed image event) := by
  cases event with
  | fill content =>
      rw [entries_fill taken]
      exact callStep_fill taken number
  | start owner index =>
      rw [entries_start taken]
      exact callStep_start taken number
  | finish owner index data => exact callStep_finish taken number
  | main => exact callStep_main taken number

end ImageWorld

/-- The completion calls so far grow, they miss nothing that was downloaded before the last one, and there is one
exactly when a picture is late. -/
structure ImageCall {View Content : Type} (number : Nat) (world : ImageWorld View) (past : List (ImageEntry Content)) :
    Prop where
  array : past.filterMap (ImageEntry.picture number) = world.imageArray number
  partly : ∀ images ∈ past.filterMap (ImageEntry.images number), images <+: world.imageArray number
  grows : (past.filterMap (ImageEntry.images number)).Pairwise (· <+: ·)
  delivers : number ∈ world.mainQueue ∨ past.filterMap (ImageEntry.images number) ≠ [] ↔
    world.allStarted number = true ∧ ImageEntry.Late number past
  last : number ∉ world.mainQueue →
    ∀ images ∈ (past.filterMap (ImageEntry.images number)).getLast?, images = world.imageArray number

namespace ImageCall

variable {View Content : Type} {number : Nat} {world next : ImageWorld View} {past : List (ImageEntry Content)}

/-- Nothing has happened before the first call. -/
theorem fresh (noDownloads : world.downloads = []) (idle : world.mainQueue = []) :
    ImageCall number world ([] : List (ImageEntry Content)) where
  array := by rw [ImageWorld.imageArray, noDownloads]; rfl
  partly := nofun
  grows := .nil
  delivers := by
    rw [idle]
    refine ⟨fun called => ?_, fun late => absurd late.2 Transition.not_since_nil⟩
    rcases called with queued | some
    · cases queued
    · exact absurd rfl some
  last := fun _ => nofun

/-- A step of another call keeps this one. -/
theorem quiet (call : ImageCall number world past) {logged : List (ImageEntry Content)}
    (other : ∀ entry ∈ logged, entry.owner ≠ some number)
    (array : next.imageArray number = world.imageArray number)
    (started : world.imageArray number = [] ∨ next.allStarted number = world.allStarted number)
    (queue : number ∈ next.mainQueue ↔ number ∈ world.mainQueue) : ImageCall number next (past ++ logged) := by
  obtain ⟨noPicture, noCall, late⟩ := ImageEntry.of_other other
  refine ⟨?_, ?_, ?_, ?_, ?_⟩
  · rw [List.filterMap_append, noPicture, List.append_nil, call.array, array]
  · rw [List.filterMap_append, noCall, List.append_nil, array]
    exact call.partly
  · rw [List.filterMap_append, noCall, List.append_nil]
    exact call.grows
  · rw [List.filterMap_append, noCall, List.append_nil, queue, late past, call.delivers]
    rcases started with empty | same
    · have never : ¬ ImageEntry.Late number past := fun late => late.downloaded (call.array.trans empty)
      exact ⟨fun both => absurd both.2 never, fun both => absurd both.2 never⟩
    · rw [same]
  · rw [List.filterMap_append, noCall, List.append_nil, array, queue]
    exact call.last

/-- While a task waits the completion is not called, and no earlier picture is late. -/
theorem start (call : ImageCall number world past) (array : next.imageArray number = world.imageArray number)
    (waiting : world.allStarted number = false) (queue : next.mainQueue = world.mainQueue) :
    ImageCall number next (past ++ [.started number]) := by
  have noCall : (past ++ [ImageEntry.started number]).filterMap (ImageEntry.images number) =
      past.filterMap (ImageEntry.images number) := by simp [ImageEntry.images]
  have early : ¬ ImageEntry.Late number (past ++ [.started number]) := by
    rw [ImageEntry.late_concat]
    rintro (⟨link, picture, other⟩ | ⟨other, _⟩)
    · cases other
    · exact other rfl
  have silent := call.delivers.not.mpr fun both => Bool.false_ne_true (waiting.symm.trans both.1)
  refine ⟨?_, ?_, ?_, ?_, ?_⟩
  · rw [array, ← call.array]
    simp [ImageEntry.picture]
  · rw [noCall, array]
    exact call.partly
  · rw [noCall]
    exact call.grows
  · rw [noCall, queue]
    exact ⟨fun called => absurd called silent, fun both => absurd both.2 early⟩
  · rw [noCall, array, queue]
    exact call.last

/-- A picture that is downloaded when all tasks have started puts a block on the main queue. -/
theorem download (call : ImageCall number world past) (link : String) {picture : UIImage}
    (array : next.imageArray number = world.imageArray number ++ [picture])
    (started : next.allStarted number = world.allStarted number)
    (queue : number ∈ next.mainQueue ↔ number ∈ world.mainQueue ∨ world.allStarted number = true) :
    ImageCall number next (past ++ [.downloaded number link picture]) := by
  have noCall : (past ++ [ImageEntry.downloaded number link picture]).filterMap (ImageEntry.images number) =
      past.filterMap (ImageEntry.images number) := by simp [ImageEntry.images]
  have late : ImageEntry.Late number (past ++ [.downloaded number link picture]) :=
    ImageEntry.late_concat.mpr (.inl ⟨link, picture, rfl⟩)
  refine ⟨?_, ?_, ?_, ?_, ?_⟩
  · rw [array, ← call.array, List.filterMap_append]
    simp [ImageEntry.picture]
  · rw [noCall, array]
    exact fun images member => (call.partly images member).trans (List.prefix_append _ _)
  · rw [noCall]
    exact call.grows
  · rw [noCall, queue, started, and_iff_left late]
    constructor
    · rintro ((queued | all) | called)
      · exact (call.delivers.mp (.inl queued)).1
      · exact all
      · exact (call.delivers.mp (.inr called)).1
    · exact fun all => .inl (.inr all)
  · rw [noCall, queue]
    intro idle images last
    -- No block waits, so not all tasks had started and the completion was never called.
    obtain ⟨_, waiting⟩ := not_or.mp idle
    have called := List.ne_nil_of_mem (List.mem_of_getLast? last)
    exact absurd (call.delivers.mp (.inr called)).1 waiting

/-- A block calls the completion with all images so far. -/
theorem complete (call : ImageCall number world past) (array : next.imageArray number = world.imageArray number)
    (started : next.allStarted number = world.allStarted number) (queued : number ∈ world.mainQueue) :
    ImageCall number next (past ++ [.completed number (world.imageArray number)]) := by
  have oneMore : (past ++ [ImageEntry.completed number (world.imageArray number)]).filterMap
      (ImageEntry.images number) = past.filterMap (ImageEntry.images number) ++ [world.imageArray number] := by
    simp [ImageEntry.images]
  have late : ImageEntry.Late number (past ++ [.completed number (world.imageArray number)]) ↔
      ImageEntry.Late number past := by
    rw [ImageEntry.late_concat]
    simp
  refine ⟨?_, ?_, ?_, ?_, ?_⟩
  · rw [array, ← call.array]
    simp [ImageEntry.picture]
  · rw [oneMore, array]
    intro images member
    rcases List.mem_append.mp member with old | new
    · exact call.partly images old
    · exact List.mem_singleton.mp new ▸ List.prefix_rfl
  · rw [oneMore, List.pairwise_append]
    refine ⟨call.grows, List.pairwise_singleton _ _, fun earlier old later new => ?_⟩
    exact List.mem_singleton.mp new ▸ call.partly earlier old
  · rw [oneMore, started, late, ← call.delivers]
    simp [queued]
  · rw [oneMore, array]
    intro _ images last
    rw [List.getLast?_concat] at last
    exact (Option.some.inj last).symm

/-- Each of the four steps keeps the call. -/
theorem step (call : ImageCall number world past) {logged : List (ImageEntry Content)}
    (stepped : ImageWorld.CallStep number world next logged) : ImageCall number next (past ++ logged) := by
  cases stepped with
  | quiet other array started queue => exact call.quiet other array started queue
  | start array waiting queue => exact call.start array waiting queue
  | download link picture array started queue => exact call.download link array started queue
  | complete array started queued => exact call.complete array started queued

/-- When the tasks have finished and the blocks have run, the completion was called exactly if a picture is late. -/
theorem called_iff (call : ImageCall number world past)
    (finished : ∀ download ∈ world.downloads[number]?, download.Finished) (drained : number ∉ world.mainQueue) :
    past.filterMap (ImageEntry.images number) ≠ [] ↔ ImageEntry.Late number past := by
  have delivers := call.delivers
  rw [or_iff_right drained] at delivers
  rw [delivers]
  refine and_iff_right_of_imp fun late => ?_
  cases present : world.downloads[number]? with
  | none =>
      refine absurd (call.array.trans ?_) late.downloaded
      rw [ImageWorld.imageArray, present]
      rfl
  | some download =>
      rw [ImageWorld.allStarted_of present, download.allStarted_iff]
      intro task member waiting
      cases waiting.symm.trans (finished download present task member)

end ImageCall

/-- These are the observable parts of a run. -/
abbrev ImageWorld.log {View Content : Type} (client : ImageClient View Content) (wellFormed : String → Bool)
    (image : ImageData → Option UIImage) (world : ImageWorld View) (events : List (ImageEvent Content)) :
    List (ImageEntry Content) :=
  Transition.log (ImageWorld.step client wellFormed image) (ImageWorld.entries client wellFormed image) world events

/-- The log has the contents of the events. -/
theorem ImageWorld.log_content {View Content : Type} {client : ImageClient View Content} {wellFormed : String → Bool}
    {image : ImageData → Option UIImage} {world final : ImageWorld View} {events : List (ImageEvent Content)}
    (ran : world.run client wellFormed image events = some final) :
    (world.log client wellFormed image events).filterMap ImageEntry.content =
      events.filterMap ImageEvent.content := by
  have same : ∀ (world : ImageWorld View) (event : ImageEvent Content),
      (world.entries client wellFormed image event).filterMap ImageEntry.content =
        [event].filterMap ImageEvent.content := by
    intro world event
    have silent : ((world.completions client wellFormed image event).map
        (ImageEntry.completed (world.caller event))).filterMap (@ImageEntry.content Content) = [] := by
      refine List.filterMap_eq_nil_iff.mpr fun entry member => ?_
      obtain ⟨_, _, rfl⟩ := List.mem_map.mp member
      rfl
    rw [ImageWorld.entries, List.filterMap_append, silent, List.append_nil]
    cases event with
    | fill content => rfl
    | start number index => rfl
    | finish number index data =>
        refine List.filterMap_eq_nil_iff.mpr fun entry member => ?_
        obtain ⟨_, _, recorded⟩ := Option.bind_eq_some_iff.mp (Option.mem_toList.mp member)
        obtain ⟨_, _, rfl⟩ := Option.map_eq_some_iff.mp recorded
        rfl
    | main => rfl
  rw [ImageWorld.log, Transition.log_filterMap same, Transition.log_events ran]

section Runs

variable {View Content : Type} (client : ImageClient View Content) (wellFormed : String → Bool)
  (image : ImageData → Option UIImage) {world final : ImageWorld View} {events : List (ImageEvent Content)}

/-- Every run keeps all calls. -/
theorem ImageCall.run (noDownloads : world.downloads = []) (idle : world.mainQueue = [])
    (ran : world.run client wellFormed image events = some final) (number : Nat) :
    ImageCall number final (world.log client wellFormed image events) :=
  Transition.run_log (fun world past => ImageCall number world past)
    (fun _ _ _ _ call _ taken => call.step (ImageWorld.callStep taken number)) (ImageCall.fresh noDownloads idle)
    (Transition.Along.of_all (fun _ _ => trivial) world events) ran

/-- When the tasks of a call have finished and its blocks have run, its pictures have been delivered exactly if there
are none or one of them was downloaded after the last task had started. -/
theorem images_delivered_iff (noDownloads : world.downloads = []) (idle : world.mainQueue = [])
    (ran : world.run client wellFormed image events = some final) {number : Nat} {download : ImageDownload}
    (present : final.downloads[number]? = some download) (finished : download.Finished)
    (drained : number ∉ final.mainQueue) :
    ((world.log client wellFormed image events).filterMap (ImageEntry.picture number) ≠ [] →
        (world.log client wellFormed image events).filterMap (ImageEntry.images number) ≠ []) ↔
      (world.log client wellFormed image events).filterMap (ImageEntry.picture number) = [] ∨
        ImageEntry.Late number (world.log client wellFormed image events) := by
  have call := ImageCall.run client wellFormed image noDownloads idle ran number
  rw [call.called_iff (fun other found => Option.some.inj (present.symm.trans found) ▸ finished) drained]
  constructor
  · intro shown
    by_cases none : (world.log client wellFormed image events).filterMap (ImageEntry.picture number) = []
    · exact .inl none
    · exact .inr (shown none)
  · rintro (none | late) some
    · exact absurd none some
    · exact late

end Runs

/-- The item screen shows an item with two pictures. -/
def pictured : Item := { imageLinks := some ["front", "back"] }

def itemScreen : ImageWorld ItemViewController := { view := {} }

/-- The bytes of a picture are the picture. -/
def decoded (data : ImageData) : Option UIImage := some ⟨some data⟩

/-- Both tasks start before the first fetch ends. -/
def bothPictures : List (ImageEvent (Option Item)) :=
  [.fill (some pictured), .start 0 0, .start 0 1, .finish 0 1 (some [2]), .finish 0 0 (some [1]), .main, .main]

theorem bothPictures_run :
    ∃ final download, itemScreen.run ItemViewController.client (fun _ => true) decoded bothPictures = some final ∧
      final.downloads[0]? = some download ∧ download.Finished ∧ final.mainQueue = [] :=
  ⟨_, _, rfl, rfl, by decide, rfl⟩

theorem bothPictures_log : itemScreen.log ItemViewController.client (fun _ => true) decoded bothPictures =
    [.filled (some pictured), .started 0, .started 0, .downloaded 0 "back" ⟨some [2]⟩, .downloaded 0 "front" ⟨some [1]⟩,
      .completed 0 [⟨some [2]⟩, ⟨some [1]⟩], .completed 0 [⟨some [2]⟩, ⟨some [1]⟩]] := rfl

theorem images_delivered_both :
    (itemScreen.log ItemViewController.client (fun _ => true) decoded bothPictures).filterMap (ImageEntry.images 0) ≠
      [] := by
  obtain ⟨final, download, ran, present, finished, drained⟩ := bothPictures_run
  refine (images_delivered_iff ItemViewController.client _ decoded rfl rfl ran present finished ?_).mpr (.inr ?_) ?_
  · rw [drained]
    exact List.not_mem_nil
  · exact ⟨[.filled (some pictured), .started 0, .started 0, .downloaded 0 "back" ⟨some [2]⟩], _, _, bothPictures_log,
      ⟨"front", ⟨some [1]⟩, rfl⟩, by simp⟩
  · rw [bothPictures_log]
    exact List.cons_ne_nil _ _

/-- The first picture is downloaded before the second task starts, and the second fetch gets nothing. -/
def firstPicture : List (ImageEvent (Option Item)) :=
  [.fill (some pictured), .start 0 0, .finish 0 0 (some [1]), .start 0 1, .finish 0 1 none]

/-- All tasks are over and one picture was downloaded, but the completion was never called. -/
theorem first_picture_withheld :
    ∃ final download, itemScreen.run ItemViewController.client (fun _ => true) decoded firstPicture = some final ∧
      final.downloads[0]? = some download ∧ download.Finished ∧ final.mainQueue = [] ∧
      (itemScreen.log ItemViewController.client (fun _ => true) decoded firstPicture).filterMap
        (ImageEntry.picture 0) = [⟨some [1]⟩] ∧
      (itemScreen.log ItemViewController.client (fun _ => true) decoded firstPicture).filterMap
        (ImageEntry.images 0) = [] ∧
      final.view.itemImages = [] :=
  ⟨_, _, rfl, rfl, by decide, rfl, rfl, rfl, rfl⟩

section Runs

variable {View Content : Type} (client : ImageClient View Content) (wellFormed : String → Bool)
  (image : ImageData → Option UIImage) {world final : ImageWorld View} {events : List (ImageEvent Content)}

/-- The images of a completion call stay among those of the later calls, and the last call has all downloaded images
when no block of the call waits on the main queue. -/
theorem last_image_delivery_complete (noDownloads : world.downloads = []) (idle : world.mainQueue = [])
    (ran : world.run client wellFormed image events = some final) (number : Nat) :
    ((world.log client wellFormed image events).filterMap (ImageEntry.images number)).Pairwise (· <+: ·) ∧
      (number ∉ final.mainQueue →
        ∀ images ∈ ((world.log client wellFormed image events).filterMap (ImageEntry.images number)).getLast?,
          images.Perm ((world.log client wellFormed image events).filterMap (ImageEntry.picture number))) := by
  have call := ImageCall.run client wellFormed image noDownloads idle ran number
  refine ⟨call.grows, fun drained images last => ?_⟩
  rw [call.last drained images last, call.array]

end Runs

theorem last_image_delivery_both :
    [⟨some [2]⟩, ⟨some [1]⟩].Perm
      ((itemScreen.log ItemViewController.client (fun _ => true) decoded bothPictures).filterMap
        (ImageEntry.picture 0)) := by
  obtain ⟨final, download, ran, _, _, drained⟩ := bothPictures_run
  refine (last_image_delivery_complete ItemViewController.client _ decoded rfl rfl ran 0).2 ?_ _ ?_
  · rw [drained]
    exact List.not_mem_nil
  · rw [bothPictures_log]
    rfl

end ShoppingApp
