import ShoppingApp.Proof.ItemPictures

namespace ShoppingApp

/-- The link of a task that is not over. -/
def DownloadTask.awaited (task : DownloadTask) : Option String :=
  if task.phase = .finished then none else some task.link

def ImageDownload.awaited (download : ImageDownload) : List String := download.tasks.filterMap DownloadTask.awaited

/-- The link whose picture was downloaded by this call. -/
def ImageEntry.linkOf {Content : Type} (number : Nat) : ImageEntry Content → Option String
  | .downloaded owner link _ => if owner = number then some link else none
  | _ => none

/-- Each fetch gets the content of its link or nothing. -/
def ImageWorld.Fetches {View Content : Type} (content : String → Option ImageData) (world : ImageWorld View) :
    ImageEvent Content → Prop
  | .finish number index data =>
      ∀ url ∈ world.downloads[number]?.bind fun download => download.imageUrls[index]?,
        ∀ bytes ∈ data, content url = some bytes
  | .fill _ | .start _ _ | .main => True

instance {View Content : Type} (content : String → Option ImageData) (world : ImageWorld View) :
    ∀ event : ImageEvent Content, Decidable (world.Fetches content event)
  | .finish number index data =>
      inferInstanceAs (Decidable (∀ url ∈ world.downloads[number]?.bind fun download => download.imageUrls[index]?,
        ∀ bytes ∈ data, content url = some bytes))
  | .fill _ | .start _ _ | .main => inferInstanceAs (Decidable True)

/-- No fetch gets nothing. -/
def ImageEvent.Succeeds {Content : Type} : ImageEvent Content → Prop
  | .finish _ _ data => data ≠ none
  | .fill _ | .start _ _ | .main => True

instance {Content : Type} : ∀ event : ImageEvent Content, Decidable event.Succeeds
  | .finish _ _ _ => inferInstanceAs (Decidable (_ ≠ _))
  | .fill _ | .start _ _ | .main => inferInstanceAs (Decidable True)

/-- Each link of a call is downloaded, awaited, or failed, and the pictures are those of the downloaded links. A call
that loses nothing ends with a late picture unless it has no links. -/
structure Fetched {View Content : Type} (links : Content → Option (List String)) (fetched : String → Option UIImage)
    (lossless : Prop) (world : ImageWorld View) (past : List (ImageEntry Content)) : Prop where
  urls : world.downloads.map ImageDownload.imageUrls = (past.filterMap ImageEntry.content).filterMap links
  parts : ∀ number download, world.downloads[number]? = some download → ∃ failed,
    (past.filterMap (ImageEntry.linkOf number) ++ (download.awaited ++ failed)).Perm download.imageUrls ∧
      (lossless → failed = [])
  beyond : ∀ number, world.downloads.length ≤ number → past.filterMap (ImageEntry.linkOf number) = []
  pictures : ∀ number, past.filterMap (ImageEntry.picture number) =
    (past.filterMap (ImageEntry.linkOf number)).filterMap fetched
  ends : lossless → ∀ number download, world.downloads[number]? = some download → download.awaited = [] →
    download.imageUrls = [] ∨ ImageEntry.Late number past

namespace ImageDownload

variable {download changed : ImageDownload} {index : Nat}

theorem awaited_downloadImages (imageUrls : List String) : (downloadImages imageUrls).awaited = imageUrls := by
  simp [awaited, downloadImages, List.filterMap_map, Function.comp_def, DownloadTask.awaited]

/-- A task that starts is still awaited. -/
theorem awaited_start (begun : download.start index = some changed) :
    changed.awaited = download.awaited ∧ download.awaited ≠ [] := by
  obtain ⟨link, found, tasks, _⟩ := start_cases begun
  refine ⟨?_, ?_⟩
  · rw [awaited, tasks]
    exact Pool.filterMap_set_same DownloadTask.awaited found rfl
  · exact List.ne_nil_of_mem (List.mem_filterMap.mpr ⟨_, List.mem_of_getElem? found, rfl⟩)

/-- A task that ends is no longer awaited. -/
theorem awaited_finish {picture : Option UIImage} (ended : download.finish index picture = some changed) :
    ∃ link, download.imageUrls[index]? = some link ∧ download.awaited.Perm (link :: changed.awaited) := by
  obtain ⟨link, found, linked, tasks, _⟩ := finish_cases ended
  refine ⟨link, linked, (Pool.filterMap_perm DownloadTask.awaited found).trans ?_⟩
  rw [awaited, tasks]
  exact (Pool.filterMap_set_perm DownloadTask.awaited found ⟨link, .finished⟩).symm.cons link

/-- A call that is over awaits nothing. -/
theorem Finished.awaited (finished : download.Finished) : download.awaited = [] :=
  List.filterMap_eq_nil_iff.mpr fun task member => if_pos (finished task member)

end ImageDownload

namespace Fetched

variable {View Content : Type} {links : Content → Option (List String)} {fetched : String → Option UIImage}
  {lossless : Prop} {world next : ImageWorld View} {past : List (ImageEntry Content)}

theorem fresh (noDownloads : world.downloads = []) : Fetched links fetched lossless world [] where
  urls := by rw [noDownloads]; rfl
  parts number download present := by rw [noDownloads] at present; cases present
  beyond _ _ := rfl
  pictures _ := rfl
  ends _ number download present := by rw [noDownloads] at present; cases present

/-- A step that downloads nothing and keeps what the calls await keeps their parts. -/
theorem quiet (held : Fetched links fetched lossless world past) {logged : List (ImageEntry Content)}
    (silent : ∀ entry ∈ logged, ∀ number, entry.linkOf number = none ∧ entry.picture number = none)
    (urls : next.downloads.map ImageDownload.imageUrls =
      ((past ++ logged).filterMap ImageEntry.content).filterMap links)
    (more : world.downloads.length ≤ next.downloads.length)
    (parts : ∀ number download, next.downloads[number]? = some download → ∃ failed,
      (past.filterMap (ImageEntry.linkOf number) ++ (download.awaited ++ failed)).Perm download.imageUrls ∧
        (lossless → failed = []))
    (ends : lossless → ∀ number download, next.downloads[number]? = some download → download.awaited = [] →
      download.imageUrls = [] ∨ ImageEntry.Late number (past ++ logged)) :
    Fetched links fetched lossless next (past ++ logged) := by
  have noLink (number : Nat) : (past ++ logged).filterMap (ImageEntry.linkOf number) =
      past.filterMap (ImageEntry.linkOf number) := by
    rw [List.filterMap_append, List.filterMap_eq_nil_iff.mpr fun entry member => (silent entry member number).1,
      List.append_nil]
  refine ⟨urls, fun number => ?_, fun number outside => ?_, fun number => ?_, ends⟩
  · rw [noLink]
    exact parts number
  · rw [noLink]
    exact held.beyond number (more.trans outside)
  · rw [noLink, List.filterMap_append,
      List.filterMap_eq_nil_iff.mpr fun entry member => (silent entry member number).2, List.append_nil]
    exact held.pictures number

/-- A late picture stays late until another task starts. -/
theorem ends_concat (held : Fetched links fetched lossless world past) {last : ImageEntry Content} {number : Nat}
    (other : last ≠ .started number) (all : lossless) {download : ImageDownload}
    (present : world.downloads[number]? = some download) (ended : download.awaited = []) :
    download.imageUrls = [] ∨ ImageEntry.Late number (past ++ [last]) :=
  (held.ends all number download present ended).imp_right fun late => ImageEntry.late_concat.mpr (.inr ⟨other, late⟩)

variable {client : ImageClient View Content} {wellFormed : String → Bool} {image : ImageData → Option UIImage}

/-- A new call awaits all of its links. -/
theorem fill (held : Fetched links fetched lossless world past)
    (fills : ∀ content view, (client.fill content view).2 = links content) {content : Content}
    (taken : world.step client wellFormed image (.fill content) = some next) :
    Fetched links fetched lossless next (past ++ [.filled content]) := by
  obtain rfl := ImageWorld.step_fill taken
  have entries : (past ++ [ImageEntry.filled content]).filterMap ImageEntry.content =
      past.filterMap ImageEntry.content ++ [content] := by simp [ImageEntry.content]
  have silent : ∀ entry ∈ [ImageEntry.filled content], ∀ number,
      entry.linkOf number = none ∧ entry.picture number = none := by
    intro entry member number
    rw [List.mem_singleton.mp member]
    exact ⟨rfl, rfl⟩
  refine held.quiet silent ?_ (List.length_append ▸ Nat.le_add_right _ _) ?_ fun all => ?_
  · rw [entries, List.map_append, held.urls, List.filterMap_append, fills]
    cases started : links content with
    | none => simp [started]
    | some imageUrls => simp [started, downloadImages]
  · dsimp only
    rw [fills]
    cases started : links content with
    | none =>
        rw [Option.map_none, Option.toList_none, List.append_nil]
        exact held.parts
    | some imageUrls =>
        refine Pool.forall_places_concat held.parts ⟨[], ?_, fun _ => rfl⟩
        rw [held.beyond _ (Nat.le_refl _), ImageDownload.awaited_downloadImages, List.append_nil]
        exact List.Perm.refl _
  · have earlier (number : Nat) (download : ImageDownload) (present : world.downloads[number]? = some download) :=
      held.ends_concat (nofun : ImageEntry.filled content ≠ .started number) all present
    dsimp only
    rw [fills]
    cases started : links content with
    | none =>
        rw [Option.map_none, Option.toList_none, List.append_nil]
        exact earlier
    | some imageUrls =>
        refine Pool.forall_places_concat earlier fun ended => .inl ?_
        exact (ImageDownload.awaited_downloadImages imageUrls).symm.trans ended

/-- A started task is still awaited. -/
theorem start (held : Fetched links fetched lossless world past) {number index : Nat}
    (taken : world.step client wellFormed image (.start number index) = some next) :
    Fetched links fetched lossless next (past ++ [.started number]) := by
  obtain ⟨download, started, present, begun, rfl⟩ := ImageWorld.step_start taken
  obtain ⟨_, _, _, sameUrls, _⟩ := ImageDownload.start_cases begun
  have silent : ∀ entry ∈ ([.started number] : List (ImageEntry Content)), ∀ number,
      entry.linkOf number = none ∧ entry.picture number = none := by
    intro entry member number
    rw [List.mem_singleton.mp member]
    exact ⟨rfl, rfl⟩
  obtain ⟨sameAwaited, running⟩ := ImageDownload.awaited_start begun
  refine held.quiet silent ?_ List.length_set.ge ?_ fun all => ?_
  · rw [Pool.map_set_same ImageDownload.imageUrls present sameUrls, held.urls, List.filterMap_append]
    simp [ImageEntry.content]
  · refine Pool.forall_places_set held.parts ?_
    rw [sameAwaited, sameUrls]
    exact held.parts number download present
  · refine Pool.forall_places_set (fun place member found ended => ?_) fun ended => absurd ended (sameAwaited ▸ running)
    refine held.ends_concat (fun same => ?_) all found ended
    obtain rfl := ImageEntry.started.inj same
    exact running (Option.some.inj (present.symm.trans found) ▸ ended)

/-- A fetch ends as the picture of its link, as a failure, or with the application. -/
theorem finish (held : Fetched links fetched lossless world past) {number index : Nat} {data : Option ImageData}
    (served : ∀ url ∈ world.downloads[number]?.bind fun download => download.imageUrls[index]?, ∀ bytes ∈ data,
      fetched url = image bytes) (succeeds : lossless → data ≠ none)
    (taken : world.step client wellFormed image (.finish number index data) = some next) :
    Fetched links fetched lossless next
      (past ++ world.entries client wellFormed image (.finish number index data)) := by
  obtain ⟨download, finished, present, ended, outcome⟩ := ImageWorld.step_finish taken
  obtain ⟨url, _, linked, _, sameUrls, _⟩ := ImageDownload.finish_cases ended
  obtain ⟨link, linkedAgain, awaited⟩ := ImageDownload.awaited_finish ended
  obtain rfl := Option.some.inj (linked.symm.trans linkedAgain)
  have urls : (world.downloads.set number finished).map ImageDownload.imageUrls =
      (past.filterMap ImageEntry.content).filterMap links :=
    (Pool.map_set_same ImageDownload.imageUrls present sameUrls).trans held.urls
  obtain ⟨failed, parts, lost⟩ := held.parts number download present
  rw [ImageWorld.entries_finish taken present linked]
  rcases outcome with ⟨none, rfl | ⟨rfl, rfl⟩⟩ | ⟨picture, found, rfl⟩
  · rw [none, Option.map_none, Option.toList_none, List.append_nil]
    exact ⟨held.urls, held.parts, held.beyond, held.pictures, held.ends⟩
  · rw [none, Option.map_none, Option.toList_none, List.append_nil]
    refine ⟨urls, Pool.forall_places_set held.parts ⟨url :: failed, ?_, fun all => absurd rfl (succeeds all)⟩, ?_,
      held.pictures, fun all => absurd rfl (succeeds all)⟩
    · rw [sameUrls]
      refine (List.Perm.append_left _ ?_).trans parts
      exact List.perm_middle.trans (awaited.symm.append_right failed)
    · exact fun other outside => held.beyond other (List.length_set.ge.trans outside)
  · obtain ⟨bytes, rfl, decoded⟩ := Option.bind_eq_some_iff.mp found
    have shown : fetched url = some picture :=
      (served url (by rw [present]; exact linked) bytes rfl).trans decoded
    rw [found, Option.map_some, Option.toList_some]
    have own : (past ++ [ImageEntry.downloaded number url picture]).filterMap (ImageEntry.linkOf number) =
        past.filterMap (ImageEntry.linkOf number) ++ [url] := by simp [ImageEntry.linkOf]
    have others {other : Nat} (apart : number ≠ other) :
        (past ++ [(.downloaded number url picture : ImageEntry Content)]).filterMap (ImageEntry.linkOf other) =
          past.filterMap (ImageEntry.linkOf other) := by simp [ImageEntry.linkOf, apart]
    refine ⟨?_, ?_, fun other outside => ?_, fun other => ?_, fun all => ?_⟩
    · have silent : [(.downloaded number url picture : ImageEntry Content)].filterMap ImageEntry.content = [] := rfl
      rw [List.filterMap_append, silent, List.append_nil]
      exact urls
    · intro other current currently
      by_cases mine : number = other
      · subst mine
        rw [List.getElem?_set_self (List.getElem?_eq_some_iff.mp present).1] at currently
        obtain rfl := Option.some.inj currently
        refine ⟨failed, ?_, lost⟩
        rw [own, sameUrls, List.append_assoc]
        exact (List.Perm.append_left _ (awaited.symm.append_right failed)).trans parts
      · rw [others mine]
        exact held.parts other current ((List.getElem?_set_ne mine).symm.trans currently)
    · rw [List.length_set] at outside
      rw [others ((List.getElem?_eq_some_iff.mp present).1.trans_le outside).ne]
      exact held.beyond other outside
    · by_cases mine : number = other
      · subst mine
        rw [own, List.filterMap_append, List.filterMap_append, held.pictures]
        simp [ImageEntry.picture, shown]
      · rw [others mine, List.filterMap_append, held.pictures]
        simp [ImageEntry.picture, mine]
    · refine Pool.forall_places_set (fun place member found ended => ?_) fun _ => .inr ?_
      · exact held.ends_concat (fun same => by cases same) all found ended
      · exact ImageEntry.late_concat.mpr (.inl ⟨url, picture, rfl⟩)

/-- A completion call downloads nothing. -/
theorem main (held : Fetched links fetched lossless world past)
    (taken : world.step client wellFormed image .main = some next) :
    Fetched links fetched lossless next (past ++ world.entries client wellFormed image .main) := by
  obtain ⟨number, rest, download, queue, _, rfl⟩ := ImageWorld.step_main taken
  rw [ImageWorld.entries_main taken queue]
  refine held.quiet (fun entry member other => ?_) ?_ (Nat.le_refl _) held.parts fun all number download present => ?_
  · rw [List.mem_singleton.mp member]
    exact ⟨rfl, rfl⟩
  · rw [held.urls, List.filterMap_append]
    simp [ImageEntry.content]
  · exact held.ends_concat (fun same => by cases same) all present

/-- Every step keeps the parts of the calls. -/
theorem step {content : String → Option ImageData}
    (held : Fetched links (fun url => (content url).bind image) lossless world past)
    (fills : ∀ content view, (client.fill content view).2 = links content) {event : ImageEvent Content}
    (fetches : world.Fetches content event) (succeeds : lossless → event.Succeeds)
    (taken : world.step client wellFormed image event = some next) :
    Fetched links (fun url => (content url).bind image) lossless next
      (past ++ world.entries client wellFormed image event) := by
  cases event with
  | fill content =>
      rw [ImageWorld.entries_fill taken]
      exact held.fill fills taken
  | start number index =>
      rw [ImageWorld.entries_start taken]
      exact held.start taken
  | finish number index data =>
      refine held.finish (fun url linked bytes came => ?_) succeeds taken
      rw [fetches url linked bytes came, Option.bind_some]
  | main => exact held.main taken

end Fetched

end ShoppingApp
