import ShoppingApp.Library.Pool
import ShoppingApp.Proof.ItemDownload
import ShoppingApp.Proof.ScreenHandlers

namespace ShoppingApp

/-- A read finds an item of this kind if it finds one. -/
def DocumentRead.Reads (kind : Item → Prop) (read : DocumentRead) : Prop :=
  ∀ data, read = .found data → kind (Item.ofDictionary data)

/-- The collected items are of this kind. -/
def ItemDownload.Lists (kind : Item → Prop) (download : ItemDownload) : Prop :=
  ∀ item ∈ download.itemArray, kind item

/-- The rows of the basket screen and the collected items of its downloads are of this kind. -/
structure Device.Lists (kind : Item → Prop) (device : Device) : Prop where
  rows : ∀ item ∈ device.screen.allItems, kind item
  collected : ∀ download ∈ device.downloads, download.Lists kind

/-- The item to be added or the item that was read is of this kind. -/
def Flight.Lists (kind : Item → Prop) (flight : Flight) : Prop :=
  match flight.request with
  | .getBaskets _ (.addToBasket item) => kind item
  | .getItem _ _ => ∀ reply, flight.reply = some reply → reply.read.Reads kind
  | _ => True

/-- A signed-in device adds items of this kind alone. -/
def World.Adds (kind : Item → Prop) (world : World) (event : Event) : Prop :=
  ∀ number item, event = .gesture number (.addToBasket item) → (world.devices number).auth ≠ none → kind item

/-- The screens and the requests in flight have items of this kind. -/
structure World.Carries (kind : Item → Prop) (world : World) : Prop where
  devices : ∀ number, (world.devices number).Lists kind
  flights : ∀ flight ∈ world.flights, flight.Lists kind

/-- The item documents are of this kind as well. -/
structure World.Lists (kind : Item → Prop) (world : World) : Prop extends World.Carries kind world where
  stored : ∀ name data, world.store.data .items name = some data → kind (Item.ofDictionary data)

variable {kind wider : Item → Prop}

/-- A callback collects an item of the kind and delivers what is collected. -/
theorem ItemDownload.Lists.receive {download : ItemDownload} {read : DocumentRead} (lists : download.Lists kind)
    (reads : read.Reads kind) : (download.receive read).1.Lists kind ∧
      ∀ delivered ∈ (download.receive read).2, ∀ item ∈ delivered, kind item := by
  have collected : (download.receive read).1.Lists kind := by
    cases read with
    | failed => exact lists
    | missing => exact lists
    | found data =>
        intro item member
        rcases List.mem_append.mp member with old | new
        · exact lists item old
        · exact List.mem_singleton.mp new ▸ reads data rfl
  exact ⟨collected, fun delivered member item inside => collected item (receive_delivers member ▸ inside)⟩

theorem DocumentRead.Reads.mono {read : DocumentRead} (reads : read.Reads kind)
    (grows : ∀ item, kind item → wider item) :
    read.Reads wider := fun data found => grows _ (reads data found)

theorem Flight.Lists.mono {flight : Flight} (lists : flight.Lists kind) (grows : ∀ item, kind item → wider item) :
    flight.Lists wider := by
  obtain ⟨number, request, reply⟩ := flight
  cases request with
  | getBaskets ownerId completion =>
      cases completion with
      | addToBasket item => exact grows item lists
      | loadBasket => trivial
  | getItem name download => exact fun reply replied => (lists reply replied).mono grows
  | _ => trivial

namespace Device.Lists

variable {before after device : Device} {outcome : Outcome}

theorem mono (lists : device.Lists kind) (grows : ∀ item, kind item → wider item) : device.Lists wider :=
  ⟨fun item row => grows item (lists.rows item row),
    fun download member item collected => grows item (lists.collected download member item collected)⟩

theorem congr (lists : before.Lists kind) (rows : after.screen.allItems ⊆ before.screen.allItems)
    (downloads : after.downloads = before.downloads) : after.Lists kind :=
  ⟨fun item member => lists.rows item (rows member), downloads ▸ lists.collected⟩

theorem stays (lists : before.Lists kind) (stays : Outcome.Stays before outcome) : outcome.device.Lists kind := by
  rcases stays with same | same <;> rw [same]
  · exact lists
  · exact lists.congr (List.Subset.refl _) rfl

theorem andThen {next : Device → Outcome} (first : outcome.device.Lists kind)
    (second : (next outcome.device).device.Lists kind) : (outcome.andThen next).device.Lists kind := by
  unfold Outcome.andThen
  split
  · exact first
  · exact second

theorem updateTotalLabels (lists : device.Lists kind) (isEmpty : Bool) :
    (device.updateTotalLabels isEmpty).device.Lists kind := by
  unfold Device.updateTotalLabels
  dsimp only
  split <;> exact lists.congr (List.Subset.refl _) rfl

theorem showItems (lists : device.Lists kind) {items : List Item} (all : ∀ item ∈ items, kind item) :
    (device.showItems items).device.Lists kind := by
  have shown : Device.Lists kind { device with screen := { device.screen with allItems := items } } :=
    ⟨all, lists.collected⟩
  exact shown.updateTotalLabels _

theorem deliver (lists : device.Lists kind) {delivered : List (List Item)}
    (all : ∀ items ∈ delivered, ∀ item ∈ items, kind item) : (device.deliver delivered).device.Lists kind := by
  induction delivered generalizing device with
  | nil => exact lists
  | cons items rest ih =>
      have first := lists.showItems (all items List.mem_cons_self)
      exact andThen first (ih first fun later member => all later (List.mem_cons_of_mem _ member))

theorem downloadItemsFromFirebase (lists : device.Lists kind) (withIds : List String) :
    (device.downloadItemsFromFirebase withIds).device.Lists kind := by
  unfold Device.downloadItemsFromFirebase
  split
  · refine ⟨lists.rows, fun download member => ?_⟩
    rcases List.mem_append.mp member with old | new
    · exact lists.collected download old
    · rw [List.mem_singleton.mp new]
      exact fun item nothing => absurd nothing List.not_mem_nil
  · exact lists.showItems fun item nothing => absurd nothing List.not_mem_nil

theorem itemCompletion (lists : device.Lists kind) {read : DocumentRead} (reads : read.Reads kind) (download : Nat) :
    (device.itemCompletion download read).device.Lists kind := by
  unfold Device.itemCompletion
  split
  · exact lists
  · rename_i shared present
    obtain ⟨collected, delivered⟩ := (lists.collected shared (List.mem_of_getElem? present)).receive reads
    have updated :
        Device.Lists kind { device with downloads := device.downloads.set download (shared.receive read).1 } :=
      ⟨lists.rows, Pool.forall_set lists.collected collected⟩
    exact updated.deliver delivered

theorem getBasketItems (lists : device.Lists kind) : device.getBasketItems.device.Lists kind := by
  unfold Device.getBasketItems
  split
  · exact lists
  · split
    · exact lists.stays (.inr rfl)
    · exact lists.downloadItemsFromFirebase _

theorem deleteRow (lists : device.Lists kind) (row : Nat) : (device.deleteRow row).device.Lists kind := by
  have shorter (basket : Option Basket) : Device.Lists kind { device with screen :=
      { device.screen with allItems := device.screen.allItems.eraseIdx row, basket := basket } } :=
    lists.congr (List.eraseIdx_sublist ..).subset rfl
  have stopped {device : Device} (lists : device.Lists kind) : device.trap.device.Lists kind :=
    lists.congr (List.Subset.refl _) rfl
  have reloaded {outcome : Outcome} (written : outcome.device.Lists kind) :
      (outcome.andThen Device.getBasketItems).device.Lists kind := andThen written written.getBasketItems
  unfold Device.deleteRow
  split
  · exact stopped lists
  · dsimp only
    split
    · split
      · exact stopped (shorter _)
      · exact reloaded ((shorter _).stays (updateBasketInFirestore_stays _ _ _ _))
    · exact stopped (shorter _)

theorem payPalPaymentDidComplete (lists : device.Lists kind) : device.payPalPaymentDidComplete.device.Lists kind := by
  have dismissed : Device.Lists kind { device with screen := { device.screen with payment := none } } :=
    lists.congr (List.Subset.refl _) rfl
  have recorded := dismissed.stays (addItemsToPurchaseHistory_stays _ device.screen.purchasedItemIds)
  refine andThen recorded ?_
  have cleared {device : Device} (lists : device.Lists kind) (basket : Option Basket) : Device.Lists kind
      { device with screen := { device.screen with purchasedItemIds := [], allItems := [], basket := basket } } :=
    lists.congr (List.nil_subset _) rfl
  unfold emptyTheBasket
  dsimp only
  split
  · exact (cleared recorded _).stays (.inr rfl)
  · exact (cleared recorded _).stays (updateBasketInFirestore_stays _ _ _ _)

/-- A gesture brings no new item to the screen. -/
theorem gesture (lists : device.Lists kind) (made : Gesture) : (made.handle device).device.Lists kind := by
  have same {after : Device} (rows : after.screen.allItems = device.screen.allItems)
      (downloads : after.downloads = device.downloads) : after.Lists kind :=
    lists.congr (List.Perm.subset (.of_eq rows)) downloads
  cases made with
  | addToBasket item => exact lists.stays (device.addToBasketTapped_stays item)
  | viewDidAppear =>
      simp only [Gesture.handle, viewDidAppear, withCurrentUser]
      split
      · exact same rfl rfl
      · exact lists.updateTotalLabels true
      · exact lists.stays device.loadBasketFromFirestore_stays
  | deleteRow row => exact lists.deleteRow row
  | checkOut processable =>
      simp only [Gesture.handle, checkOutButtonWasTapped, withCurrentUser]
      split
      · exact same rfl rfl
      · exact same rfl rfl
      · split
        · unfold payButtonPressed
          split <;> exact same rfl rfl
        · exact lists
  | cancelPayment => exact same rfl rfl
  | completePayment => exact lists.payPalPaymentDidComplete
  | login email => exact lists
  | register email => exact lists
  | logOut signedOut => cases signedOut <;> exact same rfl rfl
  | saveProfile name surname address =>
      simp only [Gesture.handle, saveBarButtonPressed]
      split
      · exact lists.stays (device.updateCurrentUserInFirestore_stays _)
      · exact lists
  | finishOnboarding name surname address => exact lists.stays (device.updateCurrentUserInFirestore_stays _)
  | updateUser withValues => exact lists.stays (device.updateCurrentUserInFirestore_stays withValues)

/-- A completion shows items that were read. -/
theorem complete (lists : device.Lists kind) {request : Request} {reply : Reply} {number : Nat}
    (carried : Flight.Lists kind ⟨number, request, some reply⟩) (uuid : String) :
    (request.complete uuid reply device).device.Lists kind := by
  have saved (defaults : Option Dictionary) : Device.Lists kind { device with defaults := defaults } :=
    lists.congr (List.Subset.refl _) rfl
  cases request with
  | getBaskets owner completion =>
      cases completion with
      | addToBasket item => exact lists.stays (device.addToBasketCompletion_stays item uuid _)
      | loadBasket =>
          have loaded : Device.Lists kind { device with screen := { device.screen with basket := reply.basket } } :=
            lists.congr (List.Subset.refl _) rfl
          exact loaded.getBasketItems
  | updateBasket name values completion =>
      cases completion with
      | emptyTheBasket => exact lists.getBasketItems
      | addToBasket itemId => exact lists
      | deleteRow itemId => exact lists
  | getItem name download => exact lists.itemCompletion (carried reply rfl) download
  | getUser userId email =>
      cases reply with
      | document data => cases data <;> exact saved _
      | _ => exact lists
  | updateUser name values userObject =>
      cases reply with
      | done => exact saved _
      | _ => exact lists
  | signIn email =>
      cases reply with
      | account uid isEmailVerified => cases isEmailVerified <;> exact lists
      | _ => exact lists
  | _ => exact lists

end Device.Lists

namespace World.Carries

variable {world next : World} {number index : Nat} {request : Request}

theorem mono (carries : world.Carries kind) (grows : ∀ item, kind item → wider item) : world.Carries wider :=
  ⟨fun number => (carries.devices number).mono grows, fun flight member => (carries.flights flight member).mono grows⟩

theorem perform (carries : world.Carries kind) {outcome : Outcome} (device : outcome.device.Lists kind)
    (issued : ∀ request ∈ outcome.issued, Flight.Lists kind ⟨number, request, none⟩) :
    (world.perform number outcome).Carries kind := by
  refine ⟨fun other => ?_, forall_perform carries.flights issued⟩
  by_cases same : other = number
  · subst same
    rwa [perform_devices]
  · rw [perform_other _ _ same]
    exact carries.devices other

theorem gesture (carries : world.Carries kind) {made : Gesture} (adds : world.Adds kind (.gesture number made)) :
    (world.perform number (made.handle (world.devices number))).Carries kind := by
  refine carries.perform ((carries.devices number).gesture made) fun request issued => ?_
  cases Gesture.issues_of_mem issued with
  | addToBasket signedIn => exact adds number _ rfl (by rw [signedIn]; exact Option.some_ne_none _)
  | readItem => exact fun reply replied => by cases replied
  | _ => trivial

/-- The server reads items of the kind when the documents that are read are of the kind. -/
theorem answered {store : Store} (carried : Flight.Lists kind ⟨number, request, none⟩)
    (reads : ∀ name download, request = .getItem name download → ∀ data, store.data .items name = some data →
      kind (Item.ofDictionary data)) : Flight.Lists kind ⟨number, request, some (store.answer request).2⟩ := by
  cases request with
  | getItem name download =>
      intro reply replied data found
      obtain rfl := Option.some.inj replied
      cases stored : store.data .items name with
      | none => simp [Store.answer, Reply.read, stored] at found
      | some document =>
          obtain rfl : document = data := by simpa [Store.answer, Reply.read, stored] using found
          exact reads name download rfl document stored
  | getBaskets owner completion => cases completion <;> exact carried
  | _ => trivial

/-- Another reply than a document brings no item. -/
theorem replied {reply : Reply} (carried : Flight.Lists kind ⟨number, request, none⟩)
    (other : ∀ record, reply ≠ .document (some record)) : Flight.Lists kind ⟨number, request, some reply⟩ := by
  cases request with
  | getItem name download =>
      intro given same data found
      obtain rfl := Option.some.inj same
      unfold Reply.read at found
      split at found
      · cases found
      · exact absurd rfl (other _)
      · cases found
  | getBaskets owner completion => cases completion <;> exact carried
  | _ => trivial

theorem serve (carries : world.Carries kind) {answer : Answer}
    (found : world.flights[index]? = some ⟨number, request, none⟩)
    (reads : ∀ name download, request = .getItem name download → ∀ data, world.store.data .items name = some data →
      kind (Item.ofDictionary data)) (served : world.serve index number request answer = some next) :
    next.Carries kind := by
  have carried := carries.flights _ (List.mem_of_getElem? found)
  rcases serve_cases served with ⟨_, rfl⟩ | ⟨_, _, rfl⟩ | ⟨uid, isEmailVerified, _, _, rfl⟩
  · exact ⟨carries.devices, Pool.forall_set carries.flights (replied carried (by simp))⟩
  · exact ⟨carries.devices, Pool.forall_set carries.flights (answered carried reads)⟩
  · refine ⟨fun other => ?_, Pool.forall_set carries.flights (replied carried (by simp))⟩
    obtain ⟨auth, _, signedIn⟩ := world.signIn_device number other uid
    simp only [World.record, signedIn]
    exact (carries.devices other).congr (List.Subset.refl _) rfl

theorem callback (carries : world.Carries kind) {reply : Reply} {uuid : String}
    (found : world.flights[index]? = some ⟨number, request, some reply⟩) :
    (world.callback index number request reply uuid).Carries kind := by
  have carried := carries.flights _ (List.mem_of_getElem? found)
  have erased : Carries kind { world with flights := world.flights.eraseIdx index } :=
    ⟨carries.devices, Pool.forall_eraseIdx carries.flights⟩
  cases stopped : (world.devices number).trapped with
  | true => rwa [callback_of_stopped stopped]
  | false =>
      rw [callback_of_running stopped]
      refine erased.perform ((carries.devices number).complete carried uuid) fun issued follows => ?_
      cases Request.follows_of_mem follows with
      | readLoaded => exact fun reply replied => by cases replied
      | readEmptied => exact fun reply replied => by cases replied
      | _ => trivial

/-- A step keeps the kind of the items when the added item and the documents that are read are of the kind. -/
theorem step (carries : world.Carries kind) {event : Event} (adds : world.Adds kind event)
    (reads : ∀ flight ∈ world.flights, ∀ name download, flight.request = .getItem name download →
      ∀ data, world.store.data .items name = some data → kind (Item.ofDictionary data))
    (taken : world.step event = some next) : next.Carries kind := by
  cases event with
  | gesture number made =>
      obtain ⟨_, rfl⟩ := step_gesture.mp taken
      exact carries.gesture adds
  | serve index answer =>
      obtain ⟨number, request, found, served⟩ := step_serve.mp taken
      exact carries.serve found (reads _ (List.mem_of_getElem? found)) served
  | callback index uuid =>
      obtain ⟨number, request, reply, found, _, rfl⟩ := step_callback.mp taken
      exact carries.callback found

end World.Carries

namespace World.Lists

variable {world next : World}

theorem mono (lists : world.Lists kind) (grows : ∀ item, kind item → wider item) : world.Lists wider :=
  ⟨lists.toCarries.mono grows, fun name data stored => grows _ (lists.stored name data stored)⟩

/-- A step keeps the kind of the items when the added item is of the kind. -/
theorem step (lists : world.Lists kind) {event : Event} (adds : world.Adds kind event)
    (taken : world.step event = some next) : next.Lists kind := by
  refine ⟨lists.toCarries.step adds (fun _ _ name _ _ => lists.stored name) taken, fun name data stored => ?_⟩
  exact lists.stored name data ((congrFun (step_items taken) name).symm.trans stored)

end World.Lists

end ShoppingApp
