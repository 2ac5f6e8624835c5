import ShoppingApp.Proof.Handlers

namespace ShoppingApp

/-- This relation lists every request that a gesture can issue. -/
inductive Gesture.Issues (device : Device) : Gesture → Request → Prop where
  | addToBasket {uid : String} {item : Item} (signedIn : device.auth = some uid) :
      Issues device (.addToBasket item) (.getBaskets uid (.addToBasket item))
  | loadBasket {uid : String} (signedIn : device.auth = some uid) :
      Issues device .viewDidAppear (.getBaskets uid .loadBasket)
  | readItem {row download : Nat} {name : String} :
      Issues device (.deleteRow row) (.getItem name download)
  | deleteRow {row : Nat} {item : Item} {basket : Basket} {itemId name : String}
      {itemIds : List String} (present : device.screen.allItems[row]? = some item)
      (hasId : item.id = some itemId) (hasBasket : device.screen.basket = some basket)
      (hasItems : basket.itemIds = some itemIds) (hasName : basket.id = some name)
      (member : itemId ∈ itemIds) :
      Issues device (.deleteRow row)
        (.updateBasket name (itemIdsValues (itemIds.erase itemId)) (.deleteRow itemId))
  | recordPurchase {uid : String} {dictionary : Dictionary} {user : MUser}
      (signedIn : device.auth = some uid) (cached : device.defaults = some dictionary)
      (decoded : MUser.ofDictionary dictionary = some user) :
      Issues device .completePayment
        (.updateUser uid
          (purchasedValues (user.purchasedItemIds ++ device.screen.purchasedItemIds))
          (dictionary.patch
            (purchasedValues (user.purchasedItemIds ++ device.screen.purchasedItemIds))))
  | emptyTheBasket {basket : Basket} {name : String} (hasBasket : device.screen.basket = some basket)
      (hasName : basket.id = some name) :
      Issues device .completePayment (.updateBasket name (itemIdsValues []) .emptyTheBasket)
  | login {email : String} : Issues device (.login email) (.signIn email)
  | register {email : String} : Issues device (.register email) (.createUser email)
  | saveProfile {uid name surname address : String} {dictionary : Dictionary}
      (signedIn : device.auth = some uid) (cached : device.defaults = some dictionary) :
      Issues device (.saveProfile name surname address)
        (.updateUser uid (profileValues name surname address)
          (dictionary.patch (profileValues name surname address)))
  | finishOnboarding {uid name surname address : String} {dictionary : Dictionary}
      (signedIn : device.auth = some uid) (cached : device.defaults = some dictionary) :
      Issues device (.finishOnboarding name surname address)
        (.updateUser uid (onboardingValues name surname address)
          (dictionary.patch (onboardingValues name surname address)))
  | updateUser {uid : String} {withValues dictionary : Dictionary}
      (signedIn : device.auth = some uid) (cached : device.defaults = some dictionary) :
      Issues device (.updateUser withValues)
        (.updateUser uid withValues (dictionary.patch withValues))

/-- This relation lists every request that a completion can issue. -/
inductive Request.Follows (uuid : String) (device : Device) : Request → Reply → Request → Prop where
  | createBasket {owner uid itemId : String} {item : Item} {reply : Reply}
      (absent : reply.basket = none) (signedIn : device.auth = some uid)
      (hasId : item.id = some itemId) :
      Follows uuid device (.getBaskets owner (.addToBasket item)) reply
        (.setBasket uuid (basketDictionaryFrom ⟨some uuid, some uid, some [itemId]⟩))
  | appendItem {owner name itemId : String} {item : Item} {reply : Reply} {basket : Basket}
      {itemIds : List String} (found : reply.basket = some basket) (hasName : basket.id = some name)
      (hasItems : basket.itemIds = some itemIds) (hasId : item.id = some itemId) :
      Follows uuid device (.getBaskets owner (.addToBasket item)) reply
        (.updateBasket name (itemIdsValues (itemIds ++ [itemId])) (.addToBasket itemId))
  | readLoaded {owner name : String} {reply : Reply} {download : Nat} :
      Follows uuid device (.getBaskets owner .loadBasket) reply (.getItem name download)
  | readEmptied {updated name : String} {values : Dictionary} {reply : Reply} {download : Nat} :
      Follows uuid device (.updateBasket updated values .emptyTheBasket) reply (.getItem name download)
  | saveUser {userId email : String} {reply : Reply} (missing : reply.read = .missing) :
      Follows uuid device (.getUser userId email) reply
        (.setUser userId (userDictionaryFrom (MUser.new userId email "" "")))
  | downloadUser {email uid : String} :
      Follows uuid device (.signIn email) (.account uid true) (.getUser uid email)

namespace Device

theorem withCurrentUser_issued {device : Device} {absent : Outcome} {present : MUser → Outcome}
    {request : Request} (member : request ∈ (device.withCurrentUser absent present).issued) :
    request ∈ absent.issued ∨
      ∃ user, device.currentUser = some (some user) ∧ request ∈ (present user).issued := by
  unfold withCurrentUser at member
  split at member
  · cases member
  · exact .inl member
  · rename_i user current
    exact .inr ⟨user, current, member⟩

theorem withCurrentId_issued {device : Device} {next : String → Outcome} {request : Request}
    (member : request ∈ (device.withCurrentId next).issued) :
    ∃ uid, device.auth = some uid ∧ request ∈ (next uid).issued := by
  unfold withCurrentId at member
  split at member
  · cases member
  · rename_i uid signedIn
    exact ⟨uid, signedIn, member⟩

theorem updateCurrentUserInFirestore_issued {device : Device} {withValues : Dictionary}
    {request : Request} (member : request ∈ (device.updateCurrentUserInFirestore withValues).issued) :
    ∃ uid dictionary, device.auth = some uid ∧ device.defaults = some dictionary ∧
      request = .updateUser uid withValues (dictionary.patch withValues) := by
  unfold updateCurrentUserInFirestore at member
  split at member
  · cases member
  · rename_i dictionary cached
    obtain ⟨uid, signedIn, member⟩ := withCurrentId_issued member
    exact ⟨uid, dictionary, signedIn, cached, List.mem_singleton.mp member⟩

theorem updateBasketInFirestore_issued {device : Device} {basket : Basket} {values : Dictionary}
    {completion : BasketUpdate} {request : Request}
    (member : request ∈ (device.updateBasketInFirestore basket values completion).issued) :
    ∃ name, basket.id = some name ∧ request = .updateBasket name values completion := by
  unfold updateBasketInFirestore at member
  split at member
  · cases member
  · rename_i name hasName
    exact ⟨name, hasName, List.mem_singleton.mp member⟩

theorem emptyTheBasket_issued {device : Device} {request : Request}
    (member : request ∈ device.emptyTheBasket.issued) :
    ∃ basket name, device.screen.basket = some basket ∧ basket.id = some name ∧
      request = .updateBasket name (itemIdsValues []) .emptyTheBasket := by
  unfold emptyTheBasket at member
  dsimp only at member
  split at member
  · cases member
  · rename_i basket hasBasket
    obtain ⟨name, hasName, same⟩ := updateBasketInFirestore_issued member
    exact ⟨basket, name, hasBasket, hasName, same⟩

theorem andThen_issued {outcome : Outcome} {next : Device → Outcome} {request : Request}
    (member : request ∈ (outcome.andThen next).issued) :
    request ∈ outcome.issued ∨ request ∈ (next outcome.device).issued := by
  unfold Outcome.andThen at member
  split at member
  · exact .inl member
  · exact List.mem_append.mp member

end Device

/-- A stopped delete gesture issues at most the write of the shortened array. -/
theorem Device.deleteRow_issued {device : Device} {row : Nat} {request : Request}
    (member : request ∈ (device.deleteRow row).issued) :
    Gesture.Issues device (.deleteRow row) request := by
  unfold deleteRow at member
  split at member
  · cases member
  · rename_i item present
    dsimp only at member
    split at member
    · rename_i itemId basket hasId hasBasket
      split at member
      · cases member
      · rename_i remaining removed
        obtain ⟨itemIds, hasItems, scanned⟩ := Option.bind_eq_some_iff.mp removed
        rw [removeItemFromBasket_eq] at scanned
        split at scanned
        · rename_i inside
          obtain rfl := Option.some.inj scanned
          rcases andThen_issued member with write | read
          · obtain ⟨name, hasName, rfl⟩ := updateBasketInFirestore_issued write
            exact .deleteRow present hasId hasBasket hasItems hasName inside
          · obtain ⟨name, download, rfl⟩ := (getBasketItems_reads _).reads request read
            exact .readItem
        · cases scanned
    · cases member

/-- Each request of a gesture is one of the listed requests. -/
theorem Gesture.issues_of_mem {device : Device} {gesture : Gesture} {request : Request}
    (member : request ∈ (gesture.handle device).issued) : Issues device gesture request := by
  cases gesture with
  | addToBasket item =>
      rcases Device.withCurrentUser_issued member with impossible | ⟨user, _, member⟩
      · cases impossible
      · obtain ⟨uid, signedIn, member⟩ := Device.withCurrentId_issued member
        obtain rfl := List.mem_singleton.mp member
        exact .addToBasket signedIn
  | viewDidAppear =>
      rcases Device.withCurrentUser_issued member with labels | ⟨user, _, member⟩
      · simp only [Device.updateTotalLabels] at labels
        split at labels <;> cases labels
      · obtain ⟨uid, signedIn, member⟩ := Device.withCurrentId_issued member
        obtain rfl := List.mem_singleton.mp member
        exact .loadBasket signedIn
  | deleteRow row => exact Device.deleteRow_issued member
  | checkOut processable =>
      rcases Device.withCurrentUser_issued member with impossible | ⟨user, _, member⟩
      · cases impossible
      · split at member
        · simp only [Device.payButtonPressed] at member
          split at member <;> cases member
        · cases member
  | cancelPayment => cases member
  | completePayment =>
      rcases Device.andThen_issued member with history | clear
      · rcases Device.withCurrentUser_issued history with impossible | ⟨user, current, history⟩
        · cases impossible
        · obtain ⟨uid, dictionary, signedIn, cached, decoded⟩ := Device.currentUser_eq_some current
          obtain ⟨other, copy, sameUid, sameCache, rfl⟩ :=
            Device.updateCurrentUserInFirestore_issued history
          obtain rfl := Option.some.inj (signedIn.symm.trans sameUid)
          obtain rfl := Option.some.inj (cached.symm.trans sameCache)
          exact .recordPurchase signedIn cached decoded
      · obtain ⟨basket, name, hasBasket, hasName, rfl⟩ := Device.emptyTheBasket_issued clear
        have kept := (Device.addItemsToPurchaseHistory_stays
          { device with screen := { device.screen with payment := none } }
          device.screen.purchasedItemIds).screen
        rw [kept] at hasBasket
        exact .emptyTheBasket hasBasket hasName
  | login email =>
      obtain rfl := List.mem_singleton.mp member
      exact .login
  | register email =>
      obtain rfl := List.mem_singleton.mp member
      exact .register
  | logOut signedOut =>
      simp only [handle, Device.logOutCurrentUser] at member
      split at member <;> cases member
  | saveProfile name surname address =>
      simp only [handle, Device.saveBarButtonPressed] at member
      split at member
      · obtain ⟨uid, dictionary, signedIn, cached, rfl⟩ :=
          Device.updateCurrentUserInFirestore_issued member
        exact .saveProfile signedIn cached
      · cases member
  | finishOnboarding name surname address =>
      obtain ⟨uid, dictionary, signedIn, cached, rfl⟩ :=
        Device.updateCurrentUserInFirestore_issued member
      exact .finishOnboarding signedIn cached
  | updateUser withValues =>
      obtain ⟨uid, dictionary, signedIn, cached, rfl⟩ :=
        Device.updateCurrentUserInFirestore_issued member
      exact .updateUser signedIn cached

/-- Each request of a completion is one of the listed requests. -/
theorem Request.follows_of_mem {uuid : String} {device : Device} {request issued : Request}
    {reply : Reply} (member : issued ∈ (request.complete uuid reply device).issued) :
    Follows uuid device request reply issued := by
  cases request with
  | getBaskets owner completion =>
      cases completion with
      | addToBasket item =>
          simp only [complete, Device.addToBasketCompletion] at member
          split at member
          · rename_i absent
            obtain ⟨uid, signedIn, member⟩ := Device.withCurrentId_issued member
            split at member
            · cases member
            · rename_i itemId hasId
              obtain rfl := List.mem_singleton.mp member
              exact .createBasket absent signedIn hasId
          · rename_i basket found
            split at member
            · rename_i itemIds itemId hasItems hasId
              obtain ⟨name, hasName, rfl⟩ := Device.updateBasketInFirestore_issued member
              exact .appendItem found hasName hasItems hasId
            · cases member
      | loadBasket =>
          obtain ⟨name, download, rfl⟩ := (Device.getBasketItems_reads _).reads issued member
          exact .readLoaded
  | setBasket name data => cases member
  | updateBasket name values completion =>
      cases completion with
      | addToBasket itemId => cases member
      | deleteRow itemId => cases member
      | emptyTheBasket =>
          obtain ⟨name, download, rfl⟩ := (Device.getBasketItems_reads _).reads issued member
          exact .readEmptied
  | getItem name download =>
      simp only [complete, Device.itemCompletion_issued] at member
      cases member
  | getUser userId email =>
      simp only [complete, Device.downloadUserCompletion] at member
      split at member
      · cases member
      · cases member
      · rename_i missing
        obtain rfl := List.mem_singleton.mp member
        exact .saveUser missing
  | setUser name data => cases member
  | updateUser name values userObject =>
      cases reply <;> cases member
  | signIn email =>
      cases reply with
      | account uid isEmailVerified =>
          cases isEmailVerified with
          | false => cases member
          | true =>
              obtain rfl := List.mem_singleton.mp member
              exact .downloadUser
      | error => cases member
      | done => cases member
      | documents documents => cases member
      | document data => cases member
  | createUser email => cases member

end ShoppingApp
