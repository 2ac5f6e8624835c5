import ShoppingApp.Model.Dictionary

namespace ShoppingApp

structure MUser where
  objectId : String
  email : String
  firstName : String
  lastName : String
  fullName : String
  purchasedItemIds : List String
  fullAddress : Option String
  onBoard : Bool
  deriving DecidableEq, Repr

/-- This is the initializer `MUser(_objectId:_email:_firstName:_lastName:)`. -/
def MUser.new (objectId email firstName lastName : String) : MUser where
  objectId := objectId
  email := email
  firstName := firstName
  lastName := lastName
  fullName := firstName ++ " " ++ lastName
  fullAddress := some ""
  onBoard := false
  purchasedItemIds := []

/-- This is the initializer `MUser(_dictionary:)`, whose forced casts can trap. -/
def MUser.ofDictionary (dictionary : Dictionary) : Option MUser := do
  let objectId ← dictionary.read Value.asString .objectId
  let email ← dictionary.force Value.asString .email ""
  let firstName ← dictionary.force Value.asString .firstName ""
  let lastName ← dictionary.force Value.asString .lastName ""
  let fullAddress ← dictionary.force Value.asString .fullAddress ""
  let onBoard ← dictionary.force Value.asBool .onboard false
  let purchasedItemIds ← dictionary.force Value.asStrings .purchasedItemIds []
  some { objectId, email, firstName, lastName, fullName := firstName ++ " " ++ lastName,
         fullAddress := some fullAddress, onBoard, purchasedItemIds }

def userDictionaryFrom (user : MUser) : Dictionary :=
  Record.ofArrays
    [.string user.objectId, .string user.email, .string user.firstName, .string user.lastName,
      .string user.fullName, .string (user.fullAddress.getD ""), .bool user.onBoard,
      .strings user.purchasedItemIds]
    [.objectId, .email, .firstName, .lastName, .fullName, .fullAddress, .onboard, .purchasedItemIds]

/-- These are the values that `EditProfileViewController` saves. -/
def profileValues (name surname address : String) : Dictionary :=
  Record.ofArrays
    [.string name, .string surname, .string (name ++ " " ++ surname), .string address]
    [.firstName, .lastName, .fullName, .fullAddress]

/-- These are the values that `FinishRegistrationViewController` saves. -/
def onboardingValues (name surname address : String) : Dictionary :=
  Record.ofArrays
    [.string name, .string surname, .bool true, .string address, .string (name ++ " " ++ surname)]
    [.firstName, .lastName, .onboard, .fullAddress, .fullName]

/-- These are the values `[kPURCHASEDITEMIDS: itemIds]` of a history update. -/
def purchasedValues (itemIds : List String) : Dictionary :=
  Record.ofArrays [.strings itemIds] [.purchasedItemIds]

/-- The history update sets the history. -/
@[simp] theorem Dictionary.purchasedItemIds_patch_purchasedValues (base : Dictionary)
    (itemIds : List String) :
    Dictionary.purchasedItemIds (base.patch (purchasedValues itemIds)) = itemIds := rfl

/-- The decoded identifier is the one of the dictionary. -/
theorem MUser.ofDictionary_objectId {dictionary : Dictionary} {user : MUser}
    (decoded : MUser.ofDictionary dictionary = some user) :
    dictionary.read Value.asString .objectId = some user.objectId := by
  simp only [ofDictionary, Option.bind_eq_bind, Option.bind_eq_some_iff, Option.some.injEq] at decoded
  obtain ⟨objectId, named, email, _, firstName, _, lastName, _, fullAddress, _, onBoard, _, history, _, rfl⟩ :=
    decoded
  exact named

/-- The decoded history is the one of the dictionary. -/
theorem MUser.ofDictionary_purchasedItemIds {dictionary : Dictionary} {user : MUser}
    (decoded : MUser.ofDictionary dictionary = some user) :
    user.purchasedItemIds = dictionary.purchasedItemIds := by
  simp only [ofDictionary, Option.bind_eq_bind, Option.bind_eq_some_iff, Option.some.injEq] at decoded
  obtain ⟨objectId, _, email, _, firstName, _, lastName, _, fullAddress, _, onBoard, _, history, forced, rfl⟩ :=
    decoded
  unfold Dictionary.force at forced
  unfold Dictionary.purchasedItemIds Dictionary.read
  split at forced
  · rename_i absent
    rw [absent]
    exact (Option.some.inj forced).symm
  · rename_i value present
    rw [present]
    simp [forced]

/-- The history update keeps the rest of the user. -/
theorem MUser.ofDictionary_patch_purchasedValues {record : Dictionary} {user : MUser} (itemIds : List String)
    (decoded : MUser.ofDictionary record = some user) :
    MUser.ofDictionary (record.patch (purchasedValues itemIds)) = some { user with purchasedItemIds := itemIds } := by
  simp only [ofDictionary, Option.bind_eq_bind, Option.bind_eq_some_iff, Option.some.injEq] at decoded ⊢
  obtain ⟨objectId, named, email, hasEmail, firstName, hasFirst, lastName, hasLast, fullAddress, hasAddress, onBoard,
    hasOnBoard, history, _, rfl⟩ := decoded
  exact ⟨objectId, named, email, hasEmail, firstName, hasFirst, lastName, hasLast, fullAddress, hasAddress, onBoard,
    hasOnBoard, itemIds, rfl, rfl⟩

end ShoppingApp
