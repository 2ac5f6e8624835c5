import ShoppingApp.Library.Record

namespace ShoppingApp

/-- These are the field names that the constants file declares for the Firestore documents. -/
inductive Key where
  | name | imageName | objectId
  | categoryId | description | price | imageLinks
  | ownerId | itemIds
  | email | firstName | lastName | fullAddress | fullName | onboard | purchasedItemIds
  deriving DecidableEq, Repr

/-- Every field name is in this list. -/
def Key.all : List Key :=
  [.name, .imageName, .objectId, .categoryId, .description, .price, .imageLinks, .ownerId, .itemIds,
    .email, .firstName, .lastName, .fullAddress, .fullName, .onboard, .purchasedItemIds]

theorem Key.mem_all (key : Key) : key ∈ all := by cases key <;> decide

/-- A property of every field can be checked field by field. -/
instance (property : Key → Prop) [DecidablePred property] : Decidable (∀ key, property key) :=
  decidable_of_iff (∀ key ∈ Key.all, property key)
    ⟨fun all key => all key key.mem_all, fun all key _ => all key⟩

/-- A `Double` is kept as its IEEE 754 bit pattern. -/
structure Double where
  bits : UInt64
  deriving DecidableEq, Repr

def Double.zero : Double := ⟨0⟩

/-- The documents of this application hold strings, doubles, booleans, and string arrays. -/
inductive Value where
  | string (text : String)
  | number (double : Double)
  | bool (flag : Bool)
  | strings (list : List String)
  deriving DecidableEq, Repr

/-- This is the conditional cast `as? String`. -/
def Value.asString : Value → Option String
  | .string text => some text
  | _ => none

/-- This is the conditional cast `as? Double`. -/
def Value.asDouble : Value → Option Double
  | .number double => some double
  | _ => none

/-- This is the conditional cast `as? Bool`. -/
def Value.asBool : Value → Option Bool
  | .bool flag => some flag
  | _ => none

/-- This is the conditional cast `as? [String]`. -/
def Value.asStrings : Value → Option (List String)
  | .strings list => some list
  | _ => none

/-- A dictionary maps the field names to the stored values. -/
abbrev Dictionary := Record Key Value

/-- The conditional read gives nil for an absent field and for a failed cast. -/
def Dictionary.read {A : Type} (dictionary : Dictionary) (cast : Value → Option A) (key : Key) :
    Option A := (dictionary key).bind cast

/-- The forced read gives the default for an absent field and traps on a failed cast. -/
def Dictionary.force {A : Type} (dictionary : Dictionary) (cast : Value → Option A) (key : Key)
    (default : A) : Option A :=
  match dictionary key with
  | none => some default
  | some value => cast value

/-- The purchase history of a user document is empty when the field is absent or no string array. -/
def Dictionary.purchasedItemIds (dictionary : Dictionary) : List String :=
  (dictionary.read Value.asStrings .purchasedItemIds).getD []

/-- The items of a basket document are empty when the field is absent or no string array. -/
def Dictionary.itemIds (dictionary : Dictionary) : List String :=
  (dictionary.read Value.asStrings .itemIds).getD []

end ShoppingApp
