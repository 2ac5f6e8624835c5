import ShoppingApp.Model.Dictionary

namespace ShoppingApp

/-- The picture of a category is kept as the asset name that it is loaded from. -/
structure Category where
  name : String
  id : String
  imageName : Option String
  image : String
  deriving DecidableEq, Repr

/-- This is the initializer `Category(_name:_imageName:)`. -/
def Category.new (name imageName : String) : Category where
  name := name
  id := ""
  imageName := some imageName
  image := imageName

/-- This is the initializer `Category(_dictionary:)`, whose forced casts can trap and which sets no image name. -/
def Category.ofDictionary (dictionary : Dictionary) : Option Category := do
  let id ← dictionary.read Value.asString .objectId
  let name ← dictionary.read Value.asString .name
  some { name, id, imageName := none, image := (dictionary.read Value.asString .imageName).getD "" }

def categoryDictionaryFrom (category : Category) : Dictionary :=
  Record.ofArrays
    [.string category.id, .string category.name, .string (category.imageName.getD "")]
    [.objectId, .name, .imageName]

/-- The decoded category has the identifier, the name, and the picture of the encoded one. -/
theorem Category.ofDictionary_categoryDictionaryFrom (category : Category) :
    Category.ofDictionary (categoryDictionaryFrom category) =
      some { name := category.name, id := category.id, imageName := none,
             image := category.imageName.getD "" } := rfl

end ShoppingApp
