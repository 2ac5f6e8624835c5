import ShoppingApp.Library.Codec
import ShoppingApp.Model.Basket
import ShoppingApp.Model.Category
import ShoppingApp.Model.Item
import ShoppingApp.Model.MUser

namespace ShoppingApp

/-- The full name of the user is the join of the two names. -/
def MUser.Joined (user : MUser) : Prop := user.fullName = user.firstName ++ " " ++ user.lastName

/-- The decoder computes the full name again. -/
theorem MUser.ofDictionary_userDictionaryFrom (user : MUser) :
    MUser.ofDictionary (userDictionaryFrom user) =
      some { user with
        fullName := user.firstName ++ " " ++ user.lastName
        fullAddress := some (user.fullAddress.getD "") } := rfl

/-- The decoder of an item reads every dictionary. -/
def itemCodec : Codec Item Dictionary where
  domain := Set.univ
  encode := itemDictionaryFrom
  decode dictionary := some (Item.ofDictionary dictionary)
  normal item :=
    { id := some (item.id.getD ""), categoryId := some (item.categoryId.getD ""),
      name := some (item.name.getD ""), description := some (item.description.getD ""),
      price := some (item.price.getD .zero), imageLinks := some (item.imageLinks.getD []) }
  decode_encode item _ := congrArg some (Item.ofDictionary_itemDictionaryFrom item)
  encode_normal _ := rfl

/-- The decoder of a basket reads every dictionary. -/
def basketCodec : Codec Basket Dictionary where
  domain := Set.univ
  encode := basketDictionaryFrom
  decode dictionary := some (Basket.ofDictionary dictionary)
  normal basket :=
    { id := some (basket.id.getD ""), ownerId := some (basket.ownerId.getD ""),
      itemIds := some (basket.itemIds.getD []) }
  decode_encode basket _ := congrArg some (Basket.ofDictionary_basketDictionaryFrom basket)
  encode_normal _ := rfl

/-- The decoder of a user keeps the users whose full name is joined. -/
def userCodec : Codec MUser Dictionary where
  domain := {user | user.Joined}
  encode := userDictionaryFrom
  decode := MUser.ofDictionary
  normal user := { user with fullAddress := some (user.fullAddress.getD "") }
  decode_encode user joined := by
    have whole : user.fullName = user.firstName ++ " " ++ user.lastName := joined
    rw [MUser.ofDictionary_userDictionaryFrom, ← whole]
  encode_normal _ := rfl

/-- The decoded record is the encoded one with the defaults of the encoder, and it is encoded to the same dictionary
again. -/
theorem records_survive_dictionary :
    (∀ item : Item, Item.ofDictionary (itemDictionaryFrom item) =
      { id := some (item.id.getD ""), categoryId := some (item.categoryId.getD ""),
        name := some (item.name.getD ""), description := some (item.description.getD ""),
        price := some (item.price.getD .zero), imageLinks := some (item.imageLinks.getD []) }) ∧
    (∀ basket : Basket, Basket.ofDictionary (basketDictionaryFrom basket) =
      { id := some (basket.id.getD ""), ownerId := some (basket.ownerId.getD ""),
        itemIds := some (basket.itemIds.getD []) }) ∧
    (∀ user : MUser, user.Joined → MUser.ofDictionary (userDictionaryFrom user) =
      some { user with fullAddress := some (user.fullAddress.getD "") }) ∧
    (∀ dictionary ∈ Set.range itemDictionaryFrom, itemDictionaryFrom (Item.ofDictionary dictionary) = dictionary) ∧
    (∀ dictionary ∈ Set.range basketDictionaryFrom,
      basketDictionaryFrom (Basket.ofDictionary dictionary) = dictionary) ∧
    ∀ dictionary ∈ userDictionaryFrom '' {user | user.Joined}, ∃ user,
      MUser.ofDictionary dictionary = some user ∧ userDictionaryFrom user = dictionary := by
  refine ⟨Item.ofDictionary_itemDictionaryFrom, Basket.ofDictionary_basketDictionaryFrom, userCodec.decode_encode,
    fun dictionary image => ?_, fun dictionary image => ?_, fun dictionary image => ?_⟩
  · rw [← Set.image_univ] at image
    exact Option.some.inj (itemCodec.encode_decode image)
  · rw [← Set.image_univ] at image
    exact Option.some.inj (basketCodec.encode_decode image)
  · exact Option.map_eq_some_iff.mp (userCodec.encode_decode image)

/-- A new account has a joined name and an empty address. -/
theorem records_survive_dictionary_new :
    MUser.ofDictionary (userDictionaryFrom (MUser.new "u" "u@mail" "Ada" "Byron")) =
        some (MUser.new "u" "u@mail" "Ada" "Byron") ∧
      ∃ user, MUser.ofDictionary (userDictionaryFrom (MUser.new "u" "u@mail" "Ada" "Byron")) = some user ∧
        userDictionaryFrom user = userDictionaryFrom (MUser.new "u" "u@mail" "Ada" "Byron") := by
  obtain ⟨_, _, users, _, _, again⟩ := records_survive_dictionary
  have joined : (MUser.new "u" "u@mail" "Ada" "Byron").Joined := rfl
  exact ⟨users _ joined, again _ ⟨_, joined, rfl⟩⟩

/-- A saved category keeps its dictionary and its picture when it is downloaded and saved again exactly if its image
name is empty. -/
theorem category_resaved_iff (category : Category) (uuid : String) :
    (∃ decoded, Category.ofDictionary (categoryDictionaryFrom { category with id := uuid }) = some decoded ∧
      (∀ key ∈ [Key.objectId, .name, .imageName],
        categoryDictionaryFrom decoded key = categoryDictionaryFrom { category with id := uuid } key) ∧
      ∀ again, (Category.ofDictionary (categoryDictionaryFrom { decoded with id := again })).map Category.image =
        some decoded.image) ↔ category.imageName.getD "" = "" := by
  rw [Category.ofDictionary_categoryDictionaryFrom]
  constructor
  · rintro ⟨decoded, same, fields, _⟩
    obtain rfl := Option.some.inj same
    have imageName := fields .imageName (by decide)
    exact (Value.string.inj (Option.some.inj imageName)).symm
  · intro empty
    refine ⟨_, rfl, fun key member => ?_, fun again => ?_⟩
    · simp only [categoryDictionaryFrom, empty, Option.getD_none]
    · rw [Category.ofDictionary_categoryDictionaryFrom, empty]
      rfl

/-- The downloaded category forgets the image name that its picture was loaded from. -/
theorem resaved_category_loses_picture :
    ∃ decoded, Category.ofDictionary (categoryDictionaryFrom { Category.new "Footwear" "footWaer" with id := "c" }) =
        some decoded ∧ decoded.image = "footWaer" ∧
      categoryDictionaryFrom { Category.new "Footwear" "footWaer" with id := "c" } .imageName =
        some (.string "footWaer") ∧
      categoryDictionaryFrom decoded .imageName = some (.string "") ∧
      (Category.ofDictionary (categoryDictionaryFrom decoded)).map Category.image = some "" :=
  ⟨_, rfl, rfl, rfl, rfl, rfl⟩

end ShoppingApp
