import Mathlib.Data.Set.Image

/-! A codec with defaults writes every value of its domain and reads a normal form of it back. -/

/-- The normal form has the same encoding as the value, and the decoder reads it. -/
structure Codec (Plain Encoded : Type*) where
  domain : Set Plain
  encode : Plain → Encoded
  decode : Encoded → Option Plain
  normal : Plain → Plain
  decode_encode : ∀ plain ∈ domain, decode (encode plain) = some (normal plain)
  encode_normal : ∀ plain, encode (normal plain) = encode plain

namespace Codec

variable {Plain Encoded : Type*} (codec : Codec Plain Encoded)

/-- The encodings of the domain are read and written back unchanged. -/
theorem encode_decode {encoded : Encoded} (image : encoded ∈ codec.encode '' codec.domain) :
    (codec.decode encoded).map codec.encode = some encoded := by
  obtain ⟨plain, inside, rfl⟩ := image
  rw [codec.decode_encode plain inside, Option.map_some, codec.encode_normal]

end Codec
