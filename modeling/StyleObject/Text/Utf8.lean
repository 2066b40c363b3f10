import StyleObject.Text.Basic

/-!
# UTF-8

Texts as bytes. Every text has its bytes, and bytes that are no text are refused.
-/
namespace StyleObject.Text

/-- The bytes of a text. -/
def encode (t : Text) : ByteArray := (String.ofList t).toUTF8

/-- The text of some bytes, if they are the bytes of a text. -/
def decode? (bytes : ByteArray) : Option Text := (String.fromUTF8? bytes).map String.toList

theorem decode?_encode (t : Text) : decode? (encode t) = some t := by
  have h : (encode t).IsValidUTF8 := (String.ofList t).isValidUTF8
  have e : String.fromUTF8 (encode t) h = String.ofList t := rfl
  rw [decode?, String.fromUTF8?, dif_pos h, e, Option.map_some, String.toList_ofList]

theorem encode_append (s t : Text) : encode (s ++ t) = encode s ++ encode t := by
  rw [encode, String.ofList_append]
  exact String.toByteArray_append

end StyleObject.Text
