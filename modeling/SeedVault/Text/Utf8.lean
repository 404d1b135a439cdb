/-
Texts as bytes.
-/

namespace SeedVault.Text

/-- The UTF-8 form of a text. -/
def utf8 (text : String) : List UInt8 :=
  text.toList.flatMap String.utf8EncodeChar

/-- The text whose UTF-8 form is the given one, if there is one. -/
def ofUtf8? (bytes : List UInt8) : Option String :=
  String.fromUTF8? bytes.toByteArray

theorem ofUtf8?_utf8 (text : String) : ofUtf8? (utf8 text) = some text := by
  have encoded : (utf8 text).toByteArray = text.toByteArray := by
    conv => rhs; rw [← String.ofList_toList (s := text), String.toByteArray_ofList]
    rfl
  have valid : (utf8 text).toByteArray.IsValidUTF8 := encoded ▸ text.isValidUTF8
  rw [ofUtf8?, String.fromUTF8?, dif_pos valid]
  exact congrArg some (String.toByteArray_inj.mp encoded)

end SeedVault.Text
