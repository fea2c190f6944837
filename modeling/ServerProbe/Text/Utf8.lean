/-! Text as the bytes of its UTF-8 form. -/

set_option autoImplicit false

namespace ServerProbe.Text

def utf8 (text : String) : List UInt8 :=
  text.toByteArray.data.toList

def ofUtf8? (bytes : List UInt8) : Option String :=
  String.fromUTF8? ⟨bytes.toArray⟩

theorem ofUtf8?_utf8 (text : String) : ofUtf8? (utf8 text) = some text := by
  simp [ofUtf8?, utf8, String.fromUTF8?, String.fromUTF8, text.isValidUTF8]

end ServerProbe.Text
