import ServerProbe.Text.Utf8
import ServerProbe.Url.DomainName.Label

/-! Domain names in the ASCII form in which they are looked up.

The characters of a name are mapped and composed, and the name is cut into
labels at dots. When anything in it is written from right to left, the
directions of each label have to agree.
-/

set_option autoImplicit false

namespace ServerProbe.Url.DomainName

def isForbidden (c : Char) : Bool :=
  c.toNat ≤ 0x20 || c.toNat = 0x7F || "%#/:<>?@[\\]^|".toList.contains c

def join (labels : List (List Char)) : List Char :=
  ['.'].intercalate labels

def toAscii? (name : List UInt8) : Option (List Char) := do
  let text ← Text.ofUtf8? name
  let mapped ← text.toList.mapM mapped?
  let labels ← (Text.fields '.' (Text.composed mapped.flatten)).mapM Label.ofMapped?
  let ascii := join (labels.map Label.ascii)
  if ascii.any isForbidden then none
  else if labels.any Label.hasRightToLeft && !labels.all Label.keepsDirection then none
  else some ascii

end ServerProbe.Url.DomainName
