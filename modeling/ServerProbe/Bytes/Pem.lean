import ServerProbe.Text.Blank
import ServerProbe.Bytes.Base64

/-! Certificates in their textual armour.

A block stands between a line that begins with `-----BEGIN` and one that begins
with `-----END`; in between are the bytes in base 64.
-/

set_option autoImplicit false

namespace ServerProbe.Bytes

def certificateLabels : List String :=
  ["CERTIFICATE", "X509 CERTIFICATE", "TRUSTED CERTIFICATE"]

def beginLine (label : String) : String := "-----BEGIN " ++ label ++ "-----"

/-- The lines of the first certificate in a text, without its armour. -/
def certificateLines (lines : List String) : Option (List String) :=
  let opens (line : String) : Bool := certificateLabels.any fun label => line == beginLine label
  match lines.dropWhile fun line => !opens line with
  | [] => none
  | _ :: rest =>
    let body := rest.takeWhile fun line => !line.startsWith "-----END "
    if body.length < rest.length then some body else none

def certificateOfPem? (text : String) : Option (List UInt8) := do
  let lines := (Text.fields '\n' text.toList).map fun line => String.ofList (Text.trimEnd line)
  let body ← certificateLines lines
  ofBase64Chars? (body.flatMap String.toList)

end ServerProbe.Bytes
