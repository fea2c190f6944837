import ServerProbe.Http.Response
import ServerProbe.Proofs.Text.Cutting
import ServerProbe.Proofs.Text.Numerals

/-! Responses as servers write them.

Every part carries what makes it readable: names hold no colon, nothing that
stands on a line holds a line feed, and each chunk announces the size it has.
Each line may end in either way.
-/

set_option autoImplicit false

namespace ServerProbe.Http

inductive LineEnd where
  | crlf
  | lf
  deriving DecidableEq

def LineEnd.text : LineEnd → String
  | .crlf => "\r\n"
  | .lf => "\n"

structure StatusLine where
  version : String
  status : UInt16
  reason : String
  ending : LineEnd
  solid : Text.IsSolid version.toList
  oneLine : '\n' ∉ reason.toList

def StatusLine.text (line : StatusLine) : String :=
  "HTTP/" ++ line.version ++ " " ++ toString line.status.toNat ++ " " ++ line.reason ++
    line.ending.text

structure FieldLine where
  name : String
  value : String
  /-- What stands between the colon and the value. -/
  gap : String
  ending : LineEnd
  nameTrimmed : Text.IsTrimmed name.toList
  noColon : ':' ∉ name.toList
  valueTrimmed : Text.IsTrimmed value.toList
  blank : Text.IsGap gap.toList
  oneLine : '\n' ∉ name.toList ∧ '\n' ∉ gap.toList ∧ '\n' ∉ value.toList

namespace FieldLine

def text (line : FieldLine) : String :=
  line.name ++ ":" ++ line.gap ++ line.value ++ line.ending.text

def field (line : FieldLine) : String × String :=
  (line.name, line.value)

end FieldLine

/-- A head up to its blank line. -/
structure HeadText where
  statusLine : StatusLine
  fieldLines : List FieldLine
  ending : LineEnd

namespace HeadText

def bytes (written : HeadText) : List UInt8 :=
  Text.utf8 written.statusLine.text ++
    written.fieldLines.flatMap (fun line => Text.utf8 line.text) ++ Text.utf8 written.ending.text

def fields (written : HeadText) : List (String × String) :=
  written.fieldLines.map FieldLine.field

def head (written : HeadText) : Head :=
  ⟨written.statusLine.status, written.fields⟩

end HeadText

/-- The line in front of a chunk of some size. -/
structure SizeLine (size : Nat) where
  digits : List Char
  /-- What follows the size after a semicolon. -/
  extension : Option String
  ending : LineEnd
  spells : Text.SpellsHex digits size
  oneLine : ∀ text ∈ extension, '\n' ∉ text.toList

def SizeLine.text {size : Nat} (line : SizeLine size) : String :=
  String.ofList line.digits ++ (line.extension.elim "" fun text => ";" ++ text) ++ line.ending.text

structure Chunk where
  data : List UInt8
  sizeLine : SizeLine data.length
  ending : LineEnd
  notEmpty : data ≠ []

def Chunk.bytes (chunk : Chunk) : List UInt8 :=
  Text.utf8 chunk.sizeLine.text ++ chunk.data ++ Text.utf8 chunk.ending.text

structure Trailer where
  text : String
  ending : LineEnd
  notBlank : Text.isBlankText text = false
  oneLine : '\n' ∉ text.toList

/-- A body in chunks, up to the blank line after its trailers. -/
structure ChunkedText where
  chunks : List Chunk
  last : SizeLine 0
  trailers : List Trailer
  ending : LineEnd

namespace ChunkedText

def content (written : ChunkedText) : List UInt8 :=
  written.chunks.flatMap Chunk.data

def lastBytes (written : ChunkedText) : List UInt8 :=
  Text.utf8 written.last.text ++
    written.trailers.flatMap (fun trailer => Text.utf8 (trailer.text ++ trailer.ending.text)) ++
    Text.utf8 written.ending.text

def bytes (written : ChunkedText) : List UInt8 :=
  written.chunks.flatMap Chunk.bytes ++ written.lastBytes

end ChunkedText

/-- The value is that of the first field of a name, whose letters may have either case. -/
def IsFirst (name value : String) (fields : List (String × String)) : Prop :=
  ∃ spelled before after, fields = before ++ (spelled, value) :: after ∧
    Text.sameIgnoringCase spelled name = true ∧
    ∀ field ∈ before, Text.sameIgnoringCase field.1 name = false

def IsChunked (fields : List (String × String)) : Prop :=
  ∃ value, IsFirst "Transfer-Encoding" value fields ∧
    "chunked".toList <:+: value.toList.map Char.toLower

/-- A body in the form that the fields of its head announce. What it holds fits in memory. -/
inductive BodyText (fields : List (String × String)) where
  | chunked (written : ChunkedText) (announced : IsChunked fields)
      (fits : written.content.length < sizeLimit)
  | sized (content : List UInt8) (noChunks : ¬IsChunked fields)
      (announced : IsFirst "Content-Length" (toString content.length) fields)
      (fits : content.length < sizeLimit)
  | untilEnd (content : List UInt8)
      (noCoding : ∀ field ∈ fields, Text.sameIgnoringCase field.1 "Transfer-Encoding" = false)
      (noLength : ∀ field ∈ fields, Text.sameIgnoringCase field.1 "Content-Length" = false)

namespace BodyText

variable {fields : List (String × String)}

def content : BodyText fields → List UInt8
  | .chunked written _ _ => written.content
  | .sized content _ _ _ => content
  | .untilEnd content _ _ => content

def bytes : BodyText fields → List UInt8
  | .chunked written _ _ => written.bytes
  | .sized content _ _ _ => content
  | .untilEnd content _ _ => content

/-- Whether the end of the body can be told without the end of the stream. -/
def isDelimited : BodyText fields → Bool
  | .untilEnd _ _ _ => false
  | _ => true

end BodyText

end ServerProbe.Http
