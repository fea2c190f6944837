import ServerProbe.Text.AsciiCase
import ServerProbe.Text.Blank
import ServerProbe.Text.Numeral
import ServerProbe.Text.Utf8

/-! Requests as they are written to a connection.

Every request is a POST. The header fields have pairwise different names, and
`Content-Length` is never one of them: it is written last, from the length that
the request declares, which may differ from the length of its body.
-/

set_option autoImplicit false

namespace ServerProbe.Http

def userAgent : String := "xmlrpc-probe/0.1.0"

def xmlContentType : String := "text/xml"

/-- A name and a value; names are the same when they differ in ASCII case only. -/
abbrev Field := String × String

structure Request where
  path : String
  fields : List Field
  body : List UInt8
  /-- The length to announce instead of the length of the body. -/
  declared : Option Nat

namespace Request

def post (host : String) (port : Nat) (body : List UInt8) : Request where
  path := "/"
  fields := [
    ("User-Agent", userAgent),
    ("Host", host ++ ":" ++ toString port),
    ("Accept", "*/*"),
    ("Content-type", xmlContentType)]
  body := body
  declared := none

def withPath (path : String) (request : Request) : Request :=
  { request with path := path }

/-- Gives the first field of a name another value, or adds the field at the end. -/
def setField (name value : String) : List Field → List Field
  | [] => [(name, value)]
  | (known, old) :: rest =>
    if Text.sameIgnoringCase known name then (known, value) :: rest
    else (known, old) :: setField name value rest

-- Sets a field. A content length that is a number becomes the declared length, and one that is
-- not is ignored.
def withField (name value : String) (request : Request) : Request :=
  if Text.sameIgnoringCase name "content-length" then
    match Text.unsigned? 10 Text.wordLimit (Text.trim value.toList) with
    | some length => { request with declared := some length }
    | none => request
  else { request with fields := setField name value request.fields }

def withDeclaredLength (declared : Option Nat) (request : Request) : Request :=
  { request with declared := declared }

def bodyLength (request : Request) : Nat :=
  request.body.length

def declaredLength (request : Request) : Nat :=
  request.declared.getD request.bodyLength

def isMalformed (request : Request) : Bool :=
  request.declaredLength != request.bodyLength

def fieldLine (field : Field) : String :=
  field.1 ++ ": " ++ field.2 ++ "\r\n"

/-- The request line and the fields, up to the empty line that ends them. -/
def head (request : Request) : String :=
  "POST " ++ request.path ++ " HTTP/1.1\r\n" ++ String.join (request.fields.map fieldLine) ++
    "Content-Length: " ++ toString request.declaredLength ++ "\r\n\r\n"

def headBytes (request : Request) : List UInt8 :=
  Text.utf8 request.head

def bytes (request : Request) : List UInt8 :=
  request.headBytes ++ request.body

def length (request : Request) : Nat :=
  request.bytes.length

end Request

end ServerProbe.Http
