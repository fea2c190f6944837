import ServerProbe.Url.Host

/-! Addresses of resources, in parts.

The parts are stored as they are written, already encoded. An address without
authority may have a path that does not start with a slash.
-/

set_option autoImplicit false

namespace ServerProbe

structure Url where
  scheme : String
  /-- Whether two slashes and an authority, perhaps an empty one, follow the scheme. -/
  hasAuthority : Bool
  username : String
  password : String
  host : Option Url.Host
  /-- The port, unless it is the usual one of the scheme. -/
  port : Option Nat
  path : String
  query : Option String
  fragment : Option String

namespace Url

def usualPort? (scheme : String) : Option Nat :=
  if scheme = "http" ∨ scheme = "ws" then some 80
  else if scheme = "https" ∨ scheme = "wss" then some 443
  else if scheme = "ftp" then some 21
  else none

def effectivePort? (url : Url) : Option Nat :=
  url.port.or (usualPort? url.scheme)

def credentialsText (url : Url) : String :=
  if url.username.isEmpty ∧ url.password.isEmpty then ""
  else url.username ++ (if url.password.isEmpty then "" else ":" ++ url.password) ++ "@"

def hostText (url : Url) : String :=
  match url.host with
  | some host => host.text
  | none => ""

def hostAndPort (url : Url) : String :=
  match url.port with
  | some port => url.hostText ++ ":" ++ toString port
  | none => url.hostText

/-- The path, and the query behind a question mark if there is one, even an empty one. -/
def pathAndQuery (url : Url) : String :=
  match url.query with
  | some query => url.path ++ "?" ++ query
  | none => url.path

-- The address as text. A path that starts with two slashes is kept apart from the scheme.
def text (url : Url) : String :=
  let authority :=
    if url.hasAuthority then "//" ++ url.credentialsText ++ url.hostAndPort
    else if url.path.startsWith "//" then "/."
    else ""
  let fragment :=
    match url.fragment with
    | some fragment => "#" ++ fragment
    | none => ""
  url.scheme ++ ":" ++ authority ++ url.pathAndQuery ++ fragment

def withoutCredentials (url : Url) : Url :=
  { url with username := "", password := "" }

end Url

end ServerProbe
