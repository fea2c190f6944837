import ServerProbe.Text.Numeral
import ServerProbe.Url.Basic
import ServerProbe.Url.Path

/-! Reading addresses.

An address needs a scheme. For the well-known schemes any number of slashes may
stand before the authority, which must name a host; other schemes need exactly
two slashes for an authority. Tabs and line ends are dropped anywhere, and
control characters and spaces at both ends.
-/

set_option autoImplicit false

namespace ServerProbe.Url

def isSchemeChar (c : Char) : Bool :=
  (c.toNat < 128 && c.isAlphanum) || c == '+' || c == '-' || c == '.'

def splitScheme? (text : List Char) : Option (String × List Char) :=
  let name := text.takeWhile isSchemeChar
  match name, text.drop name.length with
  | first :: _, ':' :: rest =>
    if first.isAlpha then some (String.ofList (name.map Char.toLower), rest) else none
  | _, _ => none

/-- The text of an address without the characters that do not count. -/
def cleaned (text : List Char) : List Char :=
  let isOuter (c : Char) : Bool := c.toNat ≤ 0x20
  let inner := ((text.dropWhile isOuter).reverse.dropWhile isOuter).reverse
  inner.filter fun c => c != '\t' && c != '\n' && c != '\r'

structure Credentials where
  username : String
  password : String
  rest : List Char

/-- Splits off what stands before the last `@` of an authority. -/
def readCredentials (kind : SchemeKind) (text : List Char) : Except Problem Credentials :=
  let endsAuthority (c : Char) : Bool := kind.isSlash c || endsPath c
  let authority := text.takeWhile fun c => !endsAuthority c
  let tail := (authority.reverse.takeWhile (· != '@')).reverse
  if tail.length = authority.length then .ok ⟨"", "", text⟩
  else
    let users := authority.take (authority.length - tail.length - 1)
    let rest := text.drop (users.length + 1)
    if users.isEmpty ∧ ((rest.head?.map endsAuthority).getD false) then .error .emptyHost
    else
      let username := users.takeWhile (· != ':')
      let password := users.drop (username.length + 1)
      .ok ⟨encode inUserSet username, encode inUserSet password, rest⟩

/-- Whether a character ends the host, and the state of brackets after it. -/
def splitHost (kind : SchemeKind) : Bool → List Char → List Char × List Char
  | _, [] => ([], [])
  | inBrackets, c :: rest =>
    if (c = ':' ∧ ¬inBrackets) ∨ kind.isSlash c ∨ endsPath c then ([], c :: rest)
    else
      let next := if c = '[' then true else if c = ']' then false else inBrackets
      let (host, after) := splitHost kind next rest
      (c :: host, after)

-- Reads a port up to the end of the authority. The usual port of the scheme is left out.
def readPort (scheme : String) (text : List Char) : Except Problem (Option Nat × List Char) :=
  let digits := text.takeWhile Char.isDigit
  let rest := text.drop digits.length
  let value := digits.foldl (fun value c => value * 10 + (c.toNat - '0'.toNat)) 0
  let ended : Bool :=
    match rest with
    | [] => true
    | c :: _ => c == '/' || c == '\\' || endsPath c
  if Text.shortLimit ≤ value ∨ ¬ended then .error .invalidPort
  else if digits.isEmpty ∨ usualPort? scheme = some value then .ok (none, rest)
  else .ok (some value, rest)

def readHost (kind : SchemeKind) (text : List Char) : Except Problem Host :=
  if kind = .wellKnown then
    if text.isEmpty then .error .emptyHost else Host.ofText text
  else Host.ofOpaqueText text

def readTail (kind : SchemeKind) (text : List Char) : Option String × Option String :=
  let inSet := if kind = .other then inQuerySet else inSpecialQuerySet
  let fragmentOf : List Char → Option String
    | '#' :: fragment => some (encode inFragmentSet fragment)
    | _ => none
  match text with
  | '?' :: rest =>
    let query := rest.takeWhile (· != '#')
    (some (encode inSet query), fragmentOf (rest.drop query.length))
  | _ => (none, fragmentOf text)

def splitPath (text : List Char) : List Char × List Char :=
  let path := text.takeWhile fun c => !endsPath c
  (path, text.drop path.length)

def pathAfterAuthority (kind : SchemeKind) (path : List Char) : String :=
  match path with
  | [] => if kind = .other then "" else "/"
  | c :: rest => pathAfterSlash kind (if kind.isSlash c then rest else path)

def readAuthority (scheme : String) (kind : SchemeKind) (text : List Char) :
    Except Problem Url := do
  let credentials ← readCredentials kind text
  let (hostText, rest) := splitHost kind false credentials.rest
  let host ← readHost kind hostText
  let isEmpty : Bool := host == .domain ""
  if isEmpty ∧ rest.head? = some ':' then .error .emptyHost
  else if isEmpty ∧ ¬(credentials.username.isEmpty ∧ credentials.password.isEmpty) then
    .error .emptyHost
  else
    let (port, rest) ←
      match rest with
      | ':' :: rest => readPort scheme rest
      | _ => .ok (none, rest)
    let (path, tail) := splitPath rest
    let (query, fragment) := readTail kind tail
    .ok {
      scheme, port, query, fragment
      hasAuthority := true
      username := credentials.username
      password := credentials.password
      host := if isEmpty then none else some host
      path := pathAfterAuthority kind path }

def withoutHost (scheme : String) (kind : SchemeKind) (hasAuthority : Bool) (path : String)
    (tail : List Char) : Url :=
  let (query, fragment) := readTail kind tail
  { scheme, hasAuthority, path, query, fragment
    username := "", password := "", host := none, port := none }

-- Reads what follows the scheme of a file. The host `localhost` is the same as none, and a path
-- with a drive letter has no host.
def readFile (text : List Char) : Except Problem Url :=
  let (location, tail) := splitPath text
  let isSlash := SchemeKind.file.isSlash
  match location with
  | first :: second :: rest =>
    if isSlash first ∧ isSlash second then do
      let hostText := rest.takeWhile fun c => !isSlash c
      if isDriveLetter hostText then
        .ok (withoutHost "file" .file true (filePath rest) tail)
      else
        let host ←
          if hostText.isEmpty then .ok none
          else (Host.ofText hostText).map fun host =>
            if host = .domain "localhost" then none else some host
        let path := filePath (rest.drop (hostText.length + 1))
        let hasDrive := isDriveLetter (((path.toList.drop 1).takeWhile (· != '/')))
        let url := withoutHost "file" .file true path tail
        .ok { url with host := if hasDrive then none else host }
    else if isSlash first then .ok (withoutHost "file" .file true (filePath (second :: rest)) tail)
    else .ok (withoutHost "file" .file true (filePath location) tail)
  | [first] =>
    .ok (withoutHost "file" .file true (filePath (if isSlash first then [] else [first])) tail)
  | [] => .ok (withoutHost "file" .file true "/" tail)

def readOther (scheme : String) (text : List Char) : Except Problem Url :=
  match text with
  | '/' :: '/' :: rest => readAuthority scheme .other rest
  | _ =>
    let (path, tail) := splitPath text
    match path with
    | '/' :: rest => .ok (withoutHost scheme .other false (pathAfterSlash .other rest) tail)
    | _ => .ok (withoutHost scheme .other false (encode isControl path) tail)

def ofText (text : String) : Except Problem Url :=
  match splitScheme? (cleaned text.toList) with
  | none => .error .relativeWithoutBase
  | some (scheme, rest) =>
    match SchemeKind.ofScheme scheme with
    | .file => readFile rest
    | .wellKnown => readAuthority scheme .wellKnown (rest.dropWhile SchemeKind.wellKnown.isSlash)
    | .other => readOther scheme rest

end ServerProbe.Url
