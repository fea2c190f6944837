import ServerProbe.Text.Blank
import ServerProbe.Url.Percent

/-! Paths of addresses.

A path is cut into segments at slashes. A segment of one dot is dropped, and one
of two dots removes the segment before it; a dot may be percent-encoded.
-/

set_option autoImplicit false

namespace ServerProbe.Url

inductive SchemeKind where
  | file
  | wellKnown
  | other
  deriving DecidableEq

def SchemeKind.ofScheme (scheme : String) : SchemeKind :=
  if scheme = "file" then .file
  else if ["http", "https", "ws", "wss", "ftp"].contains scheme then .wellKnown
  else .other

/-- A backslash means a slash where the scheme is known. -/
def SchemeKind.isSlash (kind : SchemeKind) (c : Char) : Bool :=
  c == '/' || (c == '\\' && kind != .other)

def endsPath (c : Char) : Bool :=
  c == '?' || c == '#'

def dots (segment : List Char) : List Char :=
  match segment with
  | '%' :: '2' :: e :: rest => if e = 'e' ∨ e = 'E' then '.' :: dots rest else segment
  | '.' :: rest => '.' :: dots rest
  | _ => segment

def isDriveLetter (segment : List Char) : Bool :=
  match segment with
  | [letter, mark] => letter.isAlpha && (mark == ':' || mark == '|')
  | _ => false

/-- The segments of a path as read so far, latest first. -/
abbrev Segments := List String

/-- Whether the only segment names a drive, which nothing removes. -/
def isDriveOnly (kind : SchemeKind) (segments : Segments) : Bool :=
  match segments with
  | [segment] => kind == .file && isDriveLetter segment.toList && segment.endsWith ":"
  | _ => false

def removeLast (kind : SchemeKind) (segments : Segments) : Segments :=
  if isDriveOnly kind segments then segments else segments.drop 1

-- An encoded segment. The first segment of a file path may start with a drive letter, which
-- becomes a segment of its own.
def pushSegment (kind : SchemeKind) (segments : Segments) (segment : List Char) : Segments :=
  if kind = .file ∧ segments.isEmpty then
    if isDriveLetter segment then String.ofList (segment.take 1 ++ [':']) :: segments
    else if isDriveLetter (segment.take 2) ∧ (segment.drop 1).head? = some ':' then
      encode inPathSet (segment.drop 2) :: String.ofList (segment.take 2) :: segments
    else encode inPathSet segment :: segments
  else encode inPathSet segment :: segments

-- Adds the segments that stand between slashes. Dots at the end leave an empty last segment.
def addSegments (kind : SchemeKind) (segments : Segments) : List (List Char) → Segments
  | [] => segments
  | segment :: rest =>
    let known := dots segment
    let next :=
      if known = ['.', '.'] then
        let shorter := removeLast kind segments
        if rest.isEmpty then "" :: shorter else shorter
      else if known = ['.'] then
        if rest.isEmpty then "" :: segments else segments
      else pushSegment kind segments segment
    addSegments kind next rest

def cutAtSlashes (kind : SchemeKind) : List Char → List (List Char)
  | [] => [[]]
  | c :: rest =>
    match cutAtSlashes kind rest with
    | first :: others =>
      if kind.isSlash c then [] :: first :: others else (c :: first) :: others
    | [] => [[c]]

def pathAfterSlash (kind : SchemeKind) (text : List Char) : String :=
  let segments := (addSegments kind [] (cutAtSlashes kind text)).reverse
  String.join (segments.map ("/" ++ ·))

/-- The path of a file: slashes at its start count as one. -/
def filePath (text : List Char) : String :=
  "/" ++ String.ofList ((pathAfterSlash .file text).toList.dropWhile (· == '/'))

end ServerProbe.Url
