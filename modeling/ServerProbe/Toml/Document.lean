import ServerProbe.Json.Reader
import ServerProbe.Text.Blank
import ServerProbe.Toml.Bare
import ServerProbe.Toml.Quoted
import ServerProbe.Toml.Table

/-! TOML documents.

A document is a list of lines, each with a header, an assignment or nothing, and
perhaps a comment. It is read into the members of one object. Nesting and the
number of lines are bounded by the length of the text, which serves as fuel.
-/

set_option autoImplicit false

namespace ServerProbe.Toml

def isBlank (c : Char) : Bool :=
  c == ' ' || c == '\t'

def skipBlanks (text : List Char) : List Char :=
  text.dropWhile isBlank

/-- Passes over a comment. It may not hold control characters. -/
def skipComment (text : List Char) : Option (List Char) :=
  match text with
  | '#' :: rest =>
    let comment := rest.takeWhile fun c => c != '\n'
    let shown := if comment.getLast? = some '\r' then comment.dropLast else comment
    if shown.any isControl then none else some (rest.drop shown.length)
  | _ => some text

-- Passes over blanks, a comment and a line end. At the end of the text there need be none.
def endLine (text : List Char) : Option (List Char) :=
  match skipComment (skipBlanks text) with
  | some [] => some []
  | some ('\n' :: rest) => some rest
  | some ('\r' :: '\n' :: rest) => some rest
  | _ => none

def skipLines : Nat → List Char → Option (List Char)
  | 0, text => some text
  | fuel + 1, text =>
    match skipComment (skipBlanks text) with
    | some ('\n' :: rest) => skipLines fuel rest
    | some ('\r' :: '\n' :: rest) => skipLines fuel rest
    | other => other

def isKeyChar (c : Char) : Bool :=
  c.isAlphanum || c == '-' || c == '_'

def readSimpleKey (text : List Char) : Option (String × List Char) :=
  match text with
  | '"' :: rest => (basic rest).map fun (key, rest) => (String.ofList key, rest)
  | '\'' :: rest => (literal rest).map fun (key, rest) => (String.ofList key, rest)
  | _ =>
    let key := text.takeWhile isKeyChar
    if key.isEmpty then none else some (String.ofList key, text.drop key.length)

def readKey : Nat → List Char → Option (List String × List Char)
  | 0, _ => none
  | fuel + 1, text => do
    let (key, rest) ← readSimpleKey (skipBlanks text)
    match skipBlanks rest with
    | '.' :: rest =>
      let (path, rest) ← readKey fuel rest
      return (key :: path, rest)
    | rest => return ([key], rest)

-- Cuts off a value without quotes. A blank may stand between a date and a time.
def cutBare (text : List Char) : List Char × List Char :=
  let isPart (c : Char) : Bool :=
    c.isAlphanum || c == '+' || c == '-' || c == '_' || c == '.' || c == ':'
  let first := text.takeWhile isPart
  let rest := text.drop first.length
  match rest with
  | ' ' :: digit :: _ =>
    if isDate first ∧ digit.isDigit then
      let time := (rest.drop 1).takeWhile isPart
      (first ++ ' ' :: time, rest.drop (time.length + 1))
    else (first, rest)
  | _ => (first, rest)

def maxDepth : Nat := 80

mutual

def readValue : Nat → Nat → List Char → Option (Json × List Char)
  | 0, _, _ => none
  | fuel + 1, depth, text =>
    match text with
    | '"' :: _ => (quoted? text).map fun (value, rest) => (.str (String.ofList value), rest)
    | '\'' :: _ => (quoted? text).map fun (value, rest) => (.str (String.ofList value), rest)
    | '[' :: rest =>
      if depth = 0 then none
      else (readItems fuel (depth - 1) rest).map fun (items, rest) => (.arr items, rest)
    | '\x7b' :: rest =>
      if depth = 0 then none
      else
        (readPairs fuel (depth - 1) [] rest).map fun (entries, rest) =>
          (.obj (entriesToMembers entries), rest)
    | _ =>
      let (value, rest) := cutBare text
      (bare? value).map fun value => (value, rest)

-- Reads the items of an array up to its closing bracket. A comma may follow the last one.
def readItems : Nat → Nat → List Char → Option (List Json × List Char)
  | 0, _, _ => none
  | fuel + 1, depth, text => do
    match ← skipLines text.length text with
    | ']' :: rest => return ([], rest)
    | text =>
      let (item, rest) ← readValue fuel depth text
      match ← skipLines rest.length rest with
      | ',' :: rest =>
        let (items, rest) ← readItems fuel depth rest
        return (item :: items, rest)
      | ']' :: rest => return ([item], rest)
      | _ => none

-- Reads the assignments of a table in braces. A comma may follow the last one.
def readPairs : Nat → Nat → Entries → List Char → Option (Entries × List Char)
  | 0, _, _, _ => none
  | fuel + 1, depth, entries, text => do
    match ← skipLines text.length text with
    | '\x7d' :: rest => return (entries, rest)
    | text =>
      let (key, rest) ← readKey text.length text
      match rest with
      | '=' :: rest =>
        let (value, rest) ← readValue fuel depth (skipBlanks rest)
        let entries ← assign value key entries
        match ← skipLines rest.length rest with
        | ',' :: rest => readPairs fuel depth entries rest
        | '\x7d' :: rest => return (entries, rest)
        | _ => none
      | _ => none

end

/-- What has been read: all entries, and the name of the table that is open. -/
structure Progress where
  entries : Entries
  current : List String

def splitLast? (path : List String) : Option (List String × String) :=
  path.getLast?.map fun last => (path.dropLast, last)

def readHeader (progress : Progress) (text : List Char) : Option (Progress × List Char) :=
  match text with
  | '[' :: rest => do
    let (path, rest) ← readKey rest.length rest
    let (outer, last) ← splitLast? path
    match rest with
    | ']' :: ']' :: rest =>
      let entries ← within (openNext last) outer progress.entries
      return (⟨entries, path⟩, rest)
    | _ => none
  | _ => do
    let (path, rest) ← readKey text.length text
    let (outer, last) ← splitLast? path
    match rest with
    | ']' :: rest =>
      let entries ← within (openTable last) outer progress.entries
      return (⟨entries, path⟩, rest)
    | _ => none

def readAssignment (progress : Progress) (text : List Char) : Option (Progress × List Char) := do
  let (key, rest) ← readKey text.length text
  match rest with
  | '=' :: rest =>
    let (value, rest) ← readValue rest.length maxDepth (skipBlanks rest)
    let entries ← within (assign value key) progress.current progress.entries
    return (⟨entries, progress.current⟩, rest)
  | _ => none

def readLines : Nat → Progress → List Char → Option Entries
  | 0, progress, text => if text.isEmpty then some progress.entries else none
  | fuel + 1, progress, text =>
    if text.isEmpty then some progress.entries
    else
      match endLine text with
      | some rest => readLines fuel progress rest
      | none => do
        let (progress, rest) ←
          match skipBlanks text with
          | '[' :: rest => readHeader progress rest
          | text => readAssignment progress text
        let rest ← endLine rest
        readLines fuel progress rest

/-- Reads a document, which may begin with a byte order mark. -/
def ofText? (text : String) : Option Json.Members :=
  let chars :=
    match text.toList with
    | '\ufeff' :: rest => rest
    | chars => chars
  (readLines (chars.length + 1) ⟨[], []⟩ chars).map entriesToMembers

end ServerProbe.Toml
