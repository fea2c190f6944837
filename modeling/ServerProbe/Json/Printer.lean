import ServerProbe.Json.Basic
import ServerProbe.Number.Notation

/-! The text of JSON documents.

The indented form has one item or member a line and two spaces for each level.
Empty arrays and objects stay on one line. Within strings only the quote, the
backslash and the control characters are escaped.
-/

set_option autoImplicit false

namespace ServerProbe.Json

def escapedChar (c : Char) : List Char :=
  if c = '"' then ['\\', '"']
  else if c = '\\' then ['\\', '\\']
  else if c = '\n' then ['\\', 'n']
  else if c = '\r' then ['\\', 'r']
  else if c = '\t' then ['\\', 't']
  else if c = '\x08' then ['\\', 'b']
  else if c = '\x0c' then ['\\', 'f']
  else if c.toNat < 32 then
    ['\\', 'u', '0', '0', Text.hexDigit (c.toNat / 16), Text.hexDigit (c.toNat % 16)]
  else [c]

def quoted (text : String) : String :=
  String.ofList ('"' :: (text.toList.flatMap escapedChar ++ ['"']))

/-- The text of a number with a fraction; a document holds finite ones only. -/
def doubleText (value : Binary64) : String :=
  value.inJson?.getD "null"

def newLine (depth : Nat) : String :=
  String.ofList ('\n' :: List.replicate (2 * depth) ' ')

mutual

/-- The indented form, with `depth` levels open around it. -/
def indentedAt (depth : Nat) : Json → String
  | .null => "null"
  | .bool value => if value then "true" else "false"
  | .int value => toString value
  | .double value => doubleText value
  | .str text => quoted text
  | .arr [] => "[]"
  | .arr (item :: rest) =>
    "[" ++ newLine (depth + 1) ++ indentedAt (depth + 1) item ++ indentedItems (depth + 1) rest ++
      newLine depth ++ "]"
  | .obj [] => "\x7b\x7d"
  | .obj ((name, value) :: rest) =>
    "\x7b" ++ newLine (depth + 1) ++ quoted name ++ ": " ++ indentedAt (depth + 1) value ++
      indentedMembers (depth + 1) rest ++ newLine depth ++ "\x7d"

def indentedItems (depth : Nat) : List Json → String
  | [] => ""
  | item :: rest =>
    "," ++ newLine depth ++ indentedAt depth item ++ indentedItems depth rest

def indentedMembers (depth : Nat) : List (String × Json) → String
  | [] => ""
  | (name, value) :: rest =>
    "," ++ newLine depth ++ quoted name ++ ": " ++ indentedAt depth value ++
      indentedMembers depth rest

end

def indented (document : Json) : String :=
  indentedAt 0 document

mutual

def compact : Json → String
  | .null => "null"
  | .bool value => if value then "true" else "false"
  | .int value => toString value
  | .double value => doubleText value
  | .str text => quoted text
  | .arr [] => "[]"
  | .arr (item :: rest) => "[" ++ compact item ++ compactItems rest ++ "]"
  | .obj [] => "\x7b\x7d"
  | .obj ((name, value) :: rest) =>
    "\x7b" ++ quoted name ++ ":" ++ compact value ++ compactMembers rest ++ "\x7d"

def compactItems : List Json → String
  | [] => ""
  | item :: rest => "," ++ compact item ++ compactItems rest

def compactMembers : List (String × Json) → String
  | [] => ""
  | (name, value) :: rest => "," ++ quoted name ++ ":" ++ compact value ++ compactMembers rest

end

end ServerProbe.Json
