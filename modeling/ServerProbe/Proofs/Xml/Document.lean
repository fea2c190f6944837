import ServerProbe.Xml.Call

/-! A reader of call documents.

A document is cut at its tags, and these are put together into elements. Around
elements nothing may stand but line feeds and spaces; an element without others
in it keeps its text as it is. What the elements mean is settled last, with
numbers and times left as they are printed.
-/

set_option autoImplicit false

namespace ServerProbe.Xml

/-- A value as far as a document shows it. -/
inductive Shown where
  | nil
  | int (value : Int32)
  | boolean (value : Bool)
  | double (text : String)
  | string (text : String)
  | base64 (bytes : List UInt8)
  | dateTime (text : String)
  | array (items : List Shown)
  | struct (members : List (String × Shown))

structure ShownCall where
  method : String
  parameters : List Shown

mutual

def Value.shown : Value → Shown
  | .nil => .nil
  | .int value => .int value
  | .boolean value => .boolean value
  | .double value => .double value.positional
  | .string text => .string text
  | .base64 bytes => .base64 bytes
  | .dateTime time => .dateTime time.compact
  | .array items => .array (shownItems items)
  | .struct members => .struct (shownMembers members)

def shownItems : List Value → List Shown
  | [] => []
  | item :: rest => item.shown :: shownItems rest

def shownMembers : List (String × Value) → List (String × Shown)
  | [] => []
  | (name, value) :: rest => (name, value.shown) :: shownMembers rest

end

def Call.shown (call : Call) : ShownCall :=
  ⟨call.method, call.parameters.map Value.shown⟩

/-- A tag without its brackets, and the text before it. -/
structure Piece where
  before : List Char
  inside : List Char
  deriving DecidableEq

/-- Where cutting stands, with what has passed there in reverse. -/
inductive Place where
  | text (passed : List Char)
  | tag (before passed : List Char)

def cut? : Place → List Char → Option (List Piece)
  | .text [], [] => some []
  | .text (_ :: _), [] => none
  | .tag _ _, [] => none
  | .text passed, c :: rest =>
    if c = '<' then cut? (.tag passed.reverse []) rest else cut? (.text (c :: passed)) rest
  | .tag before passed, c :: rest =>
    if c = '>' then (cut? (.text []) rest).map fun pieces => ⟨before, passed.reverse⟩ :: pieces
    else cut? (.tag before (c :: passed)) rest

inductive Mark where
  | opening (tag : String)
  | closing (tag : String)
  | empty (tag : String)

def markOf : List Char → Mark
  | '/' :: name => .closing (String.ofList name)
  | inside =>
    if inside.getLast? = some '/' then .empty (String.ofList inside.dropLast)
    else .opening (String.ofList inside)

def IsLayout (text : List Char) : Prop := ∀ c ∈ text, c = '\n' ∨ c = ' '

instance (text : List Char) : Decidable (IsLayout text) :=
  List.decidableBAll (fun c => c = '\n' ∨ c = ' ') text

/-- An element. Only one without others inside of it has text. -/
inductive Node where
  | element (tag : String) (text : List Char) (inner : List Node)

/-- An element that is still open, with the last of its elements first. -/
structure Open where
  tag : String
  inner : List Node

namespace Open

def add (node : Node) (outer : Open) : Open :=
  { outer with inner := node :: outer.inner }

def close (current : Open) (text : List Char) : Option Node :=
  -- The text of an element is kept only where no other element gives it a meaning.
  if current.inner = [] then some (.element current.tag text [])
  else if IsLayout text then some (.element current.tag [] current.inner.reverse)
  else none

end Open

/-- One tag, with the open elements from the innermost one. -/
def build? (opened : List Open) (piece : Piece) : Option (List Open) :=
  match markOf piece.inside, opened with
  | .opening tag, _ => if IsLayout piece.before then some (⟨tag, []⟩ :: opened) else none
  | .empty tag, current :: outer =>
    if IsLayout piece.before then some (current.add (.element tag [] []) :: outer) else none
  | .closing tag, current :: parent :: outer =>
    if tag = current.tag then (current.close piece.before).map fun node => parent.add node :: outer
    else none
  | _, _ => none

def buildAll? (opened : List Open) : List Piece → Option (List Open)
  | [] => some opened
  | piece :: rest => (build? opened piece).bind fun next => buildAll? next rest

def declared : List Char := "?xml version=\"1.0\"?".toList

/-- The only element of a document, which starts with its declaration. -/
def rootOf? (text : List Char) : Option Node :=
  match cut? (.text []) text with
  | some (first :: rest) =>
    if first = ⟨[], declared⟩ then
      match buildAll? [⟨"", []⟩] rest with
      | some [⟨_, [root]⟩] => some root
      | _ => none
    else none
  | _ => none

def unescape? : List Char → Option (List Char)
  | [] => some []
  | '&' :: 'a' :: 'm' :: 'p' :: ';' :: rest => (unescape? rest).map ('&' :: ·)
  | '&' :: 'l' :: 't' :: ';' :: rest => (unescape? rest).map ('<' :: ·)
  | '&' :: 'g' :: 't' :: ';' :: rest => (unescape? rest).map ('>' :: ·)
  | '&' :: 'q' :: 'u' :: 'o' :: 't' :: ';' :: rest => (unescape? rest).map ('"' :: ·)
  | '&' :: 'a' :: 'p' :: 'o' :: 's' :: ';' :: rest => (unescape? rest).map ('\'' :: ·)
  | '&' :: _ => none
  | c :: rest => (unescape? rest).map (c :: ·)

def textOf? (text : List Char) : Option String :=
  (unescape? text).map String.ofList

def leafOf? (tag : String) (text : List Char) : Option Shown :=
  match tag with
  | "nil" => if text = [] then some .nil else none
  | "int" => (Text.signed? 0x80000000 text).map fun value => .int (Int32.ofInt value)
  | "boolean" =>
    match text with
    | ['0'] => some (.boolean false)
    | ['1'] => some (.boolean true)
    | _ => none
  | "double" => (textOf? text).map .double
  | "string" => (textOf? text).map .string
  | "base64" => (Bytes.ofBase64Chars? text).map .base64
  | "dateTime.iso8601" => (textOf? text).map .dateTime
  | _ => none

mutual

def Node.value? : Node → Option Shown
  | .element "value" _ [content] => content.content?
  | _ => none

def Node.content? : Node → Option Shown
  | .element "array" _ [.element "data" text items] =>
    if IsLayout text then (valuesOf? items).map .array else none
  | .element "struct" text members =>
    if IsLayout text then (membersOf? members).map .struct else none
  | .element tag text [] => leafOf? tag text
  | _ => none

def valuesOf? : List Node → Option (List Shown)
  | [] => some []
  | node :: rest =>
    match node.value?, valuesOf? rest with
    | some value, some others => some (value :: others)
    | _, _ => none

def Node.member? : Node → Option (String × Shown)
  | .element "member" _ [.element "name" name [], node] =>
    match textOf? name, node.value? with
    | some name, some value => some (name, value)
    | _, _ => none
  | _ => none

def membersOf? : List Node → Option (List (String × Shown))
  | [] => some []
  | node :: rest =>
    match node.member?, membersOf? rest with
    | some member, some others => some (member :: others)
    | _, _ => none

end

def parametersOf? : List Node → Option (List Shown)
  | [] => some []
  | .element "param" _ [node] :: rest =>
    match node.value?, parametersOf? rest with
    | some value, some others => some (value :: others)
    | _, _ => none
  | _ => none

def callOf? : Node → Option ShownCall
  | .element "methodCall" _ [.element "methodName" method [], .element "params" text nodes] =>
    if IsLayout text then
      match textOf? method, parametersOf? nodes with
      | some method, some parameters => some ⟨method, parameters⟩
      | _, _ => none
    else none
  | _ => none

/-- Reads a document in either layout. -/
def decode? (text : String) : Option ShownCall :=
  (rootOf? text.toList).bind callOf?

end ServerProbe.Xml
