import ServerProbe.Bytes.Base64
import ServerProbe.Number.Notation
import ServerProbe.Time.Calendar
import ServerProbe.Xml.Escape
import ServerProbe.Xml.Token

/-! Method calls of XML-RPC and the documents that carry them.

`Call.lines` lists the tokens of a call with their depths, and `Call.toXml` lays
them out. The two calls that the probes make are `fileRequest` and `echo`.
-/

set_option autoImplicit false

namespace ServerProbe.Xml

inductive Value where
  | nil
  | int (value : Int32)
  | boolean (value : Bool)
  | double (value : Binary64)
  | string (text : String)
  | base64 (bytes : List UInt8)
  | dateTime (time : CivilTime)
  | array (items : List Value)
  /-- Members keep their order, and names may repeat. -/
  | struct (members : List (String × Value))

def element (depth : Nat) (tag : String) (inner : List Line) : List Line :=
  (depth, .opening tag) :: (inner ++ [(depth, .closing tag)])

mutual

/-- The element that holds a value, with `depth` elements open around it. -/
def Value.lines (depth : Nat) : Value → List Line
  | .nil => element depth "value" [(depth + 1, .empty "nil")]
  | .int value => element depth "value" [(depth + 1, .leaf "int" (toString value.toInt))]
  | .boolean value =>
    element depth "value" [(depth + 1, .leaf "boolean" (if value then "1" else "0"))]
  | .double value => element depth "value" [(depth + 1, .leaf "double" value.positional)]
  | .string text => element depth "value" [(depth + 1, .leaf "string" (escape text))]
  | .base64 bytes => element depth "value" [(depth + 1, .leaf "base64" (Bytes.base64 bytes))]
  | .dateTime time => element depth "value" [(depth + 1, .leaf "dateTime.iso8601" time.compact)]
  | .array items =>
    element depth "value" (element (depth + 1) "array"
      (element (depth + 2) "data" (itemLines (depth + 3) items)))
  | .struct members =>
    element depth "value" (element (depth + 1) "struct" (memberLines (depth + 2) members))

def itemLines (depth : Nat) : List Value → List Line
  | [] => []
  | item :: rest => item.lines depth ++ itemLines depth rest

def memberLines (depth : Nat) : List (String × Value) → List Line
  | [] => []
  | (name, value) :: rest =>
    element depth "member" ((depth + 1, .leaf "name" (escape name)) :: value.lines (depth + 1)) ++
      memberLines depth rest

end

structure Call where
  method : String
  parameters : List Value

namespace Call

def parameterLines (parameter : Value) : List Line :=
  element 2 "param" (parameter.lines 3)

def lines (call : Call) : List Line :=
  (0, .declaration) :: element 0 "methodCall"
    ((1, .leaf "methodName" (escape call.method)) ::
      element 1 "params" (call.parameters.flatMap parameterLines))

def toXml (layout : Layout) (call : Call) : String :=
  render layout call.lines

def fileRequest (size : Int32) : Call :=
  ⟨"get_file", [.struct [("requested-size", .int size)]]⟩

/-- Asks for its single text parameter back: `length` copies of a character. -/
def echo (length : Nat) (fill : Char) : Call :=
  ⟨"echo", [.string (String.ofList (List.replicate length fill))]⟩

end Call

end ServerProbe.Xml
