/-! The tokens of a document and its two layouts.

A document is a list of tokens, each with the number of elements that are open
around it. The compact layout puts the tokens side by side; the indented layout
puts each on a line of its own.
-/

set_option autoImplicit false

namespace ServerProbe.Xml

inductive Token where
  | declaration
  | opening (tag : String)
  | closing (tag : String)
  /-- An element with text only; the text is already escaped. -/
  | leaf (tag text : String)
  | empty (tag : String)
  deriving DecidableEq

def Token.text : Token → String
  | .declaration => "<?xml version=\"1.0\"?>"
  | .opening tag => "<" ++ tag ++ ">"
  | .closing tag => "</" ++ tag ++ ">"
  | .leaf tag text => "<" ++ tag ++ ">" ++ text ++ "</" ++ tag ++ ">"
  | .empty tag => "<" ++ tag ++ "/>"

abbrev Line := Nat × Token

inductive Layout where
  /-- No blank characters between tokens. -/
  | compact
  /-- One token a line, two spaces for each open element. -/
  | indented
  deriving DecidableEq

def Line.indentedText (line : Line) : String :=
  String.ofList (List.replicate (2 * line.1) ' ') ++ line.2.text

def render (layout : Layout) (lines : List Line) : String :=
  match layout with
  | .compact => String.join (lines.map fun line => line.2.text)
  | .indented => String.intercalate "\n" (lines.map Line.indentedText)

end ServerProbe.Xml
