/-! Text inside XML elements: five characters are written as entities. -/

set_option autoImplicit false

namespace ServerProbe.Xml

def escapedChar (c : Char) : List Char :=
  match c with
  | '&' => ['&', 'a', 'm', 'p', ';']
  | '<' => ['&', 'l', 't', ';']
  | '>' => ['&', 'g', 't', ';']
  | '"' => ['&', 'q', 'u', 'o', 't', ';']
  | '\'' => ['&', 'a', 'p', 'o', 's', ';']
  | _ => [c]

def escape (text : String) : String :=
  String.ofList (text.toList.flatMap escapedChar)

end ServerProbe.Xml
