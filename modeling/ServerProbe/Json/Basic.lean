import ServerProbe.Number.Binary64

/-! Documents of the JSON data model. Members of an object keep their order. -/

set_option autoImplicit false

namespace ServerProbe

inductive Json where
  | null
  | bool (value : Bool)
  | int (value : Int)
  | double (value : Binary64)
  | str (text : String)
  | arr (items : List Json)
  | obj (members : List (String × Json))

namespace Json

def lookup? (name : String) : List (String × Json) → Option Json
  | [] => none
  | (key, value) :: rest => if key = name then some value else lookup? name rest

def member? (document : Json) (name : String) : Option Json :=
  match document with
  | .obj members => lookup? name members
  | _ => none

def ofNat (value : Nat) : Json := .int value

def ofOption {A : Type} (encode : A → Json) : Option A → Json
  | some value => encode value
  | none => .null

/-- A number with a fraction; `null` for infinities and for what is no number. -/
def ofDouble (value : Binary64) : Json :=
  if value.isFinite then .double value else .null

end Json

end ServerProbe
