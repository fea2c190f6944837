import ServerProbe.Json.Basic

/-! Documents whose members are in the order of their names. -/

set_option autoImplicit false

namespace ServerProbe.Json

/-- Puts a member in front of the first one with a later name. -/
def insert (name : String) (value : Json) : List (String × Json) → List (String × Json)
  | [] => [(name, value)]
  | (other, kept) :: rest =>
    if name < other then (name, value) :: (other, kept) :: rest
    else (other, kept) :: insert name value rest

mutual

def sorted : Json → Json
  | .arr items => .arr (sortedItems items)
  | .obj members => .obj (sortedMembers members)
  | other => other

def sortedItems : List Json → List Json
  | [] => []
  | item :: rest => sorted item :: sortedItems rest

def sortedMembers : List (String × Json) → List (String × Json)
  | [] => []
  | (name, value) :: rest => insert name (sorted value) (sortedMembers rest)

end

end ServerProbe.Json
