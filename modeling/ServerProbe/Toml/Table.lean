import ServerProbe.Json.Basic

/-! Tables of a TOML document while it is read.

A table may be opened by its own header, come about as a part of another name,
or be filled by dotted keys. What may be added to it later depends on that; a
finished value takes no additions.
-/

set_option autoImplicit false

namespace ServerProbe.Toml

inductive Origin where
  /-- By a header of its own. -/
  | header
  /-- As a part of the name in another header. -/
  | outer
  /-- By dotted keys. -/
  | dotted
  deriving DecidableEq

inductive Item where
  | value (value : Json)
  | table (origin : Origin) (entries : List (String × Item))
  /-- The tables of one name that is opened again and again, latest first. -/
  | tables (latest : List (String × Item)) (before : List (List (String × Item)))

abbrev Entries := List (String × Item)

-- Changes the item of a key, or adds one where there is none. The order of keys is kept.
def alter (key : String) (change : Option Item → Option Item) : Entries → Option Entries
  | [] => (change none).map fun item => [(key, item)]
  | (known, item) :: rest =>
    if known = key then (change (some item)).map fun item => (key, item) :: rest
    else (alter key change rest).map ((known, item) :: ·)

-- Gives a value to a key, which may be dotted. Neither the key nor its last table may be defined
-- in another way. Tables further out may be, unless a header opened them; of a list of tables
-- the latest one is meant.
def assign (value : Json) : List String → Entries → Option Entries
  | [], _ => none
  | [key], entries =>
    alter key (fun
      | none => some (.value value)
      | some _ => none) entries
  | key :: next :: path, entries =>
    alter key (fun
      | none => (assign value (next :: path) []).map (.table .dotted)
      | some (.table .dotted inner) =>
        (assign value (next :: path) inner).map (.table .dotted)
      | some (.table .outer inner) =>
        if path.isEmpty then none else (assign value (next :: path) inner).map (.table .outer)
      | some (.tables latest before) =>
        if path.isEmpty then none
        else (assign value (next :: path) latest).map fun latest => .tables latest before
      | some _ => none) entries

-- Changes the table that a header names. In a list of tables the latest one is meant.
def within (change : Entries → Option Entries) : List String → Entries → Option Entries
  | [], entries => change entries
  | key :: path, entries =>
    alter key (fun
      | none => (within change path []).map (.table .outer)
      | some (.table origin inner) => (within change path inner).map (.table origin)
      | some (.tables latest before) =>
        (within change path latest).map fun latest => .tables latest before
      | some (.value _) => none) entries

/-- Opens a table by its header, which may be done once. -/
def openTable (key : String) : Entries → Option Entries :=
  alter key fun
    | none => some (.table .header [])
    | some (.table .outer inner) => some (.table .header inner)
    | some _ => none

def openNext (key : String) : Entries → Option Entries :=
  alter key fun
    | none => some (.tables [] [])
    | some (.tables latest before) => some (.tables [] (latest :: before))
    | some _ => none

mutual

def Item.toJson : Item → Json
  | .value value => value
  | .table _ entries => .obj (entriesToMembers entries)
  | .tables latest before =>
    .arr (.obj (entriesToMembers latest) :: tablesToJson before).reverse

def entriesToMembers : List (String × Item) → List (String × Json)
  | [] => []
  | (key, item) :: rest => (key, item.toJson) :: entriesToMembers rest

def tablesToJson : List (List (String × Item)) → List Json
  | [] => []
  | entries :: rest => .obj (entriesToMembers entries) :: tablesToJson rest

end

end ServerProbe.Toml
