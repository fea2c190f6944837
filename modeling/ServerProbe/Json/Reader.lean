import ServerProbe.Json.Basic
import ServerProbe.Text.Numeral

/-! Reading typed values out of the members of an object.

Nothing is converted: a number is no text, and a number with a fraction is no
whole number. A whole number may stand for a number with a fraction.
-/

set_option autoImplicit false

namespace ServerProbe.Json

abbrev Members := List (String × Json)

def asText? : Json → Option String
  | .str text => some text
  | _ => none

def asBool? : Json → Option Bool
  | .bool value => some value
  | _ => none

def asNat? (limit : Nat) : Json → Option Nat
  | .int value => if 0 ≤ value ∧ value < limit then some value.toNat else none
  | _ => none

def asInt32? : Json → Option Int32
  | .int value => Text.int32? value
  | _ => none

def asDouble? : Json → Option Binary64
  | .int value => some (Binary64.ofInt value)
  | .double value => some value
  | _ => none

def asChar? : Json → Option Char
  | .str text =>
    match text.toList with
    | [c] => some c
    | _ => none
  | _ => none

def asTexts? : Json → Option (List String)
  | .arr items => items.mapM asText?
  | _ => none

def required? {A : Type} (decode : Json → Option A) (name : String) (members : Members) :
    Option A :=
  (lookup? name members).bind decode

def withDefault? {A : Type} (decode : Json → Option A) (default : A) (name : String)
    (members : Members) : Option A :=
  match lookup? name members with
  | some value => decode value
  | none => some default

/-- A member that may be missing or `null`. -/
def optional? {A : Type} (decode : Json → Option A) (name : String) (members : Members) :
    Option (Option A) :=
  match lookup? name members with
  | some .null => some none
  | some value => (decode value).map some
  | none => some none

end ServerProbe.Json
