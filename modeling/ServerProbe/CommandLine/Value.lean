import ServerProbe.Number.Notation
import ServerProbe.Text.Numeral

/-! Values of command line options. -/

set_option autoImplicit false

namespace ServerProbe.CommandLine

-- Why a command line is not run as a command. The first two are no mistakes.
inductive Stop where
  | help
  | version
  /-- Nothing was given at all. -/
  | helpOnNothing
  | missingCommand
  | unknownCommand
  | missingArgument
  | unknownArgument
  /-- An option without value was given one. -/
  | tooManyValues
  /-- An option was given twice. -/
  | conflict
  /-- The value of an option is missing, or none of those that are possible. -/
  | invalidValue
  /-- A value could not be read. -/
  | unreadableValue
  deriving DecidableEq

def Stop.exitStatus : Stop → Nat
  | .help | .version => 0
  | _ => 2

inductive OutputFormat where
  | text
  | json
  deriving DecidableEq

inductive Kind where
  | text
  /-- A text that is not empty. -/
  | path
  | output
  | bool
  /-- A whole number from 0 to 65535, which may be written with a sign. -/
  | port
  /-- A whole number of 32 bits with a sign. -/
  | int32
  /-- A whole number of 64 bits without a sign. -/
  | word
  | double
  | char
  deriving DecidableEq

inductive Value where
  | text (value : String)
  | output (value : OutputFormat)
  | bool (value : Bool)
  | port (value : UInt16)
  | int32 (value : Int32)
  | word (value : Nat)
  | double (value : Binary64)
  | char (value : Char)
  deriving DecidableEq

namespace Value

def text? : Value → Option String
  | .text value => some value
  | _ => none

def output? : Value → Option OutputFormat
  | .output value => some value
  | _ => none

def bool? : Value → Option Bool
  | .bool value => some value
  | _ => none

def port? : Value → Option UInt16
  | .port value => some value
  | _ => none

def int32? : Value → Option Int32
  | .int32 value => some value
  | _ => none

def word? : Value → Option Nat
  | .word value => some value
  | _ => none

def double? : Value → Option Binary64
  | .double value => some value
  | _ => none

def char? : Value → Option Char
  | .char value => some value
  | _ => none

end Value

/-- A value that was found, or the complaint that it could not be read. -/
def readable (value : Option Value) : Except Stop Value :=
  match value with
  | some value => .ok value
  | none => .error .unreadableValue

def integer? (text : String) : Option Int :=
  Text.signed? 0x8000000000000000 text.toList

def Kind.read (kind : Kind) (text : String) : Except Stop Value :=
  match kind with
  | .text => .ok (.text text)
  | .path => if text.isEmpty then .error .invalidValue else .ok (.text text)
  | .output =>
    if text = "text" then .ok (.output .text)
    else if text = "json" then .ok (.output .json)
    else .error .invalidValue
  | .bool =>
    if text = "true" then .ok (.bool true)
    else if text = "false" then .ok (.bool false)
    else .error .invalidValue
  | .port =>
    readable <| (integer? text).bind fun value =>
      if 0 ≤ value ∧ value < 65536 then some (.port (UInt16.ofNat value.toNat)) else none
  | .int32 =>
    readable (((integer? text).bind Text.int32?).map .int32)
  | .word => readable ((Text.unsigned? 10 Text.wordLimit text.toList).map .word)
  | .double => readable ((Binary64.ofText? text.toList).map .double)
  | .char =>
    readable <|
      match text.toList with
      | [c] => some (.char c)
      | _ => none

end ServerProbe.CommandLine
