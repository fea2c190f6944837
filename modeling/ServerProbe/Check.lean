import ServerProbe.Failure
import ServerProbe.Number.Notation
import ServerProbe.Text.Blank
import ServerProbe.Text.Lowercase
import ServerProbe.Url.Reader

/-! Checks on single settings. Each names the setting in its failure. -/

set_option autoImplicit false

namespace ServerProbe.Check

abbrev Result := Except Failure Unit

def refuse (field value reason : String) : Result :=
  .error (.invalidSetting field value reason)

def url (field value : String) : Result :=
  if value.isEmpty then refuse field value "URL cannot be empty"
  else
    match Url.ofText value with
    | .error problem => refuse field value ("Invalid URL format: " ++ problem.message)
    | .ok url =>
      if url.scheme = "http" ∨ url.scheme = "https" then .ok ()
      else refuse field value ("Unsupported URL scheme: " ++ url.scheme)

def atLeast (field : String) (value least : Nat) : Result :=
  if value < least then
    refuse field (toString value) ("Value must be at least " ++ toString least)
  else .ok ()

def notBlank (field value : String) : Result :=
  if Text.isBlankText value then refuse field value "Value cannot be empty or whitespace-only"
  else .ok ()

def outside (field value low high : String) : Result :=
  refuse field value ("Value must be between " ++ low ++ " and " ++ high)

def between (field : String) (value low high : Int) : Result :=
  if low ≤ value ∧ value ≤ high then .ok ()
  else outside field (toString value) (toString low) (toString high)

/-- What is no number is outside every range. -/
def betweenNumbers (field : String) (value low high : Binary64) : Result :=
  if low.le value && value.le high then .ok ()
  else outside field value.positional low.positional high.positional

/-- A SHA-256 fingerprint in hexadecimal, where colons may stand anywhere. -/
def fingerprint (field value : String) : Result :=
  let digits := value.toList.filter (· != ':')
  if digits.length = 64 ∧ digits.all Text.isHexDigit then .ok ()
  else
    refuse field value "Expected a SHA-256 fingerprint (64 hex digits, ':' separators allowed)"

end ServerProbe.Check

namespace ServerProbe

/-- A fingerprint as it is compared: without colons and in lower case. -/
def normalizedFingerprint (text : String) : String :=
  String.ofList ((text.toList.filter (· != ':')).flatMap Text.lowercase)

end ServerProbe
