import ServerProbe.Check
import ServerProbe.Json.Reader
import ServerProbe.Report

/-! Settings of the probe that hangs up without reading. -/

set_option autoImplicit false

namespace ServerProbe

def maxTimeoutSeconds : Nat := 3600

/-- A timeout is between one second and an hour, if there is one. -/
def checkTimeout (field : String) : Option Nat → Check.Result
  | some seconds => Check.between field seconds 1 maxTimeoutSeconds
  | none => .ok ()

structure DisconnectSettings where
  host : String := "127.0.0.1"
  port : UInt16 := 3344
  tls : Bool := true
  /-- Whether the certificate and the host name of the server are verified. -/
  verify : Bool := false
  serverFingerprint : Option String := none
  requestedSize : Int32 := 55000
  /-- The length to announce instead of the length of the body. -/
  declaredLength : Option Nat := none
  /-- How many bytes of the request to send. -/
  sendBytes : Option Nat := none
  timeoutSeconds : Option Nat := none
  userAgent : Option String := none
  deriving DecidableEq

namespace DisconnectSettings

def defaults : DisconnectSettings := {}

def target (settings : DisconnectSettings) : Target :=
  ⟨settings.host, settings.port.toNat⟩

def timeout (settings : DisconnectSettings) : Option Duration :=
  settings.timeoutSeconds.map Duration.ofSeconds

def check (settings : DisconnectSettings) : Check.Result := do
  Check.notBlank "disconnect.host" settings.host
  Check.between "disconnect.port" settings.port.toNat 1 65535
  Check.between "disconnect.requested_size" settings.requestedSize.toInt 0 2147483647
  match settings.sendBytes with
  | some count => Check.atLeast "disconnect.send_bytes" count 1
  | none => .ok ()
  match settings.serverFingerprint with
  | some fingerprint => Check.fingerprint "disconnect.server_fingerprint" fingerprint
  | none => .ok ()
  checkTimeout "disconnect.timeout_seconds" settings.timeoutSeconds

/-- The settings as members of one object, unset options as `null`. -/
def toMembers (settings : DisconnectSettings) : Json.Members := [
  ("host", .str settings.host),
  ("port", .ofNat settings.port.toNat),
  ("tls", .bool settings.tls),
  ("verify", .bool settings.verify),
  ("server_fingerprint", .ofOption .str settings.serverFingerprint),
  ("requested_size", .int settings.requestedSize.toInt),
  ("declared_length", .ofOption .ofNat settings.declaredLength),
  ("send_bytes", .ofOption .ofNat settings.sendBytes),
  ("timeout_seconds", .ofOption .ofNat settings.timeoutSeconds),
  ("user_agent", .ofOption .str settings.userAgent)]

/-- Reads settings; members that are missing have their defaults, unknown ones do not matter. -/
def ofMembers? (members : Json.Members) : Option DisconnectSettings := do
  let word := Json.asNat? Text.wordLimit
  let host ← Json.withDefault? Json.asText? defaults.host "host" members
  let port ← Json.withDefault? (Json.asNat? Text.shortLimit) defaults.port.toNat "port" members
  let tls ← Json.withDefault? Json.asBool? defaults.tls "tls" members
  let verify ← Json.withDefault? Json.asBool? defaults.verify "verify" members
  let serverFingerprint ← Json.optional? Json.asText? "server_fingerprint" members
  let requestedSize ←
    Json.withDefault? Json.asInt32? defaults.requestedSize "requested_size" members
  let declaredLength ← Json.optional? word "declared_length" members
  let sendBytes ← Json.optional? word "send_bytes" members
  let timeoutSeconds ← Json.optional? word "timeout_seconds" members
  let userAgent ← Json.optional? Json.asText? "user_agent" members
  return {
    host, tls, verify, serverFingerprint, requestedSize, declaredLength, sendBytes,
    timeoutSeconds, userAgent
    port := UInt16.ofNat port }

end DisconnectSettings

end ServerProbe
