import ServerProbe.Settings.Disconnect

/-! Settings of the probe that times a large echo call. -/

set_option autoImplicit false

namespace ServerProbe

/-- The longest payload, sixteen times 2 ^ 20 characters. -/
def maxPayloadLength : Nat := 16 * 1024 * 1024

structure StallSettings where
  url : String
  payloadLength : Nat := 65535
  fill : Char := 'a'
  /-- Longer calls count as stalled. -/
  thresholdSeconds : Binary64 := .ofNat 1
  /-- Whether the body waits for the server to ask for it. -/
  expectContinue : Bool := true
  verify : Bool := false
  timeoutSeconds : Option Nat := none
  proxy : Option String := none
  deriving DecidableEq

namespace StallSettings

def ofUrl (url : String) : StallSettings := { url }

def threshold? (settings : StallSettings) : Option Duration :=
  Duration.ofSeconds? settings.thresholdSeconds

def timeout (settings : StallSettings) : Option Duration :=
  settings.timeoutSeconds.map Duration.ofSeconds

def check (settings : StallSettings) : Check.Result := do
  Check.url "stall.url" settings.url
  Check.between "stall.payload_len" settings.payloadLength 0 maxPayloadLength
  Check.betweenNumbers "stall.threshold_seconds" settings.thresholdSeconds .zero
    (.ofNat maxTimeoutSeconds)
  match settings.proxy with
  | some proxy => Check.url "stall.proxy" proxy
  | none => .ok ()
  checkTimeout "stall.timeout_seconds" settings.timeoutSeconds

def toMembers (settings : StallSettings) : Json.Members := [
  ("url", .str settings.url),
  ("payload_len", .ofNat settings.payloadLength),
  ("fill", .str (String.ofList [settings.fill])),
  ("threshold_seconds", .ofDouble settings.thresholdSeconds),
  ("expect_continue", .bool settings.expectContinue),
  ("verify", .bool settings.verify),
  ("timeout_seconds", .ofOption .ofNat settings.timeoutSeconds),
  ("proxy", .ofOption .str settings.proxy)]

/-- Reads settings; only the address has no default, and unknown members do not matter. -/
def ofMembers? (members : Json.Members) : Option StallSettings := do
  let word := Json.asNat? Text.wordLimit
  let url ← Json.required? Json.asText? "url" members
  let defaults := ofUrl url
  let payloadLength ← Json.withDefault? word defaults.payloadLength "payload_len" members
  let fill ← Json.withDefault? Json.asChar? defaults.fill "fill" members
  let thresholdSeconds ←
    Json.withDefault? Json.asDouble? defaults.thresholdSeconds "threshold_seconds" members
  let expectContinue ←
    Json.withDefault? Json.asBool? defaults.expectContinue "expect_continue" members
  let verify ← Json.withDefault? Json.asBool? defaults.verify "verify" members
  let timeoutSeconds ← Json.optional? word "timeout_seconds" members
  let proxy ← Json.optional? Json.asText? "proxy" members
  return {
    url, payloadLength, fill, thresholdSeconds, expectContinue, verify, timeoutSeconds, proxy }

end StallSettings

end ServerProbe
