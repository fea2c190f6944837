import ServerProbe.Attempt
import ServerProbe.Http.Exchange
import ServerProbe.Network
import ServerProbe.Probe.Request

/-! The echo call that holds its body back until the server asks for it. -/

set_option autoImplicit false

namespace ServerProbe.StallSettings

def headTimeout (threshold : Duration) : Duration :=
  threshold.longer (.ofMilliseconds 1)

def exchangeFailure (target : Target) : Http.BodyFailure → Failure
  | .fault fault => .connection target.text fault
  | .oversized => .noRoom

def elapsedOf (threshold : Duration) (exchange : Http.Exchange) : Duration :=
  if exchange.ranOut then ⟨(headTimeout threshold).nanoseconds + promptly.nanoseconds⟩
  else promptly

def ranOutEntry (target : Target) (threshold : Duration) : Log.Entry :=
  Log.warn ("⏳ No 100 Continue from " ++ target.text ++ " within " ++ threshold.describe ++
    ", sending the body anyway")

def statusEntries (head : Http.Head) (status : String) : Log :=
  if head.isSuccess then [] else [Log.warn ("⚠️ Server answered with HTTP " ++ status)]

def exchangeLog (target : Target) (threshold : Duration) (exchange : Http.Exchange) : Log :=
  let waited := if exchange.ranOut then [ranOutEntry target threshold] else []
  match exchange.outcome with
  | .ok (head, _) => waited ++ statusEntries head (toString head.status)
  | .error _ => waited

def report (settings : StallSettings) (payloadBytes : Nat) (head : Http.Head) (body : List UInt8)
    (elapsed threshold : Duration) (startedAt : Instant) : StallReport where
  url := settings.url
  status := head.status.toNat
  payloadBytes := payloadBytes
  responseBytes := body.length
  elapsed := elapsed
  threshold := threshold
  startedAt := startedAt

-- Trust in a server that is reached over TLS. Nothing is pinned here.
def trustFor (settings : StallSettings) (url : Url) : Option Trust :=
  if url.scheme = "https" then some ⟨settings.verify, none⟩ else none

def resultOf (network : Network) (settings : StallSettings) (target : Target)
    (request : Http.Request) (threshold : Duration) (exchange : Http.Exchange) :
    Except Failure StallReport :=
  match exchange.outcome with
  | .error failure => .error (exchangeFailure target failure)
  | .ok (head, body) =>
    .ok (settings.report request.bodyLength head body (elapsedOf threshold exchange) threshold
      network.now)

def attemptWith (network : Network) (settings : StallSettings) (target : Target)
    (request : Http.Request) (threshold : Duration) (peer : Peer) : Attempt StallReport :=
  let exchange := Http.Exchange.run request peer.stream
  { outcome := settings.resultOf network target request threshold exchange
    duration := elapsedOf threshold exchange
    log := exchangeLog target threshold exchange
    received := [peer.received request.headBytes
      (exchange.written.drop request.headBytes.length)] }

def noThreshold : Failure := .task "the threshold is no length of time"

def expectAttempt (network : Network) (settings : StallSettings) : Attempt StallReport :=
  match Url.ofText settings.url with
  | .error problem => .ofOutcome (.error (.address problem))
  | .ok url =>
    match url.target, settings.threshold? with
    | .error failure, _ => .ofOutcome (.error failure)
    | .ok _, none => .ofOutcome (.error noThreshold)
    | .ok target, some threshold =>
      let request := url.requestFor target (Text.utf8 settings.payload)
      match network.connectSecurely target settings.timeout (settings.trustFor url) with
      | .error refusal => .failed refusal.failure refusal.received
      | .ok peer => settings.attemptWith network target request threshold peer

end ServerProbe.StallSettings
