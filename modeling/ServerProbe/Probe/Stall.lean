import ServerProbe.Http.Client
import ServerProbe.Http.Status
import ServerProbe.Probe.Expect

/-! The probe that times a large echo call.

Through a proxy the body cannot be held back, so the HTTP client makes the call
then, as it does when holding back is switched off.
-/

set_option autoImplicit false

namespace ServerProbe.StallSettings

def clientFailed (problem : Http.ClientProblem) (received : List Received) : Attempt StallReport :=
  .failed (.client problem) received

def clientAttemptWith (network : Network) (settings : StallSettings) (url : Url)
    (isProxied : Bool) (threshold : Duration) (peer : Peer) : Attempt StallReport :=
  let body := Text.utf8 settings.payload
  let received : Received :=
    match peer.conduct with
    | .listens => .raw body
    | _ => .summarized (Http.Client.requestLines url isProxied body.length) body
  match Http.Client.response url.text peer.stream with
  | .error problem => clientFailed problem [received]
  | .ok (head, answer) => {
      outcome := .ok
        (settings.report body.length head answer promptly threshold network.now)
      duration := promptly
      log := statusEntries head (Http.statusText head.status.toNat)
      received := [received] }

-- The call of the client to an address. A proxy here answers once and closes, so no tunnel through it
-- to a secure server ever opens: such a call always fails, as it need not with a proxy that stays
-- open. Every connection of a call goes to the one peer, and a call makes only one.
def clientAttemptTo (network : Network) (settings : StallSettings) (url : Url)
    (threshold : Duration) : Attempt StallReport :=
  let proxy : Option Url := settings.proxy.bind fun text => (Http.proxyOf text).toOption
  let first := proxy.getD url
  match network.peer with
  | .error _ => clientFailed (.unreachable url.text) []
  | .ok peer =>
    if settings.timeout = some .zero then clientFailed (.timedOut url.text) [.nothing]
    else
      let secured : Check.Result :=
        match settings.trustFor first with
        | some trust => peer.secure ⟨first.hostText, 0⟩ trust
        | none => .ok ()
      match secured with
      | .error _ => clientFailed (.unreachable url.text) [.nothing]
      | .ok () =>
        if proxy.isSome ∧ url.scheme = "https" then
          clientFailed (.unreachable url.text)
            [.summarized (Http.Client.tunnelLines url) []]
        else settings.clientAttemptWith network url proxy.isSome threshold peer

def clientAttempt (network : Network) (settings : StallSettings) : Attempt StallReport :=
  match Url.ofText settings.url with
  | .error _ => clientFailed .notBuilt []
  | .ok url =>
    let url := url.withoutCredentials
    if url.host.isNone ∨ (url.scheme ≠ "http" ∧ url.scheme ≠ "https") then
      clientFailed (.unsuitable url.text) []
    else
      match settings.threshold? with
      | none => .ofOutcome (.error noThreshold)
      | some threshold => settings.clientAttemptTo network url threshold

def call (network : Network) (settings : StallSettings) : Attempt StallReport :=
  if settings.expectContinue ∧ settings.proxy.isNone then settings.expectAttempt network
  else settings.clientAttempt network

end ServerProbe.StallSettings
