import ServerProbe.Attempt
import ServerProbe.Http.Exchange
import ServerProbe.Network
import ServerProbe.Probe.Request

/-! The probe that hangs up without reading: it sends a request, or the first bytes of one, and
closes the connection. -/

set_option autoImplicit false

namespace ServerProbe.DisconnectSettings

def sentBytes (settings : DisconnectSettings) : List UInt8 :=
  match settings.sendBytes with
  | some limit => settings.request.bytes.take limit
  | none => settings.request.bytes

def trust (settings : DisconnectSettings) : Option Trust :=
  if settings.tls then some ⟨settings.verify, settings.serverFingerprint⟩ else none

def report (settings : DisconnectSettings) (startedAt : Instant) : DisconnectReport where
  target := settings.target
  tls := settings.tls
  requestBytes := settings.request.length
  bytesSent := settings.sentBytes.length
  bodyBytes := settings.request.bodyLength
  declaredLength := settings.request.declaredLength
  elapsed := promptly
  startedAt := startedAt

inductive Delivery where
  | whole
  /-- Some bytes arrive before sending fails. -/
  | broken (arrived : Nat) (fault : Wire.Fault)

def Delivery.send (bytes : List UInt8) (connection : Http.Connection) :
    Delivery → Option Wire.Fault × Http.Connection
  | .whole => (none, connection.send bytes)
  | .broken arrived fault => (some fault, connection.send (bytes.take arrived))

def attemptOver (settings : DisconnectSettings) (delivery : Delivery) (network : Network) :
    Attempt DisconnectReport :=
  match network.connectSecurely settings.target settings.timeout settings.trust with
  | .error refusal => .failed refusal.failure refusal.received
  | .ok peer =>
    match delivery.send settings.sentBytes (.opened peer.stream) with
    | (some fault, connection) =>
      .failed (.connection settings.target.text fault) [.raw connection.sent]
    | (none, connection) => {
        outcome := .ok (settings.report network.now)
        duration := promptly
        log := [Log.info "Close prematurely"]
        received := [.raw connection.sent] }

def attempt (network : Network) (settings : DisconnectSettings) : Attempt DisconnectReport :=
  settings.attemptOver .whole network

end ServerProbe.DisconnectSettings
