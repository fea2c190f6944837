import ServerProbe.Check
import ServerProbe.Failure
import ServerProbe.Peer
import ServerProbe.Report

/-! Connections: what becomes of an attempt to open one, and to secure it with TLS. -/

set_option autoImplicit false

namespace ServerProbe

structure Network where
  /-- The time at which the probes start. -/
  now : Instant
  /-- The peer that every connection reaches, or why none can be made. -/
  peer : Except Wire.Fault Peer

/-- Why a connection cannot be used, and what the peer saw of it. -/
structure Refusal where
  failure : Failure
  received : List Received

structure Trust where
  /-- Whether the certificate and the host name are verified. -/
  verify : Bool
  /-- The fingerprint that the certificate must have, in any spelling. -/
  fingerprint : Option String

/-- How long an exchange takes in which nobody waits. -/
def promptly : Duration := .ofMilliseconds 1

def Identity.pin (identity : Identity) (target : Target) (expected : String) : Check.Result :=
  match identity.fingerprint with
  | none => .error (.handshake target.text "server sent no certificate")
  | some actual =>
    let expected := normalizedFingerprint expected
    if actual = expected then .ok () else .error (.fingerprintMismatch expected actual)

-- The TLS handshake, which may fail for a reason of the peer's own. Only cipher suites that need a
-- certificate are offered, so a peer without one cannot come to the end of it.
def Peer.handshake (peer : Peer) (target : Target) (verify : Bool) : Except Failure Identity :=
  match peer.identity with
  | none => .error (.handshake target.text "no handshake")
  | some identity =>
    if identity.fingerprint.isNone then .error (.handshake target.text "no shared cipher")
    else if verify ∧ ¬identity.isVerifiedFor target.host then
      .error (.handshake target.text "certificate verify failed")
    else
      match peer.handshakeFault with
      | some fault => .error (.handshake target.text fault)
      | none => .ok identity

-- Secures a connection with TLS. A fingerprint is compared after the handshake.
def Peer.secure (peer : Peer) (target : Target) (trust : Trust) : Check.Result := do
  let identity ← peer.handshake target trust.verify
  match trust.fingerprint with
  | some expected => identity.pin target expected
  | none => .ok ()

namespace Network

def refuse (target : Target) (fault : Wire.Fault) (received : List Received) :
    Except Refusal Peer :=
  .error ⟨.connection target.text fault, received⟩

-- Opens a connection. A host with a NUL is not looked up, and a timeout of no length is refused
-- only when the connection has been made.
def connect (network : Network) (target : Target) (timeout : Option Duration) :
    Except Refusal Peer :=
  if target.host.toList.contains '\x00' then refuse target .nulInName []
  else
    match network.peer with
    | .error fault => refuse target fault []
    | .ok peer =>
      if timeout = some .zero then refuse target .zeroTimeout [.nothing] else .ok peer

def connectSecurely (network : Network) (target : Target) (timeout : Option Duration)
    (trust : Option Trust) : Except Refusal Peer := do
  let peer ← network.connect target timeout
  match trust with
  | none => .ok peer
  | some trust =>
    match peer.secure target trust with
    | .ok () => .ok peer
    | .error failure => .error ⟨failure, [.nothing]⟩

end Network

end ServerProbe
