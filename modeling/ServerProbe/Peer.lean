import ServerProbe.Bytes.Hex
import ServerProbe.Bytes.Sha256
import ServerProbe.Text.AsciiCase
import ServerProbe.Wire.Stream

/-! The other end of a connection: how it answers, and what it gets to see. -/

set_option autoImplicit false

namespace ServerProbe

/-- What a peer got on one connection until it ended, decrypted if it is secure. -/
inductive Received where
  /-- Bytes that were taken as they came. -/
  | raw (bytes : List UInt8)
  /-- A request that was read as head and body. -/
  | framed (head body : List UInt8)
  /-- A request of the HTTP client, of whose head only the lines that matter are kept. -/
  | summarized (lines : List String) (body : List UInt8)
  deriving DecidableEq

def Received.isEmpty : Received → Bool
  | .raw bytes => bytes.isEmpty
  | .framed head body => head.isEmpty && body.isEmpty
  | .summarized lines body => lines.isEmpty && body.isEmpty

def Received.nothing : Received := .framed [] []

inductive Conduct where
  /-- It reads everything and answers nothing. -/
  | listens
  /-- It sends an answer after the head of a request, and closes its side. -/
  | closes (answer : List UInt8)
  /-- It sends one answer after the head, another after the body, and closes its side. -/
  | answers (afterHead afterBody : List UInt8)
  deriving DecidableEq

def fingerprintOf (certificate : List UInt8) : String :=
  Bytes.hex (Bytes.Sha256.digest certificate)

structure Identity where
  /-- The fingerprint of its certificate, if it has one. -/
  fingerprint : Option String
  /-- The host for which the certificate passes verification, if there is one. -/
  verifiedHost : Option String
  deriving DecidableEq

structure Peer where
  conduct : Conduct
  /-- Present when the peer speaks TLS. -/
  identity : Option Identity
  /-- What ends the TLS handshake, if something does that is not about the certificate. -/
  handshakeFault : Option String := none
  deriving DecidableEq

namespace Peer

/-- What a client can read, if it sends its head and holds its body back. -/
def stream (peer : Peer) : Wire.Stream :=
  match peer.conduct with
  | .listens => [.fault .nothingYet, .fault .nothingYet]
  | .closes answer => Wire.ofBytes answer
  | .answers afterHead afterBody => Wire.ofBytes afterHead ++ .pause :: Wire.ofBytes afterBody

/-- What the peer got when a client sent a head and perhaps a body. -/
def received (peer : Peer) (head body : List UInt8) : Received :=
  match peer.conduct with
  | .listens => .raw (head ++ body)
  | _ => .framed head body

end Peer

def Identity.isVerifiedFor (identity : Identity) (host : String) : Bool :=
  match identity.verifiedHost with
  | some verified => Text.sameIgnoringCase verified host
  | none => false

end ServerProbe
