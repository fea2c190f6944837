import ServerProbe.Http.Request
import ServerProbe.Http.Response

/-! One request and its response, where the body is held back.

The head of the request goes out first. The body follows when the server sends
an interim head, or when it has sent no whole head in time; what it had sent of
one until then is lost. A final head that comes first is the answer, and the
body is never sent.
-/

set_option autoImplicit false

namespace ServerProbe.Http

open Wire

/-- A connection: what is still to come from the other end, and what was sent to it. -/
structure Connection where
  incoming : Stream
  sent : List UInt8

namespace Connection

variable {R : Type}

def opened (incoming : Stream) : Connection := ⟨incoming, []⟩

def send (bytes : List UInt8) (connection : Connection) : Connection :=
  { connection with sent := connection.sent ++ bytes }

/-- Sends the body of a request, for which the other end may have waited. -/
def sendBody (body : List UInt8) (connection : Connection) : Connection where
  incoming := afterBody connection.incoming
  sent := connection.sent ++ body

def receive (read : Stream → R × Stream) (connection : Connection) : R × Connection :=
  match read connection.incoming with
  | (result, rest) => (result, { connection with incoming := rest })

def finish (head : Head) (connection : Connection) :
    Except BodyFailure (Head × List UInt8) × Connection :=
  match connection.receive head.readBody with
  | (.error failure, later) => (.error failure, later)
  | (.ok body, later) => (.ok (head, body), later)

def answer (connection : Connection) : Except BodyFailure (Head × List UInt8) × Connection :=
  match connection.receive Head.readFinal with
  | (.error fault, later) => (.error (.fault fault), later)
  | (.ok head, later) => later.finish head

end Connection

structure Exchange where
  /-- The bytes of the request that were sent. -/
  written : List UInt8
  /-- Whether the time for the first head ran out. -/
  ranOut : Bool
  outcome : Except BodyFailure (Head × List UInt8)

namespace Exchange

def ended (ranOut : Bool) : Except BodyFailure (Head × List UInt8) × Connection → Exchange
  | (outcome, connection) => ⟨connection.sent, ranOut, outcome⟩

/-- Sends the head of a request, and its body unless the server answers before. -/
def run (request : Request) (stream : Stream) : Exchange :=
  let waiting := (Connection.opened stream).send request.headBytes
  match waiting.receive readHead with
  | (.ok head, connection) =>
    if head.isInterim then ended false (connection.sendBody request.body).answer
    else ended false (connection.finish head)
  | (.error fault, connection) =>
    if fault.isTimeout then ended true (connection.sendBody request.body).answer
    else ended false (.error (.fault fault), connection)

end Exchange

end ServerProbe.Http
