import ServerProbe.Http.ClientProblem
import ServerProbe.Http.Request
import ServerProbe.Http.Response
import ServerProbe.Url.Basic

/-! The HTTP client, which sends a request as a whole and reads one response.

It stands for a client with more to it, and differs from such a one in three
ways. It takes the first final response for the answer, so it follows no redirect.
It reads heads and bodies as the other probes do, so it accepts some that a strict
client refuses, as with blanks in a name or two lengths that differ. And it has no
rules of its own for hosts, where a strict client refuses one with a brace in it.
-/

set_option autoImplicit false

namespace ServerProbe.Http.Client

open Wire

-- The lines of the client's request that matter, in alphabetical order: the request line and the
-- fields that describe the body and both ends. A proxy gets the whole address.
def requestLines (url : Url) (isProxied : Bool) (bodyLength : Nat) : List String :=
  let authority := url.scheme ++ "://" ++ url.hostAndPort
  let place := if isProxied then authority ++ url.pathAndQuery else url.pathAndQuery
  ["POST " ++ place ++ " HTTP/1.1",
   "content-length: " ++ toString bodyLength,
   "content-type: " ++ xmlContentType,
   "host: " ++ url.hostAndPort,
   "user-agent: " ++ userAgent]

def tunnelLines (url : Url) : List String :=
  let place := url.hostText ++ ":" ++ toString (url.effectivePort?.getD 443)
  ["CONNECT " ++ place ++ " HTTP/1.1", "host: " ++ place, "user-agent: " ++ userAgent]

def problemOf (url : String) (fault : Fault) : ClientProblem :=
  if fault.isTimeout then .timedOut url else .interrupted url

def hasNoBody (status : Nat) : Bool :=
  status = 204 || status = 304

def response (url : String) (stream : Stream) : Except ClientProblem (Head × List UInt8) :=
  match Head.readFinal (afterBody stream) with
  | (.error fault, _) => .error (problemOf url fault)
  | (.ok head, rest) =>
    if head.status.toNat < 100 ∨ 1000 ≤ head.status.toNat then .error (.interrupted url)
    else if hasNoBody head.status.toNat then .ok (head, [])
    else
      match head.readBody rest with
      | (.ok body, _) => .ok (head, body)
      | (.error _, _) => .error .incomplete

end ServerProbe.Http.Client
