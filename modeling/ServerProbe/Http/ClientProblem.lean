/-! Why the HTTP client did not bring an answer. -/

set_option autoImplicit false

namespace ServerProbe.Http

inductive ClientProblem where
  /-- A proxy or an address could not be read. -/
  | notBuilt
  /-- The address has no host, or a scheme that is not HTTP. -/
  | unsuitable (url : String)
  | unreachable (url : String)
  | timedOut (url : String)
  /-- The connection was made, but what came back is no response. -/
  | interrupted (url : String)
  /-- The body ended early. -/
  | incomplete
  deriving DecidableEq

namespace ClientProblem

def text : ClientProblem → String
  | .notBuilt => "builder error"
  | .unsuitable url => "builder error for url (" ++ url ++ ")"
  | .unreachable url => "error sending request for url (" ++ url ++ ")"
  | .timedOut url => "error sending request for url (" ++ url ++ ")"
  | .interrupted url => "error sending request for url (" ++ url ++ ")"
  | .incomplete => "error decoding response body"

end ClientProblem

end ServerProbe.Http
