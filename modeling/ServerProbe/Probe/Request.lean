import ServerProbe.Http.Proxy
import ServerProbe.Http.Request
import ServerProbe.Settings.Stress
import ServerProbe.Xml.Call

/-! The requests that the probes send, and where they send them. -/

set_option autoImplicit false

namespace ServerProbe

namespace DisconnectSettings

def body (settings : DisconnectSettings) : List UInt8 :=
  Text.utf8 ((Xml.Call.fileRequest settings.requestedSize).toXml .compact)

def request (settings : DisconnectSettings) : Http.Request :=
  let framed := (Http.Request.post settings.host settings.port.toNat settings.body)
    |>.withDeclaredLength settings.declaredLength
  match settings.userAgent with
  | some agent => framed.withField "User-Agent" agent
  | none => framed

end DisconnectSettings

namespace StallSettings

def payload (settings : StallSettings) : String :=
  (Xml.Call.echo settings.payloadLength settings.fill).toXml .indented

/-- The HTTP client can be set up unless a proxy is given that cannot be read. -/
def checkClient (settings : StallSettings) : Check.Result :=
  match settings.proxy with
  | none => .ok ()
  | some proxy =>
    match Http.proxyOf proxy with
    | .ok _ => .ok ()
    | .error _ => .error (.client .notBuilt)

end StallSettings

namespace Url

def refuse (url : Url) (reason : String) : Failure :=
  .invalidSetting "stall.url" url.text reason

def target (url : Url) : Except Failure Target :=
  match url.host, url.effectivePort? with
  | none, _ => .error (url.refuse "URL has no host")
  | some _, none => .error (url.refuse "URL has no port")
  | some host, some port => .ok ⟨host.lookupText, port⟩

def requestFor (url : Url) (target : Target) (body : List UInt8) : Http.Request :=
  (Http.Request.post target.host target.port body)
    |>.withPath url.pathAndQuery
    |>.withField "Host" url.hostAndPort
    |>.withField "Expect" "100-continue"
    |>.withField "Connection" "close"

/-- The echo request that holds its body back, if the address says where to send it. -/
def expectRequest (url : Url) (body : List UInt8) : Except Failure Http.Request :=
  url.target.map fun target => url.requestFor target body

end Url

end ServerProbe
