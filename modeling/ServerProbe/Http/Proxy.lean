import ServerProbe.Url.Reader

/-! Proxies, which may be given without a scheme. -/

set_option autoImplicit false

namespace ServerProbe.Http

-- Reads a proxy. A text that names no host by itself is read again as an `http` address.
def proxyOf (text : String) : Except Url.Problem Url :=
  match Url.ofText text with
  | .ok url => if url.host.isSome then .ok url else Url.ofText ("http://" ++ text)
  | .error .relativeWithoutBase => Url.ofText ("http://" ++ text)
  | .error problem => .error problem

end ServerProbe.Http
