import ClusterClient.Url.Origin
/-!
# Clients for origins

One client for each origin, made when the first request goes there. A proxy that is no address makes
every new client impossible.
-/

namespace ClusterClient

structure Pool where
  proxy : Option String := none
  origins : List String := []
  deriving DecidableEq, Repr

namespace Pool

/-- A proxy address with a host; a text without a scheme is taken as a host. -/
def proxy? (address : String) : Option Url :=
  let withHost (url : Url) : Option Url :=
    if url.authority.any (·.host != .name "") then some url else none
  let assumed := (Url.parse ("http://" ++ address)).toOption.bind withHost
  match Url.parse address with
  | .ok url => withHost url <|> assumed
  | .error .relativeWithoutBase => assumed
  | .error _ => none

def isUsableProxy (address : String) : Bool :=
  (proxy? address).any fun url =>
    (url.scheme == "http" || url.scheme == "https") && url.authority.any (·.host.isRequestable)

def size (p : Pool) : Nat := p.origins.length

def isEmpty (p : Pool) : Bool := p.origins.isEmpty

/-- Makes sure there is a client for a url; `none` when none can be made. -/
def open? (p : Pool) (url : Url) : Option Pool :=
  if p.origins.contains url.origin then some p
  else if p.proxy.all isUsableProxy then some { p with origins := url.origin :: p.origins }
  else none

def clear (p : Pool) : Pool := { p with origins := [] }

end Pool

end ClusterClient
