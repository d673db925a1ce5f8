import ClusterClient.Url.Parser
/-!
# Origins

What two URLs must share to be served over the same connections: scheme, host and port. URLs whose
scheme has no such notion all have the one opaque origin.
-/

namespace ClusterClient.Url

def nullOrigin : String := "null"

/-- Scheme, host and port of a URL under a scheme of the web. -/
def tupleOrigin (url : Url) : String :=
  match SchemeKind.of url.scheme, url.authority with
  | .web, some authority =>
    let port := match authority.port with
      | some port => ":" ++ toString port
      | none => ""
    url.scheme ++ "://" ++ authority.host.text ++ port
  | _, _ => nullOrigin

/-- The origin of a URL. A `blob` URL has the origin of the URL that is its path, followed at most
as often as the text is long. -/
def originWithin : Nat → Url → String
  | 0, _ => nullOrigin
  | fuel + 1, url =>
    if url.scheme == "blob" then
      match parse url.path with
      | .ok inner => originWithin fuel inner
      | .error _ => nullOrigin
    else tupleOrigin url

def origin (url : Url) : String :=
  originWithin (url.text.length + 1) url

end ClusterClient.Url
