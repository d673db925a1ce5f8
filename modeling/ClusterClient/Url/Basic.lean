import ClusterClient.Url.Host
/-!
# URLs

A URL in its normal form: every part is kept as it is written, so two URLs are equal exactly when
their texts are.
-/

namespace ClusterClient

namespace Url

/-- How a scheme reads what follows it. -/
inductive SchemeKind where
  /-- Files: a host may be missing and a drive letter may begin the path. -/
  | file
  /-- The schemes of the web: a host is required and a backslash is a slash. -/
  | web
  | other
  deriving DecidableEq, Repr

def SchemeKind.of (scheme : String) : SchemeKind :=
  if scheme == "file" then .file
  else if ["http", "https", "ws", "wss", "ftp"].contains scheme then .web
  else .other

def SchemeKind.isSpecial : SchemeKind → Bool
  | .other => false
  | _ => true

/-- The port that is not written for a scheme. -/
def defaultPort? (scheme : String) : Option Nat :=
  if scheme == "http" || scheme == "ws" then some 80
  else if scheme == "https" || scheme == "wss" then some 443
  else if scheme == "ftp" then some 21
  else none

structure Authority where
  username : String
  password : String
  host : Host
  /-- Absent when it is the default of the scheme. -/
  port : Option Nat
  deriving DecidableEq, Repr

end Url

structure Url where
  /-- In lower case, without the colon. -/
  scheme : String
  authority : Option Url.Authority
  /-- Begins with a slash unless the URL is rootless or has an authority and an empty path. -/
  path : String
  query : Option String
  fragment : Option String
  deriving DecidableEq, Repr

namespace Url

def Authority.text (a : Authority) : String :=
  let password := if a.password.isEmpty then "" else ":" ++ a.password
  let userinfo :=
    if a.username.isEmpty && a.password.isEmpty then "" else a.username ++ password ++ "@"
  let port := match a.port with
    | some port => ":" ++ toString port
    | none => ""
  userinfo ++ a.host.text ++ port

/-- Whether the path is a plain text and nothing can be relative to the URL. -/
def isRootless (url : Url) : Bool :=
  url.authority.isNone && !url.path.startsWith "/"

/-- The part that says where to connect. A path that begins with two slashes is kept apart from it
by `/.`. -/
def authorityText (url : Url) : String :=
  match url.authority with
  | some authority => "//" ++ authority.text
  | none => if url.path.startsWith "//" then "/." else ""

def textToPath (url : Url) : String :=
  url.scheme ++ ":" ++ url.authorityText ++ url.path

def text (url : Url) : String :=
  let query := match url.query with
    | some query => "?" ++ query
    | none => ""
  let fragment := match url.fragment with
    | some fragment => "#" ++ fragment
    | none => ""
  url.textToPath ++ query ++ fragment

def maxRequestLength : Nat := 65534

/-- Whether a request for the URL can be written. -/
def isRequestable (url : Url) : Bool :=
  url.authority.all (·.host.isRequestable) && url.text.length ≤ maxRequestLength

instance : ToString Url := ⟨text⟩

end Url

end ClusterClient
