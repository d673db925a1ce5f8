import ClusterClient.Topology.Basic
/-!
# The urls of a store

A store takes urls as texts. All of them must be urls of one scheme, http or https, and with a
client certificate that scheme is https. Each url counts once.
-/

namespace ClusterClient

inductive CertificateError where
  | unopenable
  | unreadable
  | malformed
  deriving DecidableEq, Repr

inductive StoreError where
  | missingUrls
  | invalidUrl (text : String) (cause : Url.ParseError)
  | schemeMismatch (url : Url)
  | certificate (cause : CertificateError)
  | noDatabaseName
  | closed
  deriving DecidableEq, Repr

namespace StoreError

def message : StoreError → String
  | .missingUrls => "No URLs were supplied and a document store can't exist without at least one"
  | .invalidUrl text _ => "Invalid url `" ++ text ++ "`"
  | .schemeMismatch url =>
    "Url `" ++ url.text ++
      "` does not use the scheme of the other urls, or http was used with a client certificate"
  | .certificate .unopenable => "Failed to open certificate file."
  | .certificate .unreadable => "File was opened but unable to read."
  | .certificate .malformed => "Invalid pem file."
  | .noDatabaseName => "Unable to determine which database to operate on"
  | .closed => "The document store is closed"

def causes : StoreError → List String
  | .invalidUrl _ cause => [cause.message]
  | _ => []

end StoreError

namespace Store

def readUrl (text : String) : Except StoreError Url :=
  (Url.parse text).mapError (.invalidUrl text)

/-- The scheme that all urls must have: that of the first, unless a certificate demands https. -/
def requiredScheme (first : Url) (requireHttps : Bool) : String :=
  if requireHttps then "https" else first.scheme

/-- Whether a url has the required scheme and can be asked for documents at all. -/
def isAcceptable (scheme : String) (url : Url) : Bool :=
  url.scheme == scheme && (url.scheme == "http" || url.scheme == "https")

/-- The urls of a store, without those that came earlier in the list. A text that is no url is
reported before any scheme. -/
def validateUrls (texts : List String) (requireHttps : Bool) : Except StoreError (List Url) := do
  let urls := firstOfEach id (← texts.mapM readUrl)
  match urls with
  | [] => .error .missingUrls
  | first :: _ =>
    match urls.find? fun url => !isAcceptable (requiredScheme first requireHttps) url with
    | some url => .error (.schemeMismatch url)
    | none => .ok urls

end Store

end ClusterClient
