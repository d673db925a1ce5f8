import ClusterClient.Duration
import ClusterClient.Http.Status
import ClusterClient.Text.Ascii
import ClusterClient.Url.Basic
/-!
# Requests and answers

A request as a command makes it, the same request as it is sent to a node, the head of an answer,
and what can go wrong between the two.
-/

namespace ClusterClient

/-- Headers by name in lower case. One name may stand several times. -/
abbrev Headers := List (String × Bytes)

namespace Headers

def get? (headers : Headers) (name : String) : Option Bytes := headers.lookup name

def set (headers : Headers) (name : String) (value : Bytes) : Headers :=
  headers.filter (·.1 != name) ++ [(name, value)]

def add (headers : Headers) (name value : String) : Headers :=
  headers ++ [(name, Bytes.ofString value)]

/-- Whether an octet may stand in a header value that is read as text. -/
def isVisible (b : UInt8) : Bool := (0x20 ≤ b && b < 0x7f) || b == 0x09

def text? (headers : Headers) (name : String) : Option String :=
  (headers.get? name).bind fun value => if value.all isVisible then Bytes.toString? value else none

def flag (headers : Headers) (name : String) : Bool :=
  (headers.text? name).any (Text.equalIgnoringCase · "true")

/-- One value for each name: several values are joined by commas. -/
def joined (headers : Headers) : Headers :=
  headers.map fun (name, _) =>
    let values := (headers.filter (·.1 == name)).map (·.2)
    (name, (values.intersperse (Bytes.ofString ", ")).flatten)

def etag : String := "etag"

/-- The name of the version that an answer must differ from. -/
def ifNoneMatch : String := "if-none-match"

def contentType : String := "content-type"

def topologyEtag : String := "topology-etag"

def configurationEtag : String := "client-configuration-etag"

def refreshTopology : String := "refresh-topology"

def refreshConfiguration : String := "refresh-client-configuration"

/-- The name of the id that makes a repeated write count once. -/
def raftRequestId : String := "raft-request-id"

end Headers

structure Request where
  method : String
  url : Url
  headers : Headers := []
  body : Option Bytes := none
  deriving DecidableEq, Repr

def Request.get (url : Url) : Request := { method := "GET", url }

/-- A request as it is sent. -/
structure Wire where
  method : String
  url : Url
  headers : Headers
  body : Option Bytes
  timeout : Duration
  deriving DecidableEq, Repr

/-- What comes of an answer before its body. -/
structure ResponseHead where
  status : Status
  headers : Headers := []
  /-- The length of the body, as far as it is announced. -/
  contentLength : Option Nat := none
  deriving DecidableEq, Repr

/-- Why no answer came, or only part of one. -/
inductive TransportFailure where
  | timedOut
  | connectionFailed
  | broken
  deriving DecidableEq, Repr

def TransportFailure.message : TransportFailure → String
  | .timedOut => "timed out"
  | .connectionFailed => "connection failed"
  | .broken => "transport error"

end ClusterClient
