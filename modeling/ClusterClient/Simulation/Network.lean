import ClusterClient.Http.Message
/-!
# A scripted network

Servers that answer requests by a script: for each method and url a list of replies, of which every
request takes one and the last one stays.
-/

namespace ClusterClient.Simulation

inductive Treatment where
  /-- The body may break off before its end. -/
  | answer (head : ResponseHead) (body : Except TransportFailure Bytes)
  /-- Nothing comes that is an answer. -/
  | breakOff
  /-- Nothing comes at all. -/
  | silence

structure Scripted where
  treatment : Treatment
  delay : Duration := .zero

structure Network where
  isUp : Bool := true
  replies : List (String × List Scripted) := []

inductive Passage where
  /-- No server hears of it. -/
  | refused (failure : TransportFailure)
  | delivered (reply : Scripted)

/-- A header of an answer as a client reads it: without white space at its ends. -/
def readHeader (name : String) (value : Bytes) : String × Bytes :=
  let isBlank := fun b : UInt8 => b == 0x20 || b == 0x09
  (Text.asciiLower name, ((value.dropWhile isBlank).reverse.dropWhile isBlank).reverse)

def isBodiless (status : Status) : Bool := status == 204 || status == Status.notModified

/-- How much more than it sends a server promises when it breaks off. -/
def missingLength : Nat := 10

def answer (status : Status) (headers : Headers) (body : Bytes) (isCut : Bool) : Treatment :=
  let sent := if isBodiless status then [] else body
  let headers := headers.map fun (name, value) => readHeader name value
  let cut := isCut && !isBodiless status
  let contentLength := some (if cut then sent.length + missingLength else sent.length)
  .answer { status, headers, contentLength } (if cut then .error .broken else .ok sent)

def requestKey (wire : Wire) : String :=
  wire.method ++ " " ++ { wire.url with query := none, fragment := none }.text

namespace Network

def setReplies (n : Network) (key : String) (replies : List Scripted) : Network :=
  { n with replies := (key, replies) :: n.replies.filter (·.1 != key) }

def reply (n : Network) (key : String) : Network × Scripted :=
  match n.replies.lookup key with
  | none | some [] => (n, { treatment := .breakOff })
  | some [last] => (n, last)
  | some (first :: rest) => (n.setReplies key rest, first)

/-- Carries a request. Only plain connections are made. -/
def carry (n : Network) (wire : Wire) : Network × Passage :=
  if !wire.url.isRequestable then (n, .refused .broken)
  else if wire.url.scheme == "http" && n.isUp then
    let (n, reply) := n.reply (requestKey wire)
    (n, .delivered reply)
  else if wire.url.scheme == "http" || wire.url.scheme == "https" then
    (n, .refused .connectionFailed)
  else (n, .refused .broken)

end Network

end ClusterClient.Simulation
