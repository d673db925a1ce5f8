import ClusterClient.Command.Basic
/-!
# Errors of calls

Why one node could not serve a request, why an answer ends a call at once, and why a call failed.
Every error is its cause; the wording is in one place for each kind.
-/

namespace ClusterClient

/-- What a healthy node answered when it refused a request. -/
structure ServerError where
  status : Status
  errorType : Option String
  message : String
  deriving DecidableEq, Repr

/-- The answers that callers branch on. -/
inductive ServerErrorKind where
  | badRequest
  | unauthorized
  | forbidden
  | notFound
  | conflict
  | preconditionFailed
  | other
  deriving DecidableEq, Repr

def ServerErrorKind.of (status : Status) : ServerErrorKind :=
  match status with
  | 400 => .badRequest
  | 401 => .unauthorized
  | 403 => .forbidden
  | 404 => .notFound
  | 409 => .conflict
  | 412 => .preconditionFailed
  | _ => .other

namespace ServerError

/-- What a server says about an error: its type, a message and details. -/
structure Body where
  errorType : Option String
  message : Option String
  details : Option String

def readBody : Json.Reader Body := fun tree => do
  let r ← Json.Record.ofTree? ["Type", "Message", "Error"] tree
  let errorType ← r.nullable "Type" .string
  let message ← r.nullable "Message" .string
  let details ← r.nullable "Error" .string
  pure { errorType, message, details }

/-- The error in an answer. A body in another form is the message itself. -/
def ofAnswer (status : Status) (body : Bytes) : ServerError :=
  let read := (Json.Tree.parse? body).bind readBody
  let message := (read.bind fun b => b.message <|> b.details).getD
    (Text.trimBlank (Bytes.lenientString body))
  ⟨status, read.bind Body.errorType, message⟩

def kind (e : ServerError) : ServerErrorKind := .of e.status

def text (e : ServerError) : String :=
  match e.errorType with
  | some errorType => e.status.text ++ " (" ++ errorType ++ "): " ++ e.message
  | none => e.status.text ++ ": " ++ e.message

end ServerError

/-- Why an answer ends a call: another node would not help. -/
inductive Fault where
  | rejected (error : ServerError)
  | unreadable (url : Url) (cause : CommandError)
  | noRequest (cause : CommandError)
  /-- An answer from this url confirms a cached one that there is not. -/
  | unconfirmed (url : Url)
  | noClient
  deriving DecidableEq, Repr

namespace Fault

def message : Fault → String
  | .rejected e => "The server rejected the request: " ++ e.text
  | .unreadable url _ => "Unable to parse the response of " ++ url.text
  | .noRequest _ => "Unable to create the request"
  | .unconfirmed url => url.text ++ " answered 304 to a request without a cached response"
  | .noClient => "builder error"

def causes : Fault → List String
  | .unreadable _ cause | .noRequest cause => cause.message :: cause.causes
  | .rejected _ | .unconfirmed _ | .noClient => []

end Fault

inductive FailureReason where
  | transport (failure : TransportFailure)
  /-- There was no answer in the time allowed. -/
  | expired (limit : Duration)
  | serverFailed (error : ServerError)
  /-- What ends other calls only rules out this node. -/
  | fault (fault : Fault)
  deriving DecidableEq, Repr

def FailureReason.message : FailureReason → String
  | .transport failure => failure.message
  | .expired limit => "timed out after " ++ limit.text
  | .serverFailed e => e.text
  | .fault f => f.message

structure NodeFailure where
  url : Url
  reason : FailureReason
  deriving DecidableEq, Repr

namespace NodeFailure

def text (f : NodeFailure) : String := f.url.text ++ ": " ++ f.reason.message

def listText (failures : List NodeFailure) : String :=
  String.join (failures.map fun f => "\n\t" ++ f.text)

end NodeFailure

inductive ExecutorError where
  | allNodesUnreachable (failures : List NodeFailure)
  | topologyUnavailable (failures : List NodeFailure)
  | fault (fault : Fault)
  | timeout (limit : Duration)
  | nodeNotFound (tag : String)
  | emptyTopology
  | disposed
  /-- Another call did not finish the first fetch of the topology in time. -/
  | initialFetchTimedOut
  /-- A time that had to be computed is out of range. -/
  | overflow (cause : TimeError)
  deriving DecidableEq, Repr

namespace ExecutorError

def message : ExecutorError → String
  | .allNodesUnreachable failures =>
    "All " ++ toString failures.length ++ " nodes of the topology are unreachable:"
      ++ NodeFailure.listText failures
  | .topologyUnavailable failures =>
    "Unable to fetch the topology from any of " ++ toString failures.length ++ " nodes:"
      ++ NodeFailure.listText failures
  | .fault f => f.message
  | .timeout limit => "The request did not complete within " ++ limit.text
  | .nodeNotFound tag => "No node with cluster tag `" ++ tag ++ "` in the topology"
  | .emptyTopology => "The topology has no nodes"
  | .disposed => "The request executor has been disposed"
  | .initialFetchTimedOut => "Timed out waiting for the initial topology update"
  | .overflow _ => "A time is out of range"

def causes : ExecutorError → List String
  | .fault f => f.causes
  | _ => []

def failures : ExecutorError → List NodeFailure
  | .allNodesUnreachable failures | .topologyUnavailable failures => failures
  | _ => []

end ExecutorError

end ClusterClient
