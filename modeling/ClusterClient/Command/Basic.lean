import ClusterClient.Http.Message
import ClusterClient.Topology.Node
/-!
# Commands

A command knows how to ask a node for something and how to read the answer. What it says about
itself decides where it may be sent and whether its answers may be cached.
-/

namespace ClusterClient

def chainText (message : String) (causes : List String) : String :=
  message ++ "\n\n" ++ String.join (causes.map fun cause => "Caused by:\n\t" ++ cause ++ "\n")

inductive CommandError where
  | invalidUrl (cause : Url.ParseError)
  /-- A JSON text is malformed or is not what it should be. -/
  | serialization
  | unexpected (text : String)
  deriving DecidableEq, Repr

namespace CommandError

def jsonFault : String := "<json error>"

def message : CommandError → String
  | .invalidUrl _ => "Unable to build the request url"
  | .serialization => "Unable to (de)serialize the command payload"
  | .unexpected text => text

def causes : CommandError → List String
  | .invalidUrl cause => [cause.message]
  | .serialization => [jsonFault]
  | .unexpected _ => []

end CommandError

/-- Who reads the body of an answer. -/
inductive Disposal where
  | automatic
  /-- The command takes the answer before its body is read. Such answers are never cached. -/
  | manual
  deriving DecidableEq, Repr

structure Command (α : Type) where
  request : Node → Except CommandError Request
  /-- The result in a body, which may have come from the cache. -/
  parse : Bytes → Bool → Except CommandError α
  /-- Reads may go to any node and may be cached. -/
  isRead : Bool
  canCache : Bool := isRead
  /-- The result may come from the cache alone while the entry is younger than this. -/
  aggressiveCacheDuration : Option Duration := none
  /-- The same in every request of the command, so that a repeated write counts once. -/
  raftRequestId : Option String := none
  nodeTag : Option String := none
  timeout : Option Duration := none
  disposal : Disposal := .automatic
  take : ResponseHead → Except CommandError α := fun _ =>
    .error (.unexpected "Command declared manual response disposal but does not take the response")

namespace Command

variable {α β : Type}

/-- Whether answers are cached: reads that may be cached and whose body is read for them. -/
def isCacheable (c : Command α) : Bool :=
  c.isRead && c.canCache && c.disposal == .automatic

def map (f : α → β) (c : Command α) : Command β where
  request := c.request
  parse := fun body fromCache => (c.parse body fromCache).map f
  isRead := c.isRead
  canCache := c.canCache
  aggressiveCacheDuration := c.aggressiveCacheDuration
  raftRequestId := c.raftRequestId
  nodeTag := c.nodeTag
  timeout := c.timeout
  disposal := c.disposal
  take := fun head => (c.take head).map f

def endpoint (node : Node) (path : String) : Except CommandError Url :=
  (node.endpoint path).mapError .invalidUrl

def readJson (reader : Json.Reader α) (body : Bytes) : Except CommandError α :=
  match (Json.Tree.parse? body).bind reader with
  | some value => .ok value
  | none => .error .serialization

end Command

def Request.withJson (r : Request) (document : Json) : Request :=
  { r with
    body := some (Bytes.ofString document.compact)
    headers := r.headers.set Headers.contentType (Bytes.ofString "application/json") }

end ClusterClient
