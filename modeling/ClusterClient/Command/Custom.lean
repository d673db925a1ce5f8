import ClusterClient.Command.Basic
import ClusterClient.ReadBalance
import ClusterClient.Topology.Basic
/-!
# Commands given as data

A custom command says in data what its request is, how its answer is read and which of the usual
properties of commands it overrides. What any command gives back is an answer.
-/

namespace ClusterClient

inductive Answer where
  | document (value : Json)
  | topology (value : Topology)
  | configuration (value : ConfigurationVersion)
  /-- The command was carried out and there is nothing more to say. -/
  | done
  | body (bytes : Bytes) (fromCache : Bool)
  /-- The announced length of an answer that the command took itself. -/
  | taken (length : Option Nat)
  deriving Repr

namespace Command

inductive Reading where
  | document
  | refused
  | raw
  deriving DecidableEq, Repr

structure Custom where
  failure : Option String := none
  method : String := "GET"
  path : String := ""
  document : Option Json := none
  /-- Set one after the other, after those of the document. -/
  headers : Headers := []
  reading : Reading := .raw
  isRead : Bool := true
  /-- Whether answers may be cached, if that does not go by whether the command reads. -/
  canCache : Option Bool := none
  aggressiveCacheDuration : Option Duration := none
  raftRequestId : Option String := none
  nodeTag : Option String := none
  timeout : Option Duration := none
  disposal : Disposal := .automatic
  takes : Bool := false
  deriving Repr

namespace Custom

def request (c : Custom) (node : Node) : Except CommandError Request :=
  match c.failure with
  | some text => .error (.unexpected text)
  | none => do
    let bare : Request := { method := c.method, url := ← endpoint node c.path }
    let plain := (c.document.map bare.withJson).getD bare
    pure <| c.headers.foldl
      (fun r (name, value) => { r with headers := r.headers.set name value }) plain

def parse (c : Custom) (bytes : Bytes) (fromCache : Bool) : Except CommandError Answer :=
  match c.reading with
  | .document => (readJson Json.Tree.document? bytes).map .document
  | .refused => .error (.unexpected "refused to parse")
  | .raw => .ok (.body bytes fromCache)

def command (c : Custom) : Command Answer :=
  let base : Command Answer :=
    { request := c.request
      parse := c.parse
      isRead := c.isRead
      canCache := c.canCache.getD c.isRead
      aggressiveCacheDuration := c.aggressiveCacheDuration
      raftRequestId := c.raftRequestId
      nodeTag := c.nodeTag
      timeout := c.timeout
      disposal := c.disposal }
  if c.takes then { base with take := fun head => .ok (.taken head.contentLength) } else base

end Custom

end Command

end ClusterClient
