import ClusterClient.Json.Record
import ClusterClient.Url.Parser
/-!
# Nodes

A node is one server endpoint. Two nodes are the same when they share url and database; tag and role
describe them and may change from one topology to the next.
-/

namespace ClusterClient

inductive Role where
  | none
  | promotable
  | member
  | rehab
  deriving DecidableEq, Repr

/-- One addressable server endpoint. -/
structure Node where
  url : Url
  database : String
  tag : String := ""
  role : Role := .none
  deriving DecidableEq, Repr

namespace Node

/-- What decides whether two nodes are the same. -/
abbrev Key := Url × String

def key (node : Node) : Key := (node.url, node.database)

def isSame (a b : Node) : Bool := a.key == b.key

/-- The node's url as a directory, so that what is joined to it goes below its path. The slash that
makes it one is put at the end of the whole url. -/
def baseUrl (node : Node) : Except Url.ParseError Url :=
  if node.url.path.endsWith "/" then .ok node.url else Url.parse (node.url.text ++ "/")

/-- The url of a path below the node's url. Slashes at its front are ignored. -/
def endpoint (node : Node) (path : String) : Except Url.ParseError Url := do
  (← node.baseUrl).join (String.ofList (path.toList.dropWhile (· == '/')))

end Node

def Json.Reader.url : Json.Reader Url := fun tree =>
  (Json.Reader.string tree).bind fun text => (Url.parse text).toOption

def Json.Reader.role : Json.Reader Role :=
  Json.Reader.choice
    [("None", .none), ("Promotable", .promotable), ("Member", .member), ("Rehab", .rehab)]

def Json.Reader.node : Json.Reader Node := fun tree => do
  let r ← Json.Record.ofTree? ["Url", "Database", "ClusterTag", "ServerRole"] tree
  let url ← r.required "Url" .url
  let database ← r.defaulted "Database" .string ""
  let tag ← r.defaulted "ClusterTag" .string ""
  let role ← r.defaulted "ServerRole" .role .none
  pure { url, database, tag, role }

end ClusterClient
