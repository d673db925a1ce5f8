import ClusterClient.Topology.Basic
/-!
# The topology of a cluster

What a node answers when it is asked about its cluster: the members by tag, in four groups that may
overlap, and who leads.
-/

namespace ClusterClient

inductive ElectionState where
  | undefined
  | passive
  | candidate
  | follower
  | leaderElect
  | leader
  deriving DecidableEq, Repr

/-- The nodes of a cluster, each group a table from tags to urls. -/
structure Membership where
  id : String := ""
  all : List (String × Url) := []
  members : List (String × Url) := []
  promotables : List (String × Url) := []
  watchers : List (String × Url) := []
  lastNodeId : String := ""
  etag : Int := 0
  deriving DecidableEq, Repr

structure ClusterTopology where
  membership : Membership := {}
  etag : Int := 0
  leader : String := ""
  nodeTag : String := ""
  state : ElectionState := .undefined
  term : Int := 0
  deriving DecidableEq, Repr

namespace Membership

def insertTag (tag : String) : List String → List String
  | [] => [tag]
  | t :: rest =>
    if tag < t then tag :: t :: rest else if tag = t then t :: rest else t :: insertTag tag rest

def tags (m : Membership) : List String :=
  ((m.all ++ m.members ++ m.promotables ++ m.watchers).map (·.1)).foldl
    (fun tags tag => insertTag tag tags) []

def find? (m : Membership) (tag : String) : Option (Url × Role) :=
  (m.members.lookup tag).map (·, Role.member)
    <|> (m.promotables.lookup tag).map (·, Role.promotable)
    <|> (m.watchers.lookup tag).map (·, Role.none)
    <|> (m.all.lookup tag).map (·, Role.none)

end Membership

namespace ClusterTopology

def moveToFront (tag : String) (tags : List String) : List String :=
  if tags.contains tag then tag :: tags.erase tag else tags

def node? (t : ClusterTopology) (tag : String) : Option Node :=
  (t.membership.find? tag).map fun (url, role) => { url, database := "", tag, role }

/-- The version: that of the report, or that of the membership where the report has none. -/
def version (t : ClusterTopology) : Int :=
  if t.etag ≠ 0 then t.etag else t.membership.etag

/-- The topology: the leader first, so that writes reach it at once, then the others by tag. -/
def toTopology (t : ClusterTopology) : Topology :=
  .ofNodes t.version ((moveToFront t.leader t.membership.tags).filterMap t.node?)

end ClusterTopology

def Json.Reader.electionState : Json.Reader ElectionState :=
  Json.Reader.choice
    [("Undefined", .undefined), ("Passive", .passive), ("Candidate", .candidate),
      ("Follower", .follower), ("Leader-Elect", .leaderElect), ("Leader", .leader)]

/-- Reads the nodes of a cluster. Every field may be missing. -/
def Json.Reader.membership : Json.Reader Membership := fun tree => do
  let r ← Json.Record.ofTree?
    ["TopologyId", "AllNodes", "Members", "Promotables", "Watchers", "LastNodeId", "Etag"] tree
  let id ← r.defaulted "TopologyId" .string ""
  let all ← r.defaulted "AllNodes" (.entries .url) []
  let members ← r.defaulted "Members" (.entries .url) []
  let promotables ← r.defaulted "Promotables" (.entries .url) []
  let watchers ← r.defaulted "Watchers" (.entries .url) []
  let lastNodeId ← r.defaulted "LastNodeId" .string ""
  let etag ← r.defaulted "Etag" .int64 0
  pure { id, all, members, promotables, watchers, lastNodeId, etag }

def Json.Reader.clusterTopology : Json.Reader ClusterTopology := fun tree => do
  let r ← Json.Record.ofTree?
    ["Topology", "Etag", "Leader", "NodeTag", "CurrentState", "CurrentTerm"] tree
  let membership ← r.defaulted "Topology" .membership {}
  let etag ← r.defaulted "Etag" .int64 0
  let leader ← r.defaulted "Leader" .string ""
  let nodeTag ← r.defaulted "NodeTag" .string ""
  let state ← r.defaulted "CurrentState" .electionState .undefined
  let term ← r.defaulted "CurrentTerm" .int64 0
  pure { membership, etag, leader, nodeTag, state, term }

end ClusterClient
