import ClusterClient.Topology.Basic
/-!
# The topology of a database

What a node answers when it is asked who serves a database.
-/

namespace ClusterClient

structure DatabaseTopology where
  etag : Int
  nodes : List Node
  deriving DecidableEq, Repr

namespace DatabaseTopology

/-- A node with the database it serves filled in where the server left it out. -/
def fill (database : String) (node : Node) : Node :=
  if node.database.isEmpty then { node with database } else node

/-- The topology, with `database` as the database of nodes that name none. -/
def toTopology (t : DatabaseTopology) (database : String) : Topology :=
  .ofNodes t.etag (t.nodes.map (fill database))

end DatabaseTopology

def Json.Reader.databaseTopology : Json.Reader DatabaseTopology := fun tree => do
  let r ← Json.Record.ofTree? ["Etag", "Topology"] tree
  let etag ← r.required "Etag" .int64
  let nodes ← r.required "Topology" fun tree => do
    let r ← Json.Record.ofTree? ["Nodes"] tree
    r.defaulted "Nodes" (.list .node) []
  pure { etag, nodes }

end ClusterClient
