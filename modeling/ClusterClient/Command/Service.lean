import ClusterClient.Command.Basic
import ClusterClient.ReadBalance
import ClusterClient.Topology.Cluster
import ClusterClient.Topology.Database
import ClusterClient.Url.Form
/-!
# Commands on the service itself

Creating a database, and what an executor asks on its own account: topologies, the configuration
for clients, and whether a node is there at all.
-/

namespace ClusterClient.Command

def createDatabase (name : String) (replicationFactor : Nat) (raftRequestId : String) :
    Command Json where
  request node := do
    let url ← endpoint node "admin/databases"
    let parameters := [("name", name), ("replicationFactor", toString replicationFactor)]
    let record := Json.object [("DatabaseName", .string name), ("Disabled", .bool false)]
    pure ({ method := "PUT", url := url.addParameters parameters : Request }.withJson record)
  parse body _ := readJson Json.Tree.document? body
  isRead := false
  raftRequestId := some raftRequestId

/-- Fetches the topology of a database. The application makes itself known if it has an id. -/
def databaseTopology (database : String) (applicationId : Option String) : Command Topology where
  request node := do
    let url ← endpoint node "topology"
    let id := (applicationId.map (("applicationIdentifier", ·))).toList
    pure (.get (url.addParameters (("name", database) :: id)))
  parse body _ := (readJson Json.Reader.databaseTopology body).map (·.toTopology database)
  isRead := true
  canCache := false

def clusterTopology : Command Topology where
  request node := do pure (.get (← endpoint node "cluster/topology"))
  parse body _ := (readJson Json.Reader.clusterTopology body).map (·.toTopology)
  isRead := true
  canCache := false

def configuration (database : String) : Command ConfigurationVersion where
  request node := do
    pure (.get (← endpoint node ("databases/" ++ database ++ "/configuration/client")))
  parse body _ := readJson Json.Reader.configurationVersion body
  isRead := true
  canCache := false

/-- Asks whether a node is there. Whatever it says counts. -/
def probe (limit : Duration) : Command Unit where
  request node := do pure (.get (← endpoint node "setup/alive"))
  parse _ _ := .ok ()
  isRead := true
  canCache := false
  timeout := some limit

end ClusterClient.Command
