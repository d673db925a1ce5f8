import ClusterClient.Json.Record
/-!
# Balancing reads

Where reads go first, and the settings by which a server overrides that for the clients of a
database.
-/

namespace ClusterClient

/-- How reads are spread across the nodes of a topology. -/
inductive ReadBalance where
  | none
  /-- To the node of the session, or to each node in turn. -/
  | roundRobin
  /-- To the node that answered the last speed test first. -/
  | fastestNode
  deriving DecidableEq, Repr

structure ClientConfiguration where
  disabled : Bool := false
  readBalance : Option ReadBalance := none
  maxRequestsPerSession : Option Nat := none
  deriving DecidableEq, Repr

/-- How reads are to be balanced, if the configuration is in force and says so. -/
def ClientConfiguration.readBalanceOverride (c : ClientConfiguration) : Option ReadBalance :=
  if c.disabled then none else c.readBalance

/-- A version of the configuration, which may be to have none. -/
structure ConfigurationVersion where
  etag : Int
  configuration : Option ClientConfiguration
  deriving DecidableEq, Repr

namespace ConfigurationVersion

def unknown : ConfigurationVersion := ⟨-1, none⟩

/-- The newer of two versions; of two with one number the first. -/
def latest (current incoming : ConfigurationVersion) : ConfigurationVersion :=
  if current.etag < incoming.etag then incoming else current

def readBalance (v : ConfigurationVersion) (default : ReadBalance) : ReadBalance :=
  (v.configuration.bind ClientConfiguration.readBalanceOverride).getD default

end ConfigurationVersion

def Json.Reader.readBalance : Json.Reader ReadBalance :=
  Json.Reader.choice
    [("None", .none), ("RoundRobin", .roundRobin), ("FastestNode", .fastestNode)]

/-- Reads a configuration. Every field may be missing. -/
def Json.Reader.clientConfiguration : Json.Reader ClientConfiguration := fun tree => do
  let r ← Json.Record.ofTree?
    ["Disabled", "ReadBalanceBehavior", "MaxNumberOfRequestsPerSession"] tree
  let disabled ← r.defaulted "Disabled" .bool false
  let readBalance ← r.defaulted "ReadBalanceBehavior" (.nullable .readBalance) none
  let maxRequests ← r.defaulted "MaxNumberOfRequestsPerSession"
    (.nullable (.integer 0 (UInt32.size - 1))) none
  pure { disabled, readBalance, maxRequestsPerSession := maxRequests.map Int.toNat }

def Json.Reader.configurationVersion : Json.Reader ConfigurationVersion := fun tree => do
  let r ← Json.Record.ofTree? ["Etag", "Configuration"] tree
  let etag ← r.required "Etag" .int64
  let configuration ← r.nullable "Configuration" .clientConfiguration
  pure { etag, configuration }

end ClusterClient
