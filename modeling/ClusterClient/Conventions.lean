import ClusterClient.Backoff
import ClusterClient.ReadBalance
/-!
# Conventions

The settings of an executor, fixed once it is made.
-/

namespace ClusterClient

structure Conventions where
  /-- Reads are served from the cache alone while the entry is younger than this. -/
  aggressiveCacheDuration : Option Duration := none
  disableTopologyUpdates : Bool := false
  maxCacheEntries : Nat := 4096
  probeTimeout : Duration := .ofSeconds 2
  readBalance : ReadBalance := .fastestNode
  requestTimeout : Duration := .ofSeconds 30
  backoff : Backoff := .exponential (.ofMillis 50) (.ofSeconds 1)
  sendApplicationId : Bool := true
  speedTestInterval : Duration := .ofSeconds 60
  /-- After a refresh of the topology failed, calls do not start another for this long. -/
  topologyFailureBackoff : Duration := .ofSeconds 1
  topologyLockTimeout : Duration := .ofSeconds 30
  topologyRefreshInterval : Duration := .ofSeconds 300
  deriving DecidableEq, Repr

namespace Conventions

def minTimerInterval : Duration := .ofSeconds 1

def singleServer : Conventions := { disableTopologyUpdates := true, readBalance := .none }

/-- Sets the period of the speed tests, which is at least a second. -/
def withSpeedTestInterval (c : Conventions) (interval : Duration) : Conventions :=
  { c with speedTestInterval := max interval minTimerInterval }

def withTopologyRefreshInterval (c : Conventions) (interval : Duration) : Conventions :=
  { c with topologyRefreshInterval := max interval minTimerInterval }

def withoutTopologyUpdates (c : Conventions) : Conventions :=
  { c with disableTopologyUpdates := true }

def updatesTopology (c : Conventions) : Bool := !c.disableTopologyUpdates

end Conventions

end ClusterClient
