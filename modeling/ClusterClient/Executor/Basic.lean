import ClusterClient.Cache
import ClusterClient.Conventions
import ClusterClient.Executor.Error
import ClusterClient.Executor.Pool
import ClusterClient.Http.Message
import ClusterClient.Selector
/-!
# Executors

The state that all calls on one executor share: the nodes, the cache, the clients, how far the
topology is known, and what was asked of the background. Calls change it in steps between which
other calls may run.
-/

namespace ClusterClient

inductive Scope where
  | database (name : String)
  | cluster
  deriving DecidableEq, Repr

namespace Scope

def database? : Scope → Option String
  | .database name => some name
  | .cluster => none

def nodeDatabase (scope : Scope) : String := scope.database?.getD ""

def isDatabase (scope : Scope) : Bool := scope.database?.isSome

end Scope

/-- What listeners are told about calls. -/
inductive Event where
  | before (url : Url) (attempt : Nat)
  | succeeded (url : Url) (attempt : Nat) (status : Status)
  | failed (url : Url) (attempt : Nat) (reason : FailureReason)
  | topologyUpdated (etag : Int) (nodes : Nat)
  deriving DecidableEq, Repr

inductive Message where
  | firstUpdate
  | updateTopology (force : Bool)
  | updateConfiguration
  | speedTest
  deriving DecidableEq, Repr

/-- What came of the last round of asking nodes for the topology. -/
structure SweepRecord where
  /-- The nodes that failed; `none` if one of them had the topology. -/
  failures : Option (List NodeFailure)
  finishedAt : Instant
  deriving DecidableEq, Repr

inductive Purpose where
  | command
  | topology
  | probe
  deriving DecidableEq, Repr

structure Dispatch where
  purpose : Purpose
  node : Node
  wire : Wire
  /-- How long the answer may take before the caller of the request gives up on it. -/
  limit : Option Duration
  deriving DecidableEq, Repr

structure Executor where
  scope : Scope
  /-- By which servers recognise the executor. -/
  applicationId : String
  conventions : Conventions
  seeds : List Url
  selector : Selector
  cache : Cache
  pool : Pool
  /-- Whether some call is asking nodes for the topology. -/
  lockHeld : Bool := false
  /-- How many rounds of asking for the topology have ended. -/
  sweeps : Nat := 0
  lastSweep : Option SweepRecord := none
  initialized : Bool
  /-- Whether a call ran out of nodes since the topology was last fetched. -/
  stale : Bool := false
  configuration : ConfigurationVersion := .unknown
  disposed : Bool := false
  listening : Bool := true
  /-- Messages that the background has not come to, the first to come first. -/
  mailbox : List Message := []
  /-- The requests that left, the last one first. -/
  sent : List Dispatch := []
  /-- What listeners were told, the last event first. -/
  events : List Event := []
  deriving DecidableEq

/-- What a step sees of the world around it. -/
structure Moment where
  now : Instant
  /-- The random part of a pause, half of its base at most. -/
  jitter : Duration → Duration

/-- What became of something that may have to wait. -/
inductive Progress (σ ρ : Type) where
  | waiting (state : σ)
  | done (result : ρ)

namespace Progress

variable {σ τ ρ υ : Type}

def map (f : ρ → υ) : Progress σ ρ → Progress σ υ
  | .waiting state => .waiting state
  | .done result => .done (f result)

def mapState (f : σ → τ) : Progress σ ρ → Progress τ ρ
  | .waiting state => .waiting (f state)
  | .done result => .done result

end Progress

namespace Executor

/-- The tag of a node that is known by url only and never asked for its topology. -/
def standaloneTag : String := "!"

def seedNode (scope : Scope) (url : Url) : Node := { url, database := scope.nodeDatabase }

/-- The nodes an executor starts with: none when it will fetch them. -/
def initialTopology (scope : Scope) (seeds : List Url) (conventions : Conventions) : Topology :=
  if conventions.updatesTopology then .empty
  else .ofNodes 0 (seeds.map fun url => { seedNode scope url with tag := standaloneTag })

def mailboxCapacity : Nat := 8

/-- Puts a message to the background, unless it listens no more or has too many waiting. -/
def post (x : Executor) (message : Message) : Executor :=
  if x.listening && x.mailbox.length < mailboxCapacity then
    { x with mailbox := x.mailbox ++ [message] }
  else x

/-- A new executor. It asks the background for its first topology if it fetches any. -/
def new (scope : Scope) (applicationId : String) (seeds : List Url) (conventions : Conventions)
    (proxy : Option String) : Executor :=
  let x : Executor :=
    { scope, applicationId, conventions, seeds
      selector := { topology := initialTopology scope seeds conventions }
      cache := { capacity := conventions.maxCacheEntries }
      pool := { proxy }
      initialized := conventions.disableTopologyUpdates }
  if conventions.updatesTopology then x.post .firstUpdate else x

def topology (x : Executor) : Topology := x.selector.topology

def updatesTopology (x : Executor) : Bool := x.conventions.updatesTopology

def seedNodes (x : Executor) : List Node := x.seeds.map (seedNode x.scope)

def readBalance (x : Executor) : ReadBalance :=
  x.configuration.readBalance x.conventions.readBalance

def emit (x : Executor) (event : Event) : Executor := { x with events := event :: x.events }

def markFailed (x : Executor) (node : Node) : Executor :=
  { x with selector := x.selector.markFailed node }

def restore (x : Executor) (node : Node) : Executor :=
  { x with selector := x.selector.restore node }

/-- Gives up the clients and the cache, and stops the background. Only the first time counts. -/
def dispose (x : Executor) : Executor :=
  if x.disposed then x
  else { x with
    disposed := true
    listening := false
    mailbox := []
    pool := x.pool.clear
    cache := x.cache.clear }

def deafen (x : Executor) : Executor := { x with listening := false, mailbox := [] }

end Executor

end ClusterClient
