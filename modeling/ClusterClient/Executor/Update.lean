import ClusterClient.Command.Service
import ClusterClient.Executor.Exchange
/-!
# Updating the topology

A sweep asks nodes one after the other for the topology until one has it. Sweeps never overlap:
whoever wants one first takes the lock, and who waited for the lock while a sweep ended is content
with what that sweep came to.
-/

namespace ClusterClient

structure Sweep where
  /-- How long each node may take. -/
  limit : Option Duration
  rest : List Node
  failures : List NodeFailure
  flight : Flight Topology

structure SweepOrder where
  nodes : List Node
  /-- Whether a sweep that ended meanwhile is not good enough. -/
  force : Bool
  limit : Option Duration
  /-- Whether there is nothing to do once the executor has a topology. -/
  onlyIfUninitialized : Bool

inductive Refresh where
  /-- Waiting for the lock, since so many sweeps had ended. -/
  | queued (order : SweepOrder) (observed : Nat)
  | sweeping (sweep : Sweep)

structure Update where
  /-- Whether it must leave the executor with a topology. -/
  isFirst : Bool
  refresh : Refresh

namespace Executor

def topologyCommand (x : Executor) : Command Topology :=
  match x.scope with
  | .database name =>
    Command.databaseTopology name
      (if x.conventions.sendApplicationId then some x.applicationId else none)
  | .cluster => Command.clusterTopology

def install (x : Executor) (topology : Topology) : Executor :=
  let (selector, accepted) := x.selector.update topology
  let x := { x with selector, initialized := true, stale := false }
  if accepted then x.emit (.topologyUpdated topology.etag topology.size) else x

/-- Ends a sweep: leaves what it came to for others and frees the lock. -/
def endSweep (x : Executor) (failures : Option (List NodeFailure)) (now : Instant) : Executor :=
  { x with lastSweep := some ⟨failures, now⟩, sweeps := x.sweeps + 1, lockHeld := false }

def unlock (x : Executor) : Executor := { x with lockHeld := false }

/-- Asks the first of these nodes that a request can be made for. -/
def ask (x : Executor) (limit : Option Duration) (failures : List NodeFailure) (now : Instant) :
    List Node → Executor × Progress Sweep (Except ExecutorError Bool)
  | [] => (x.endSweep (some failures) now, .done (.error (.topologyUnavailable failures)))
  | node :: rest =>
    match x.launch .topology x.topologyCommand node limit with
    | .ok (x, flight) => (x, .waiting { limit, rest, failures, flight })
    | .error fault => x.ask limit (failures ++ [⟨node.url, .fault fault⟩]) now rest

def advanceSweep (x : Executor) (s : Sweep) (signal : Signal) (now : Instant) :
    Executor × Progress Sweep (Except ExecutorError Bool) :=
  let failed := fun (x : Executor) reason =>
    x.ask s.limit (s.failures ++ [⟨s.flight.exchange.node.url, reason⟩]) now s.rest
  match x.advanceFlight s.flight signal now with
  | (x, .waiting flight) => (x, .waiting { s with flight })
  | (x, .done (.answered topology _ _)) =>
    ((x.install topology).endSweep none now, .done (.ok true))
  | (x, .done (.failed reason)) => failed x reason
  | (x, .done (.ended fault)) => failed x (.fault fault)

def lastOutcome (x : Executor) : Except ExecutorError Bool :=
  match x.lastSweep.bind (·.failures) with
  | some failures => .error (.topologyUnavailable failures)
  | none => .ok true

/-- Carries out a wish that was made when so many sweeps had ended, as soon as the lock is free. -/
def refreshLocked (x : Executor) (order : SweepOrder) (observed : Nat) (now : Instant) :
    Executor × Progress Refresh (Except ExecutorError Bool) :=
  if order.onlyIfUninitialized && x.initialized then (x, .done (.ok true))
  else if !order.force && x.sweeps != observed then (x, .done x.lastOutcome)
  else
    let (x, progress) := { x with lockHeld := true }.ask order.limit [] now order.nodes
    (x, progress.mapState .sweeping)

def refresh (x : Executor) (order : SweepOrder) (now : Instant) :
    Executor × Progress Refresh (Except ExecutorError Bool) :=
  if x.lockHeld then (x, .waiting (.queued order x.sweeps)) else x.refreshLocked order x.sweeps now

/-- Goes on with a wish for a sweep. Who does not get the lock in time goes without. -/
def advanceRefresh (x : Executor) (r : Refresh) (signal : Signal) (now : Instant) :
    Executor × Progress Refresh (Except ExecutorError Bool) :=
  match r, signal with
  | .queued order observed, .granted =>
    if x.lockHeld then (x, .waiting r) else x.refreshLocked order observed now
  | .queued _ _, .lockTimedOut => (x, .done (.ok false))
  | .queued _ _, _ => (x, .waiting r)
  | .sweeping sweep, signal =>
    let (x, progress) := x.advanceSweep sweep signal now
    (x, progress.mapState .sweeping)

/-- What an update came to once its wish was carried out. The first update has failed if there is
still no topology. -/
def judge (x : Executor) (isFirst : Bool) (result : Except ExecutorError Bool) :
    Except ExecutorError Bool :=
  if isFirst then
    result.bind fun _ => if x.initialized then .ok true else .error .initialFetchTimedOut
  else result

def updateOf (isFirst : Bool) :
    Executor × Progress Refresh (Except ExecutorError Bool) →
      Executor × Progress Update (Except ExecutorError Bool)
  | (x, progress) => (x, (progress.mapState (⟨isFirst, ·⟩)).map (x.judge isFirst))

def advanceUpdate (x : Executor) (u : Update) (signal : Signal) (now : Instant) :
    Executor × Progress Update (Except ExecutorError Bool) :=
  updateOf u.isFirst (x.advanceRefresh u.refresh signal now)

/-- The nodes that failed in the last sweep, if it failed and that was only just now. -/
def recentFailure? (x : Executor) (now : Instant) : Option (List NodeFailure) :=
  x.lastSweep.bind fun record =>
    if now - record.finishedAt < x.conventions.topologyFailureBackoff.nanos then record.failures
    else none

/-- Fetches the first topology from the urls the executor was made with, unless that failed only
just now. -/
def firstUpdate (x : Executor) (now : Instant) :
    Executor × Progress Update (Except ExecutorError Bool) :=
  if x.initialized then (x, .done (.ok true))
  else
    match x.recentFailure? now with
    | some failures => (x, .done (.error (.topologyUnavailable failures)))
    | none =>
      if x.seeds.isEmpty then (x, .done (.error .emptyTopology))
      else
        let order :=
          { nodes := x.seedNodes, force := false, limit := none, onlyIfUninitialized := true }
        updateOf true (x.refresh order now)

/-- The nodes a refresh asks: those of the topology, the healthy ones first, then the others the
executor was made with. -/
def refreshNodes (x : Executor) : List Node :=
  let known := (x.selector.plan true .none none).2.nodes
  x.seedNodes.foldl
    (fun nodes seed => if nodes.any (·.isSame seed) then nodes else nodes ++ [seed]) known

def refreshTopology (x : Executor) (force : Bool) (now : Instant) :
    Executor × Progress Update (Except ExecutorError Bool) :=
  if x.disposed || !x.updatesTopology then (x, .done (.ok false))
  else if !x.initialized then x.firstUpdate now
  else
    let order := { nodes := x.refreshNodes, force, limit := none, onlyIfUninitialized := false }
    updateOf false (x.refresh order now)

def updateTopology (x : Executor) (node : Node) (force : Bool)
    (limit : Option Duration) (now : Instant) :
    Executor × Progress Update (Except ExecutorError Bool) :=
  if x.disposed || !x.updatesTopology then (x, .done (.ok false))
  else
    let order := { nodes := [node], force, limit, onlyIfUninitialized := false }
    updateOf false (x.refresh order now)

def abandonRefresh (x : Executor) : Refresh → Executor
  | .queued _ _ => x
  | .sweeping _ => x.unlock

end Executor

end ClusterClient
