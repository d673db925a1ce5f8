import ClusterClient.Executor.System
import ClusterClient.Proofs.Executor.Asides
import Mathlib.Data.List.Forall2

/-!
# Wishes for a sweep

A wish for a sweep is made, waits for the lock, and sweeps unless there is no
need any more.  A `Report` says what a caller did about its wish in one step, as
it shows in the executor, and `Takes` lists the ways in which this can go.
-/

namespace ClusterClient

/-- How a caller comes to a wish for a sweep: it makes it, or goes on with it. -/
inductive Stage where
  | entering (order : SweepOrder)
  | under (refresh : Refresh) (signal : Signal)

namespace Stage

def refresh? : Stage → Option Refresh
  | .entering _ => none
  | .under refresh _ => some refresh

def entered? : Stage → Option SweepOrder
  | .entering order => some order
  | .under _ _ => none

def order? : Stage → Option SweepOrder
  | .entering order => some order
  | .under (.queued order _) _ => some order
  | .under (.sweeping _) _ => none

end Stage

namespace Progress

variable {σ ρ : Type}

def state? : Progress σ ρ → Option σ
  | .waiting state => some state
  | .done _ => none

def result? : Progress σ ρ → Option ρ
  | .waiting _ => none
  | .done result => some result

theorem state?_eq_some_iff {progress : Progress σ ρ} {state : σ} :
    progress.state? = some state ↔ progress = .waiting state := by
  cases progress <;> simp [state?]

end Progress

def Refresh.isSweeping : Refresh → Bool
  | .queued _ _ => false
  | .sweeping _ => true

/-- What a caller did about its wish for a sweep in one step. -/
structure Report where
  caller : Caller
  /-- The wish, if it was made now. -/
  entered : Option SweepOrder := none
  /-- The wish for which a sweep was begun: the lock was free and there was need of it. -/
  began : Option SweepOrder := none
  /-- The nodes that were asked for the topology. -/
  asked : List Node := []
  /-- What the sweep came to, if it ended: why each node failed, or the topology of one. -/
  ended : Option (Except (List NodeFailure) Topology) := none
  /-- What the caller got, if it need not wait any more. -/
  returned : Option (Except ExecutorError Bool) := none
  /-- The wish that the caller gave up. -/
  dropped : Option Refresh := none

def sweepResult : Except (List NodeFailure) Topology → Except ExecutorError Bool
  | .error failures => .error (.topologyUnavailable failures)
  | .ok _ => .ok true

namespace Executor

def carryOut (x : Executor) (now : Instant) : Stage →
    Executor × Progress Refresh (Except ExecutorError Bool)
  | .entering order => x.refresh order now
  | .under refresh signal => x.advanceRefresh refresh signal now

def fetched? (x : Executor) (now : Instant) : Stage → Option Topology
  | .under (.sweeping sweep) signal =>
    match (x.advanceFlight sweep.flight signal now).2 with
    | .done (.answered topology _ _) => some topology
    | _ => none
  | _ => none

/-- What a caller does with the lock shows in what the executor is like afterwards: whether the
sweeps are counted up, which requests left, and whether the caller goes on sweeping. -/
def report (x : Executor) (caller : Caller) (now : Instant) (stage : Stage) : Report :=
  let (y, progress) := x.carryOut now stage
  let isOver := y.sweeps != x.sweeps
  { caller
    entered := stage.entered?
    began := if isOver || progress.state?.any Refresh.isSweeping then stage.order? else none
    asked := (y.sent.take (y.sent.length - x.sent.length)).reverse.map (·.node)
    ended :=
      if isOver then
        match x.fetched? now stage with
        | some topology => some (.ok topology)
        | none => (y.lastSweep.bind (·.failures)).map .error
      else none
    returned := progress.result? }

end Executor

/-! ## What a step can come to -/

def Missed (command : Command Topology) (node : Node) (failure : NodeFailure) : Prop :=
  failure = ⟨node.url, .fault .noClient⟩ ∨
    ∃ cause, command.request node = .error cause ∧ failure = ⟨node.url, .fault (.noRequest cause)⟩

structure Flight.Asks (f : Flight Topology) (command : Command Topology) (node : Node) : Prop where
  command : f.exchange.command = command
  node : f.exchange.node = node
  key : f.exchange.key = none

namespace Knowledge

def topologyCommand (k : Knowledge) : Command Topology :=
  match k.scope with
  | .database name =>
    Command.databaseTopology name
      (if k.conventions.sendApplicationId then some k.applicationId else none)
  | .cluster => Command.clusterTopology

def lock (k : Knowledge) : Knowledge := { k with lockHeld := true }

def unlock (k : Knowledge) : Knowledge := { k with lockHeld := false }

def count (k : Knowledge) (failures : Option (List NodeFailure)) (now : Instant) : Knowledge :=
  { k with lastSweep := some ⟨failures, now⟩, sweeps := k.sweeps + 1, lockHeld := false }

def learn (k : Knowledge) (topology : Topology) : Knowledge :=
  { k with
    topology := if k.topology.isSupersededBy topology then topology else k.topology
    initialized := true }

def lastOutcome (k : Knowledge) : Except ExecutorError Bool :=
  match k.lastSweep.bind (·.failures) with
  | some failures => .error (.topologyUnavailable failures)
  | none => .ok true

/-- What a caller gets in place of a sweep once it has the lock, if there is no need of one. -/
def spared? (k : Knowledge) (order : SweepOrder) (observed : Nat) :
    Option (Except ExecutorError Bool) :=
  if order.onlyIfUninitialized && k.initialized then some (.ok true)
  else if !order.force && k.sweeps != observed then some k.lastOutcome
  else none

end Knowledge

/-- A wish that was made now, or that has waited for the lock, is to be carried out. -/
structure Due (k : Knowledge) (order : SweepOrder) (before : Option Refresh)
    (entered : Option SweepOrder) : Prop where
  free : k.lockHeld = false
  onlyIf : order.onlyIfUninitialized = true → k.initialized = false
  place : (before = none ∧ entered = some order) ∨
    ∃ observed, before = some (.queued order observed) ∧ entered = none ∧
      (order.force = false → k.sweeps = observed)

/-- The ways in which a caller can go on with its wish for a sweep: what was under way before, what
the executor knows afterwards, what is under way then, and what there is to report. -/
inductive Takes (command : Command Topology) (k : Knowledge) (now : Instant) (caller : Caller) :
    Option Refresh → Knowledge → Option Refresh → Report → Prop where
  | joins {order : SweepOrder} (held : k.lockHeld = true)
      (onlyIf : order.onlyIfUninitialized = true → k.initialized = false) :
    Takes command k now caller none k (some (.queued order k.sweeps))
      { caller, entered := some order }
  | waits {order : SweepOrder} {observed : Nat} :
    Takes command k now caller (some (.queued order observed)) k (some (.queued order observed))
      { caller }
  | timesOut {order : SweepOrder} {observed : Nat} :
    Takes command k now caller (some (.queued order observed)) k none
      { caller, returned := some (.ok false) }
  | spares {order : SweepOrder} {observed : Nat} {result : Except ExecutorError Bool}
      (free : k.lockHeld = false) (spared : k.spared? order observed = some result) :
    Takes command k now caller (some (.queued order observed)) k none
      { caller, returned := some result }
  | begins {before : Option Refresh} {entered : Option SweepOrder} {order : SweepOrder}
      {skipped rest : List Node} {node : Node} {missed : List NodeFailure}
      {flight : Flight Topology}
      (due : Due k order before entered) (nodes : order.nodes = skipped ++ node :: rest)
      (passed : List.Forall₂ (Missed command) skipped missed) (asks : flight.Asks command node) :
    Takes command k now caller before k.lock
      (some (.sweeping ⟨order.limit, rest, missed, flight⟩))
      { caller, entered, began := some order, asked := [node] }
  | beginsInVain {before : Option Refresh} {entered : Option SweepOrder} {order : SweepOrder}
      {missed : List NodeFailure} (due : Due k order before entered)
      (passed : List.Forall₂ (Missed command) order.nodes missed) :
    Takes command k now caller before (k.count (some missed) now) none
      { caller, entered, began := some order, ended := some (.error missed)
        returned := some (.error (.topologyUnavailable missed)) }
  | stays {sweep : Sweep} {flight : Flight Topology}
      (same : flight.exchange = sweep.flight.exchange) :
    Takes command k now caller (some (.sweeping sweep)) k (some (.sweeping { sweep with flight }))
      { caller }
  | goesOn {sweep : Sweep} {reason : FailureReason} {skipped rest : List Node} {node : Node}
      {missed : List NodeFailure} {flight : Flight Topology}
      (nodes : sweep.rest = skipped ++ node :: rest)
      (passed : List.Forall₂ (Missed command) skipped missed) (asks : flight.Asks command node) :
    Takes command k now caller (some (.sweeping sweep)) k
      (some (.sweeping ⟨sweep.limit, rest,
        sweep.failures ++ ⟨sweep.flight.exchange.node.url, reason⟩ :: missed, flight⟩))
      { caller, asked := [node] }
  | fails {sweep : Sweep} {reason : FailureReason} {missed failures : List NodeFailure}
      (passed : List.Forall₂ (Missed command) sweep.rest missed)
      (all : failures = sweep.failures ++ ⟨sweep.flight.exchange.node.url, reason⟩ :: missed) :
    Takes command k now caller (some (.sweeping sweep)) (k.count (some failures) now) none
      { caller, ended := some (.error failures)
        returned := some (.error (.topologyUnavailable failures)) }
  | fetches {sweep : Sweep} {topology : Topology} :
    Takes command k now caller (some (.sweeping sweep)) ((k.learn topology).count none now) none
      { caller, ended := some (.ok topology), returned := some (.ok true) }
  | drops {refresh : Refresh} :
    Takes command k now caller (some refresh) (if refresh.isSweeping then k.unlock else k) none
      { caller, dropped := some refresh }

end ClusterClient
