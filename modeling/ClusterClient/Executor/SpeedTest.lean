import ClusterClient.Command.Service
import ClusterClient.Executor.Exchange
/-!
# Speed tests

All nodes of a topology are probed at once. Who answers at all is healthy, who does not is marked,
and where reads prefer the fastest node the quickest answer decides which that is.
-/

namespace ClusterClient

inductive Probing where
  | underWay (flight : Flight Unit)
  /-- How long the node took, if it answered. -/
  | settled (elapsed : Option Duration)

structure Trial where
  node : Node
  startedAt : Instant
  state : Probing

structure SpeedTest where
  /-- The version of the topology whose nodes are tested. -/
  etag : Int
  trials : List Trial

def SpeedTest.results? (t : SpeedTest) : Option (List Selector.Probe) :=
  t.trials.mapM fun trial =>
    match trial.state with
    | .settled elapsed => some (trial.node, elapsed)
    | .underWay _ => none

namespace Executor

/-- Whether an outcome shows that a node is there. -/
def showsLife : Outcome Unit → Bool
  | .answered _ _ _ => true
  | .ended (.rejected _) => true
  | .ended _ | .failed _ => false

def beginTrial (x : Executor) (node : Node) (now : Instant) : Executor × Trial :=
  let limit := x.conventions.probeTimeout
  match x.launch .probe (Command.probe limit) node (some limit) with
  | .ok (x, flight) => (x, ⟨node, now, .underWay flight⟩)
  | .error _ => (x, ⟨node, now, .settled none⟩)

def beginTrials (x : Executor) (now : Instant) : List Node → Executor × List Trial
  | [] => (x, [])
  | node :: nodes =>
    let (x, trial) := x.beginTrial node now
    let (x, trials) := x.beginTrials now nodes
    (x, trial :: trials)

def concludeTest (x : Executor) (t : SpeedTest) :
    Executor × Progress SpeedTest (Except ExecutorError Unit) :=
  match t.results? with
  | none => (x, .waiting t)
  | some results =>
    let (selector, fastest) :=
      x.selector.applySpeedTest t.etag results (x.readBalance == .fastestNode)
    ({ x with selector }, .done ((fastest.mapError .overflow).map fun _ => ()))

def speedTest (x : Executor) (now : Instant) :
    Executor × Progress SpeedTest (Except ExecutorError Unit) :=
  if x.disposed || x.topology.isEmpty then (x, .done (.ok ()))
  else
    let etag := x.topology.etag
    let (x, trials) := x.beginTrials now x.topology.nodes
    x.concludeTest { etag, trials }

def advanceTrial (x : Executor) (t : Trial) (signal : Signal) (now : Instant) : Executor × Trial :=
  match t.state with
  | .settled _ => (x, t)
  | .underWay flight =>
    match x.advanceFlight flight signal now with
    | (x, .waiting flight) => (x, { t with state := .underWay flight })
    | (x, .done outcome) =>
      let elapsed := if showsLife outcome then some (Duration.ofNanos (now - t.startedAt)) else none
      (x, { t with state := .settled elapsed })

def advanceTrials (x : Executor) (signal : Signal) (now : Instant) :
    List Trial → Executor × List Trial
  | [] => (x, [])
  | trial :: trials =>
    let (x, trial) := x.advanceTrial trial signal now
    let (x, trials) := x.advanceTrials signal now trials
    (x, trial :: trials)

def advanceTest (x : Executor) (t : SpeedTest) (signal : Signal) (now : Instant) :
    Executor × Progress SpeedTest (Except ExecutorError Unit) :=
  let (x, trials) := x.advanceTrials signal now t.trials
  x.concludeTest { t with trials }

end Executor

end ClusterClient
