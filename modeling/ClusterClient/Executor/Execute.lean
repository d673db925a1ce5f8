import ClusterClient.Executor.Update
/-!
# Executing commands

A call makes sure that the nodes are known, plans in which order to try them, and tries them one
after the other until one gives a result or a fault ends the call. Nodes that fail are marked and
the call that fails on all of them leaves word that the topology is out of date.
-/

namespace ClusterClient

structure Options where
  /-- The session whose reads stay together. -/
  session : Option Int := none
  noCaching : Bool := false
  /-- How long the whole call may take. -/
  deadline : Option Duration := none
  deriving DecidableEq, Repr

structure Executed (α : Type) where
  result : α
  /-- Absent when no node was asked. -/
  status : Option Status
  node : Node
  fromCache : Bool
  attempts : Nat

/-- How far a call has come among the nodes of its plan. -/
structure Trail where
  attempt : Nat
  rest : List Node
  failures : List NodeFailure

inductive Phase (α : Type) where
  | ensuring (update : Update)
  | pausing (trail : Trail) (exchange : Exchange α) (pause : Duration)
  | flying (trail : Trail) (flight : Flight α)

structure Execution (α : Type) where
  command : Command α
  options : Options
  phase : Phase α

namespace Executor

variable {α : Type}

abbrev Next (α : Type) := Executor × Progress (Phase α) (Except ExecutorError (Executed α))

def beginAttempt (x : Executor) (t : Trail) (e : Exchange α) : Next α :=
  let url := e.request.url
  let x := x.emit (.before url t.attempt)
  match x.send .command e none with
  | .ok (x, flight) => (x, .waiting (.flying t flight))
  | .error fault => (x.emit (.failed url t.attempt (.fault fault)), .done (.error (.fault fault)))

/-- The cached answer that is young enough to stand for a new one. -/
def youngAnswer? (x : Executor) (e : Exchange α) (now : Instant) : Option Cache.Entry := do
  let window ← e.command.aggressiveCacheDuration <|> x.conventions.aggressiveCacheDuration
  let entry ← e.cached
  if entry.age now < window.nanos then some entry else none

def serveCached (e : Exchange α) (entry : Cache.Entry) (attempts : Nat) :
    Except ExecutorError (Executed α) :=
  match e.command.parse entry.payload true with
  | .ok result => .ok { result, status := none, node := e.node, fromCache := true, attempts }
  | .error cause => .error (.fault (.unreadable e.request.url cause))

def attempt (x : Executor) (command : Command α) (options : Options) (number : Nat)
    (failures : List NodeFailure) (nodes : List Node) (m : Moment) : Next α :=
  match nodes with
  | [] => ({ x with stale := true }, .done (.error (.allNodesUnreachable failures)))
  | node :: rest =>
    match x.prepare command node options.noCaching with
    | .error cause => (x, .done (.error (.fault (.noRequest cause))))
    | .ok e =>
      match x.youngAnswer? e m.now with
      | some entry => (x, .done (serveCached e entry (number - 1)))
      | none =>
        match x.conventions.backoff.delayBefore number m.jitter with
        | .error cause => (x, .done (.error (.overflow cause)))
        | .ok pause =>
          let trail := { attempt := number, rest, failures }
          if pause = .zero then x.beginAttempt trail e else (x, .waiting (.pausing trail e pause))

/-- The nodes a call may go to, in order: the one it is tied to, or those of a plan. -/
def route (x : Executor) (command : Command α) (session : Option Int) :
    Executor × Except ExecutorError (List Node) :=
  match command.nodeTag with
  | some tag =>
    match x.selector.taggedNode? tag with
    | some (_, node) => (x, .ok [node])
    | none => (x, .error (.nodeNotFound tag))
  | none =>
    let (selector, plan) := x.selector.plan command.isRead x.readBalance session
    ({ x with selector }, if plan.nodes.isEmpty then .error .emptyTopology else .ok plan.nodes)

def follow (x : Executor) (command : Command α) (options : Options) (m : Moment) : Next α :=
  match x.route command options.session with
  | (x, .error e) => (x, .done (.error e))
  | (x, .ok nodes) => x.attempt command options 1 [] nodes m

def concludeAttempt (x : Executor) (c : Execution α) (t : Trail)
    (e : Exchange α) (outcome : Outcome α)
    (m : Moment) : Next α :=
  let url := e.request.url
  match outcome with
  | .answered result status fromCache =>
    let x := (x.restore e.node).emit (.succeeded url t.attempt status)
    (x, .done (.ok
      { result, status := some status, node := e.node, fromCache, attempts := t.attempt }))
  | .ended fault => (x.emit (.failed url t.attempt (.fault fault)), .done (.error (.fault fault)))
  | .failed reason =>
    let x := (x.markFailed e.node).emit (.failed url t.attempt reason)
    x.attempt c.command c.options (t.attempt + 1) (t.failures ++ [⟨e.node.url, reason⟩]) t.rest m

/-- Only a call that has no topology at all fails when an update does. -/
def afterUpdate (isFirst : Bool) : Except ExecutorError Bool → Except ExecutorError Unit
  | .error e => if isFirst then .error e else .ok ()
  | .ok _ => .ok ()

/-- Fetches the topology if there is none, or if it is out of date and the last attempt to renew it
did not fail only just now. -/
def ensureTopology (x : Executor) (now : Instant) :
    Executor × Progress Update (Except ExecutorError Unit) :=
  if !x.initialized then
    let (x, progress) := x.firstUpdate now
    (x, progress.map (afterUpdate true))
  else if x.stale && x.updatesTopology && (x.recentFailure? now).isNone then
    let (x, progress) := x.refreshTopology false now
    (x, progress.map (afterUpdate false))
  else (x, .done (.ok ()))

def afterEnsuring (x : Executor) (command : Command α) (options : Options) (m : Moment) :
    Progress Update (Except ExecutorError Unit) → Next α
  | .waiting update => (x, .waiting (.ensuring update))
  | .done (.error e) => (x, .done (.error e))
  | .done (.ok ()) => x.follow command options m

def execute (x : Executor) (command : Command α) (options : Options) (m : Moment) : Next α :=
  if x.disposed then (x, .done (.error .disposed))
  else
    let (x, progress) := x.ensureTopology m.now
    x.afterEnsuring command options m progress

def advanceExecution (x : Executor) (c : Execution α) (signal : Signal) (m : Moment) : Next α :=
  match c.phase, signal with
  | .ensuring update, signal =>
    let (x, progress) := x.advanceUpdate update signal m.now
    x.afterEnsuring c.command c.options m (progress.map (afterUpdate update.isFirst))
  | .pausing trail e _, .resumed => x.beginAttempt trail e
  | .pausing _ _ _, _ => (x, .waiting c.phase)
  | .flying trail flight, signal =>
    match x.advanceFlight flight signal m.now with
    | (x, .waiting flight) => (x, .waiting (.flying trail flight))
    | (x, .done outcome) => x.concludeAttempt c trail flight.exchange outcome m

def abandonExecution (x : Executor) (c : Execution α) : Executor :=
  match c.phase with
  | .ensuring update => x.abandonRefresh update.refresh
  | .pausing _ _ _ | .flying _ _ => x

end Executor

end ClusterClient
