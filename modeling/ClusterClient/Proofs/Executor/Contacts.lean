import ClusterClient.Proofs.Executor.Finishes

/-!
# Contacts with nodes

Every request that ends tells something of the node that it was for.  What it
tells of the health of the node depends on how it ended and what it was for.  The
results of a speed test are told all at once, when the last of them is there.
-/

namespace ClusterClient

variable {α β : Type}

inductive Verdict where
  | healthy
  | failing
  deriving DecidableEq, Repr

/-- An attempt of a call says that its node is well only if it has a result.  An answer that would
be the same elsewhere says nothing. -/
def Finish.verdictOnAttempt? : Finish → Option Verdict
  | .broken => some .failing
  | .answered status hasResult =>
    if status.isServerError then some .failing else if hasResult then some .healthy else none
  | .timedOut | .unsent => none

/-- A probe says that its node is well if there was an answer to it at all that is no failure. -/
def Finish.verdictOnProbe : Finish → Verdict
  | .broken | .timedOut | .unsent => .failing
  | .answered status _ =>
    if status.isServerError || status == .notModified then .failing else .healthy

structure Contact where
  purpose : Purpose
  node : Node
  finish : Finish
  deriving DecidableEq, Repr

/-- What a contact says of the health of its node.  Requests for the topology say nothing. -/
def Contact.verdict? (c : Contact) : Option Verdict :=
  match c.purpose with
  | .command => c.finish.verdictOnAttempt?
  | .probe => some c.finish.verdictOnProbe
  | .topology => none

abbrev Verdicts := List (Node.Key × Verdict)

def Contact.verdicts (judge : Contact → Option Verdict) (contacts : List Contact) : Verdicts :=
  contacts.filterMap fun c => (judge c).map (c.node.key, ·)

/-- What is known so far of a node that a speed test is about. -/
structure Finding where
  node : Node
  finish : Option Finish
  deriving DecidableEq, Repr

namespace Finding

def contact? (found : Finding) : Option Contact := found.finish.map (⟨.probe, found.node, ·⟩)

/-- A speed test is over once something is known of every node, and nothing is made of it before. -/
def conclude (found : List Finding) : List Contact := (found.mapM contact?).getD []

end Finding

/-! ## Contacts of calls -/

def Flight.contacts (purpose : Purpose) (f : Flight β) (cache : Cache) (signal : Signal) :
    List Contact :=
  (f.finish? cache signal).toList.map (⟨purpose, f.exchange.node, ·⟩)

def Refresh.contacts (cache : Cache) (signal : Signal) : Refresh → List Contact
  | .queued _ _ => []
  | .sweeping sweep => sweep.flight.contacts .topology cache signal

def Phase.contacts (cache : Cache) (signal : Signal) : Phase β → List Contact
  | .ensuring update => update.refresh.contacts cache signal
  | .pausing _ _ _ => []
  | .flying _ flight => flight.contacts .command cache signal

def Trial.found (cache : Cache) (signal : Signal) (t : Trial) (found : Finding) : Finding :=
  match t.state with
  | .underWay flight => { found with finish := flight.finish? cache signal }
  | .settled _ => found

namespace Call

def found (cache : Cache) (signal : Signal) (found : List Finding) : Call α → List Finding
  | .testing t => t.trials.zipWith (Trial.found cache signal) found
  | .executing _ | .configuring _ | .updating _ => found

def contacts (cache : Cache) (signal : Signal) (found : List Finding) : Call α → List Contact
  | .executing c => c.phase.contacts cache signal
  | .configuring c => c.phase.contacts cache signal
  | .updating u => u.refresh.contacts cache signal
  | .testing t => Finding.conclude (Call.found cache signal found (.testing t : Call α))

end Call

namespace Executor

def canProbe (x : Executor) (node : Node) : Bool :=
  match (Command.probe x.conventions.probeTimeout).request node with
  | .ok request => (x.pool.open? request.url).isSome
  | .error _ => false

def turnTo (x : Executor) (node : Node) : Finding :=
  ⟨node, if x.canProbe node then none else some .unsent⟩

def foundAtFirst (x : Executor) : Order α → List Finding
  | .speedTest => if x.disposed then [] else x.topology.nodes.map x.turnTo
  | .execute _ _ | .updateTopology _ _ _ | .updateConfiguration | .firstUpdate
  | .refreshTopology _ => []

end Executor

end ClusterClient
