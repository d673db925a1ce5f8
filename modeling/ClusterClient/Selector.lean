import ClusterClient.Duration
import ClusterClient.ReadBalance
import ClusterClient.Text.Ascii
import ClusterClient.Topology.Basic
/-!
# Choosing nodes

The selector holds the current topology, which of its nodes are believed unreachable, and which one
answered a speed test first. From these it makes the order in which one call tries the nodes.
-/

namespace ClusterClient

structure Plan where
  etag : Int
  nodes : List Node
  deriving DecidableEq, Repr

structure Selector where
  topology : Topology
  /-- The place of the fastest node in the topology, once a speed test picked one. -/
  fastest : Option Nat := none
  /-- The nodes believed unreachable, each once. -/
  failed : List Node.Key := []
  /-- How many plans for reads in turn were made. -/
  turn : UInt64 := 0
  deriving DecidableEq, Repr

namespace Selector

def nodes (s : Selector) : List Node := s.topology.nodes

def isFailed (s : Selector) (node : Node) : Bool := s.failed.contains node.key

def isHealthy (s : Selector) (node : Node) : Bool := !s.isFailed node

/-- Installs a topology if it is newer than the current one, and says whether it did. The fastest
node stays the fastest and failed nodes stay failed, if they are still there. -/
def update (s : Selector) (incoming : Topology) : Selector × Bool :=
  if s.topology.isSupersededBy incoming then
    let fastest := (s.fastest.bind (s.nodes[·]?)).bind incoming.position?
    let failed := s.failed.filter fun key => incoming.nodes.any (·.key == key)
    ({ s with topology := incoming, fastest, failed }, true)
  else (s, false)

def markFailed (s : Selector) (node : Node) : Selector :=
  if s.topology.contains node && !s.isFailed node then { s with failed := node.key :: s.failed }
  else s

def restore (s : Selector) (node : Node) : Selector :=
  { s with failed := s.failed.filter (· != node.key) }

def at? (s : Selector) (index : Nat) : Option (Nat × Node) :=
  s.nodes[index]?.map fun node => (index, node)

def firstHealthy? (s : Selector) (indices : List Nat) : Option (Nat × Node) :=
  (indices.filterMap s.at?).find? fun (_, node) => s.isHealthy node

/-- The first healthy node, or the first node when none is healthy. -/
def preferred? (s : Selector) : Option (Nat × Node) :=
  s.firstHealthy? (List.range s.nodes.length) <|> s.at? 0

/-- The fastest node if it is known and healthy, or else the preferred one. -/
def fastest? (s : Selector) : Option (Nat × Node) :=
  s.firstHealthy? s.fastest.toList <|> s.preferred?

/-- The first healthy node in cyclic order from a place, or else the preferred one. -/
def rotating? (s : Selector) (start : Nat) : Option (Nat × Node) :=
  let n := s.nodes.length
  s.firstHealthy? ((List.range n).map fun offset => (start % n + offset) % n) <|> s.preferred?

def sessionSlot (session : Int) (count : Nat) : Nat :=
  if count = 0 then 0 else session.natAbs % count

def sessionNode? (s : Selector) (session : Int) : Option (Nat × Node) :=
  s.rotating? (sessionSlot session s.nodes.length)

def taggedNode? (s : Selector) (tag : String) : Option (Nat × Node) :=
  ((List.range s.nodes.length).filterMap s.at?).find? fun (_, node) =>
    Text.equalIgnoringCase node.tag tag

/-- The node that reads go to first. Without a session, reads in turn move on by one each time. -/
def firstForRead (s : Selector) (balance : ReadBalance) (session : Option Int) :
    Selector × Option (Nat × Node) :=
  match balance with
  | .none => (s, s.preferred?)
  | .fastestNode => (s, s.fastest?)
  | .roundRobin =>
    match session with
    | some id => (s, s.sessionNode? id)
    | none => ({ s with turn := s.turn + 1 }, s.rotating? s.turn.toNat)

/-- The order in which a call tries the nodes: topology order for a write; for a read the chosen
node, then the other healthy ones, then the failed ones. -/
def plan (s : Selector) (isRead : Bool) (balance : ReadBalance) (session : Option Int) :
    Selector × Plan :=
  if isRead then
    let (next, first) := s.firstForRead balance session
    let chosen := first.toList.map (·.2)
    let rest := s.nodes.filter fun node => !chosen.any (·.isSame node)
    let (healthy, failed) := rest.partition s.isHealthy
    (next, ⟨s.topology.etag, chosen ++ healthy ++ failed⟩)
  else (s, ⟨s.topology.etag, s.nodes⟩)

abbrev Probe := Node × Option Duration

def applyProbe (s : Selector) (probe : Probe) : Selector :=
  match probe.2 with
  | some _ => s.restore probe.1
  | none => s.markFailed probe.1

/-- How long a node took, by the first of the results that are about it. -/
def elapsedOf? (results : List Probe) (node : Node) : Option Duration :=
  (results.find? fun (n, _) => n.isSame node).bind (·.2)

/-- A new fastest node must be faster by more than this. -/
def tieTolerance : Duration := .ofMillis 2

/-- The first of the quickest places. -/
def quickest? : List (Nat × Duration) → Option (Nat × Duration)
  | [] => none
  | p :: rest =>
    match quickest? rest with
    | none => some p
    | some best => if best.2 < p.2 then some best else some p

/-- The fastest place after a speed test: the old one unless it was slower than the quickest by more
than the tolerance. -/
def fastestAfter (s : Selector) (results : List Probe) : Except TimeError (Option Nat) :=
  let timing := fun index => s.nodes[index]?.bind (elapsedOf? results)
  let times := (List.range s.nodes.length).filterMap fun index => (timing index).map (index, ·)
  match quickest? times with
  | none => .ok s.fastest
  | some (index, best) =>
    match s.fastest.bind fun old => (timing old).map (old, ·) with
    | none => .ok (some index)
    | some (old, elapsed) => do
      let limit ← best.add tieTolerance
      pure (if elapsed ≤ limit then some old else some index)

/-- Applies a speed test taken under the topology with this version. Marks always count; the fastest
node changes only if asked for and if the topology is still that one. -/
def applySpeedTest (s : Selector) (etag : Int) (results : List Probe) (updateFastest : Bool) :
    Selector × Except TimeError (Option Nat) :=
  let marked := results.foldl applyProbe s
  if updateFastest && marked.topology.etag = etag then
    match marked.fastestAfter results with
    | .ok fastest => ({ marked with fastest }, .ok fastest)
    | .error e => (marked, .error e)
  else (marked, .ok marked.fastest)

end Selector

end ClusterClient
