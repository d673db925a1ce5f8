import ClusterClient.Proofs.Executor.Outcomes

/-!
# Fetching the topology within a call

What a call does about the topology before it follows its plan.  If the lock is
free a sweep starts at once, and what each node answers decides whether the sweep
ends or goes on to the next node.
-/

namespace ClusterClient

inductive Preparation where
  | refused (e : ExecutorError)
  | known
  | sweep (isFirst : Bool) (nodes : List Node)

namespace Executor

variable {α : Type} {w : Surroundings} {command : Command α} {options : Options}

def preparation (x : Executor) (now : Instant) : Preparation :=
  if x.disposed then .refused .disposed
  else if !x.initialized then
    match x.recentFailure? now with
    | some failures => .refused (.topologyUnavailable failures)
    | none => if x.seeds.isEmpty then .refused .emptyTopology else .sweep true x.seedNodes
  else if x.stale && x.updatesTopology && (x.recentFailure? now).isNone then
    .sweep false x.refreshNodes
  else .known

end Executor

end ClusterClient
