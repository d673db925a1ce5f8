import ClusterClient.Proofs.System.Locks

/-!
# The sweep that ended last

When it ended and what it came to is all that later calls go by.  Calls on
commands are told apart here from those that only update the topology.
-/

namespace ClusterClient

variable {α : Type} {command : Command Topology} {k k' : Knowledge} {caller : Caller}
  {before after : Option Refresh} {now : Instant} {r : Report}

def SweepRecord.of (finishedAt : Instant) : Except (List NodeFailure) Topology → SweepRecord
  | .error failures => ⟨some failures, finishedAt⟩
  | .ok _ => ⟨none, finishedAt⟩

theorem Takes.lastSweep_eq (h : Takes command k now caller before k' after r) :
    k'.lastSweep = (r.ended.map (SweepRecord.of now)).or k.lastSweep := by
  cases h with
  | @drops refresh => cases refresh <;> rfl
  | joins _ _ | waits | timesOut | spares _ _ | begins _ _ _ _ | beginsInVain _ _ | stays _
  | goesOn _ _ _ | fails _ _ | fetches => rfl

theorem Takes.of_not_ended (h : Takes command k now caller before k' after r)
    (hended : r.ended = none) : k'.sweeps = k.sweeps ∧ k'.initialized = k.initialized := by
  cases h with
  | @drops refresh => cases refresh <;> exact ⟨rfl, rfl⟩
  | joins _ _ | waits | timesOut | spares _ _ | begins _ _ _ _ | stays _ | goesOn _ _ _ =>
    exact ⟨rfl, rfl⟩
  | beginsInVain _ _ | fails _ _ | fetches => cases hended

theorem Takes.sweeps_le (h : Takes command k now caller before k' after r) :
    k.sweeps ≤ k'.sweeps := by
  cases h with
  | @drops refresh => cases refresh <;> exact Nat.le_refl _
  | joins _ _ | waits | timesOut | spares _ _ | begins _ _ _ _ | stays _ | goesOn _ _ _ =>
    exact Nat.le_refl _
  | beginsInVain _ _ | fails _ _ | fetches => exact Nat.le_succ _

def Order.isOnCommand : Order α → Bool
  | .execute _ _ | .updateConfiguration => true
  | .updateTopology _ _ _ | .speedTest | .firstUpdate | .refreshTopology _ => false

def Call.isOnCommand : Call α → Bool
  | .executing _ | .configuring _ => true
  | .updating _ | .testing _ => false

namespace Executor

variable {x : Executor} {m : Moment} {order : Order α} {wish : SweepOrder}

theorem preparation_of_wish? (hcommand : order.isOnCommand = true)
    (h : x.wish? now order = some wish) :
    ∃ isFirst nodes, x.preparation now = .sweep isFirst nodes ∧
      wish = ⟨nodes, false, none, isFirst⟩ := by
  have hwish : x.commandWish? now = some wish := by
    unfold wish? at h
    cases order with
    | execute _ _ => exact h
    | updateConfiguration =>
      dsimp only at h
      split at h
      · exact h
      · cases h
    | updateTopology _ _ _ | speedTest | firstUpdate | refreshTopology _ => cases hcommand
  unfold commandWish? at hwish
  cases hprepared : x.preparation now with
  | refused _ | known =>
    rw [hprepared] at hwish
    cases hwish
  | sweep isFirst nodes =>
    rw [hprepared] at hwish
    exact ⟨isFirst, nodes, rfl, (Option.some.inj hwish).symm⟩

theorem recentFailure?_of_preparation {isFirst : Bool} {nodes : List Node}
    (h : x.preparation now = .sweep isFirst nodes) : x.recentFailure? now = none := by
  unfold preparation at h
  split at h
  · cases h
  · split at h
    · split at h
      · cases h
      · assumption
    · split at h
      · rename_i hstale
        rw [Bool.and_eq_true] at hstale
        simpa using hstale.2
      · cases h

end Executor

namespace System

variable {s : System α}

def lastEnd? (s : System α) : Run α → Option (Instant × Except (List NodeFailure) Topology)
  | [] => none
  | (m, action) :: before =>
    ((((s.after before).report? m action).bind (·.ended)).map fun outcome => (m.now, outcome)).or
      (s.lastEnd? before)

/-- The sweep that ended last failed like this, and that is not long ago. -/
def FailedJustNow (s : System α) (run : Run α) (now : Instant) (failures : List NodeFailure) :
    Prop :=
  ∃ finishedAt, s.lastEnd? run = some (finishedAt, .error failures) ∧
    now - finishedAt < s.executor.conventions.topologyFailureBackoff.nanos

theorem conventions_after (s : System α) (run : Run α) :
    (s.after run).executor.conventions = s.executor.conventions :=
  along_run (P := fun k _ _ => k.conventions = s.executor.conventions) rfl
    (fun ih htakes => htakes.made_with.2.2.1.trans ih) run

theorem scope_after (s : System α) (run : Run α) :
    (s.after run).executor.scope = s.executor.scope :=
  along_run (P := fun k _ _ => k.scope = s.executor.scope) rfl
    (fun ih htakes => htakes.made_with.1.trans ih) run

theorem lastSweep_after (hnone : s.executor.lastSweep = none) (run : Run α) :
    (s.after run).executor.lastSweep =
      (s.lastEnd? run).map fun (finishedAt, outcome) => SweepRecord.of finishedAt outcome := by
  induction run with
  | nil => exact hnone
  | cons event before ih =>
    obtain ⟨m, action⟩ := event
    rw [after, lastEnd?]
    cases hreport : (s.after before).report? m action with
    | none =>
      have hsame := congrArg Knowledge.lastSweep (step_rests hreport).knowledge
      exact hsame.trans ih
    | some r =>
      have hlast := (step_moves hreport).takes.lastSweep_eq
      have hbefore : (s.after before).executor.knowledge.lastSweep = _ := ih
      rw [hbefore] at hlast
      refine hlast.trans ?_
      rw [Option.bind_some]
      cases r.ended <;> rfl

/-- What a call is told of a recent failure is what the sweep that ended last came to. -/
theorem recentFailure?_after_iff (hnone : s.executor.lastSweep = none) {run : Run α}
    {now : Instant} {failures : List NodeFailure} :
    (s.after run).executor.recentFailure? now = some failures ↔
      s.FailedJustNow run now failures := by
  unfold Executor.recentFailure? FailedJustNow
  rw [lastSweep_after hnone, conventions_after]
  match s.lastEnd? run with
  | none => simp
  | some (finishedAt, .ok _) => simp [SweepRecord.of]
  | some (finishedAt, .error _) => simp [SweepRecord.of, and_comm]

end System

end ClusterClient
