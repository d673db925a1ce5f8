import ClusterClient.Proofs.Executor.Errors
import ClusterClient.Proofs.Executor.Standing

/-!
# Calls that run out of nodes

A call reports that all nodes are unreachable in the very step in which the last
node of its plan fails it, and in no other.
-/

namespace ClusterClient

def ExecutorError.exhaustion? : ExecutorError → Option (List NodeFailure)
  | .allNodesUnreachable failures => some failures
  | _ => none

theorem ExecutorError.exhaustion?_eq_none (e : ExecutorError) (h : e.isAboutNodes = false) :
    e.exhaustion? = none := by
  cases e with
  | allNodesUnreachable _ => cases h
  | topologyUnavailable _ | fault _ | timeout _ | nodeNotFound _ | emptyTopology | disposed
  | initialFetchTimedOut | overflow _ => rfl

namespace Progress

variable {σ ρ : Type}

def isExhausted : Progress σ (Except ExecutorError ρ) → Bool
  | .done (.error (.allNodesUnreachable _)) => true
  | _ => false

theorem isExhausted_eq_seen (progress : Progress σ (Except ExecutorError ρ)) :
    progress.isExhausted = (progress.seen ExecutorError.exhaustion?).isSome := by
  match progress with
  | .waiting _ => rfl
  | .done (.ok _) => rfl
  | .done (.error e) => cases e <;> rfl

theorem isExhausted_of_seen {progress : Progress σ (Except ExecutorError ρ)}
    (h : progress.seen ExecutorError.exhaustion? = none) : progress.isExhausted = false := by
  rw [isExhausted_eq_seen, h]
  rfl

end Progress

open Progress

/-- Whether a call had no other node left. -/
def Deed.exhausts : Deed → Bool
  | .failed _ exhausted => exhausted
  | .nothing | .learned _ | .served _ | .tested _ _ _ => false

theorem Standing.stale_after (s : Standing) (d : Deed) :
    (s.after d).stale = true ↔ (s.stale = true ∧ ∀ t, d ≠ .learned t) ∨ d.exhausts = true := by
  cases d <;> simp [after, Deed.exhausts]

namespace Executor

variable {α : Type} {x : Executor} {command : Command α} {options : Options} {m : Moment}

/-! ## Following a plan -/

theorem isExhausted_follow (x : Executor) (m : Moment) :
    (x.follow command options m).2.isExhausted = false :=
  isExhausted_of_seen (x.seen_follow ExecutorError.exhaustion?_eq_none m)

theorem isExhausted_beginAttempt (x : Executor) (t : Trail) (e : Exchange α) :
    (x.beginAttempt t e).2.isExhausted = false :=
  isExhausted_of_seen (x.seen_beginAttempt ExecutorError.exhaustion?_eq_none t e)

theorem isExhausted_concludeAttempt (x : Executor) (c : Execution α) (t : Trail) (e : Exchange α)
    (outcome : Outcome α) (m : Moment) :
    (x.concludeAttempt c t e outcome m).2.isExhausted =
      (t.deed e.node (.done outcome)).exhausts := by
  rw [isExhausted_eq_seen, seen_concludeAttempt ExecutorError.exhaustion?_eq_none]
  cases outcome with
  | answered _ _ _ | ended _ => rfl
  | failed _ =>
    unfold Trail.deed Deed.exhausts
    cases t.rest.isEmpty <;> rfl

/-! ## Wishes -/

theorem isExhausted_refresh (x : Executor) (order : SweepOrder) (now : Instant) :
    (x.refresh order now).2.isExhausted = false :=
  isExhausted_of_seen (x.seen_refresh (fun _ => rfl) order now)

theorem isExhausted_advanceRefresh (x : Executor) (refresh : Refresh) (signal : Signal)
    (now : Instant) : (x.advanceRefresh refresh signal now).2.isExhausted = false :=
  isExhausted_of_seen (x.seen_advanceRefresh (fun _ => rfl) refresh signal now)

theorem isExhausted_updateOf (isFirst : Bool)
    (next : Executor × Progress Refresh (Except ExecutorError Bool)) :
    (updateOf isFirst next).2.isExhausted = next.2.isExhausted := by
  rw [isExhausted_eq_seen, isExhausted_eq_seen]
  exact congrArg Option.isSome (seen_updateOf rfl isFirst next)

theorem isExhausted_afterWish {isFirst : Bool}
    {next : Executor × Progress Refresh (Except ExecutorError Bool)}
    (h : next.2.isExhausted = false) :
    (afterWish command options m isFirst next).2.isExhausted = false := by
  rw [isExhausted_eq_seen] at h ⊢
  rw [seen_afterWish ExecutorError.exhaustion?_eq_none]
  split
  · exact h
  · rfl

/-! ## Calls -/

theorem isExhausted_execute (x : Executor) (command : Command α) (options : Options) (m : Moment) :
    (x.execute command options m).2.isExhausted = false := by
  rw [execute_prepared]
  cases hprepared : x.preparation m.now with
  | refused e =>
    unfold preparation at hprepared
    repeat' split at hprepared
    all_goals cases hprepared
    all_goals rfl
  | known => exact x.isExhausted_follow m
  | sweep isFirst nodes => exact isExhausted_afterWish (x.isExhausted_refresh _ _)

theorem isExhausted_advanceExecution (x : Executor) (m : Moment) (signal : Signal)
    (c : Execution α) :
    (x.advanceExecution c signal m).2.isExhausted =
      (x.phaseDeed c.phase signal m.now).exhausts := by
  obtain ⟨command, options, phase⟩ := c
  cases phase with
  | ensuring update =>
    have hwish : (x.wishDeed update.refresh signal m.now).exhausts = false := by
      unfold wishDeed
      split <;> rfl
    exact (isExhausted_afterWish (x.isExhausted_advanceRefresh _ _ _)).trans hwish.symm
  | pausing trail e pause =>
    cases signal with
    | resumed => exact x.isExhausted_beginAttempt trail e
    | granted | lockTimedOut | head _ _ | body _ _ | expired _ => rfl
  | flying trail flight =>
    unfold advanceExecution phaseDeed
    dsimp only
    cases x.advanceFlight flight signal m.now with
    | mk y progress =>
      cases progress with
      | waiting flight => rfl
      | done outcome => exact y.isExhausted_concludeAttempt _ _ _ _ _

theorem isExhausted_executed (command : Command α) (options : Options) (next : Next α) :
    (executed command options next).2.isExhausted = next.2.isExhausted := by
  rw [isExhausted_eq_seen, seen_executed, isExhausted_eq_seen]

theorem isExhausted_configured (command : Command ConfigurationVersion) (options : Options)
    (next : Next ConfigurationVersion) :
    (configured command options next : Step α).2.isExhausted = next.2.isExhausted := by
  rw [isExhausted_eq_seen, seen_configured, isExhausted_eq_seen]

theorem isExhausted_updated (next : Executor × Progress Update (Except ExecutorError Bool)) :
    (updated next : Step α).2.isExhausted = next.2.isExhausted := by
  rw [isExhausted_eq_seen, seen_updated, isExhausted_eq_seen]

theorem isExhausted_firstUpdate (x : Executor) (now : Instant) :
    (x.firstUpdate now).2.isExhausted = false := by
  unfold firstUpdate
  split
  · rfl
  · split
    · rfl
    · split
      · rfl
      · exact (isExhausted_updateOf _ _).trans (x.isExhausted_refresh _ _)

theorem isExhausted_updateTopology (x : Executor) (node : Node) (force : Bool)
    (limit : Option Duration) (now : Instant) :
    (x.updateTopology node force limit now).2.isExhausted = false := by
  unfold updateTopology
  split
  · rfl
  · exact (isExhausted_updateOf _ _).trans (x.isExhausted_refresh _ _)

theorem isExhausted_refreshTopology (x : Executor) (force : Bool) (now : Instant) :
    (x.refreshTopology force now).2.isExhausted = false := by
  unfold refreshTopology
  split
  · rfl
  · split
    · exact x.isExhausted_firstUpdate now
    · exact (isExhausted_updateOf _ _).trans (x.isExhausted_refresh _ _)

theorem isExhausted_begin (x : Executor) (m : Moment) (order : Order α) :
    (x.begin m order).2.isExhausted = false := by
  cases order with
  | execute command options =>
    exact (isExhausted_executed _ _ _).trans (x.isExhausted_execute command options m)
  | updateTopology node force limit =>
    exact (isExhausted_updated _).trans (x.isExhausted_updateTopology node force limit m.now)
  | updateConfiguration =>
    unfold begin
    cases x.scope with
    | cluster => rfl
    | database name => exact (isExhausted_configured _ _ _).trans (x.isExhausted_execute _ _ m)
  | speedTest =>
    exact isExhausted_of_seen
      (x.seen_speedTest ExecutorError.exhaustion?_eq_none m.now)
  | firstUpdate => exact (isExhausted_updated _).trans (x.isExhausted_firstUpdate m.now)
  | refreshTopology force =>
    exact (isExhausted_updated _).trans (x.isExhausted_refreshTopology force m.now)

theorem isExhausted_advance (x : Executor) (m : Moment) (signal : Signal) (call : Call α) :
    (x.advance m signal call).2.isExhausted = (x.callDeed signal m.now call).exhausts := by
  cases call with
  | executing c =>
    exact (isExhausted_executed _ _ _).trans (x.isExhausted_advanceExecution m signal c)
  | configuring c =>
    exact (isExhausted_configured _ _ _).trans (x.isExhausted_advanceExecution m signal c)
  | updating u =>
    have hwish : (x.wishDeed u.refresh signal m.now).exhausts = false := by
      unfold wishDeed
      split <;> rfl
    refine ((isExhausted_updated _).trans (isExhausted_updateOf _ _)).trans ?_
    exact (x.isExhausted_advanceRefresh _ _ _).trans hwish.symm
  | testing t =>
    have htest : ∀ t : SpeedTest, (x.testDeed t).exhausts = false := by
      intro t
      unfold testDeed
      split <;> rfl
    refine Eq.trans (isExhausted_of_seen ?_) (htest _).symm
    exact seen_concludeTest ExecutorError.exhaustion?_eq_none _ _

end Executor

end ClusterClient
