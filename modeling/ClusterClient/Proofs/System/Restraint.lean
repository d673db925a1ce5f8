import ClusterClient.Proofs.System.Accounts
import ClusterClient.Proofs.System.Pending

/-!
# Calls that hold back

A call on a command makes its wish for a sweep only if the last one has not
failed just before.  As long as it waits for the lock, it stays true that a sweep
which failed just now is one that it has not seen.
-/

namespace ClusterClient

variable {α β : Type} {command : Command Topology} {k k' : Knowledge} {caller : Caller}
  {before after : Option Refresh} {now later : Instant} {r : Report}

/-! ## How knowledge goes on -/

def Knowledge.recentFailure? (k : Knowledge) (now : Instant) : Option (List NodeFailure) :=
  k.lastSweep.bind fun record =>
    if now - record.finishedAt < k.conventions.topologyFailureBackoff.nanos then record.failures
    else none

theorem Knowledge.recentFailure?_mono (h : k.recentFailure? now = none) (hle : now ≤ later) :
    k.recentFailure? later = none := by
  unfold Knowledge.recentFailure? at h ⊢
  cases hlast : k.lastSweep with
  | none => rfl
  | some record =>
    rw [hlast, Option.bind_some] at h
    rw [Option.bind_some]
    have hlonger : now - record.finishedAt ≤ later - record.finishedAt := Nat.sub_le_sub_right hle _
    split
    · rename_i hrecent
      rwa [if_pos (Nat.lt_of_le_of_lt hlonger hrecent)] at h
    · rfl

/-- What is known only grows, and the last sweep is the same one as long as none ends. -/
structure Knowledge.Advances (k k' : Knowledge) : Prop where
  conventions : k'.conventions = k.conventions
  initialized : k.initialized = true → k'.initialized = true
  sweeps : k.sweeps ≤ k'.sweeps
  lastSweep : k'.sweeps = k.sweeps → k'.lastSweep = k.lastSweep

theorem Takes.advances (h : Takes command k now caller before k' after r) : k.Advances k' := by
  refine ⟨h.made_with.2.2.1, h.initialized_of_initialized, h.sweeps_le, fun hsame => ?_⟩
  cases h with
  | @drops refresh => cases refresh <;> rfl
  | joins _ _ | waits | timesOut | spares _ _ | begins _ _ _ _ | stays _ | goesOn _ _ _ => rfl
  | beginsInVain _ _ | fails _ _ | fetches => exact absurd hsame (Nat.succ_ne_self _)

/-! ## Calls that wait for the lock -/

/-- A call that waits for the lock made its wish when the last sweep had not failed just before,
and it is content with any sweep that ended since. -/
structure Restrained (k : Knowledge) (now : Instant) (isFirst : Bool) (order : SweepOrder)
    (observed : Nat) : Prop where
  unforced : order.force = false
  onlyIf : order.onlyIfUninitialized = isFirst
  known : isFirst = false → k.initialized = true
  seen : observed ≤ k.sweeps
  recent : observed = k.sweeps → k.recentFailure? now = none

theorem Restrained.mono {isFirst : Bool} {order : SweepOrder} {observed : Nat}
    (h : Restrained k now isFirst order observed) (hadvances : k.Advances k')
    (hle : now ≤ later) : Restrained k' later isFirst order observed := by
  refine ⟨h.unforced, h.onlyIf, fun hfirst => hadvances.initialized (h.known hfirst),
    Nat.le_trans h.seen hadvances.sweeps, fun hobserved => ?_⟩
  have hsame : k'.sweeps = k.sweeps :=
    Nat.le_antisymm (hobserved ▸ h.seen) hadvances.sweeps
  have hrecent := Knowledge.recentFailure?_mono (h.recent (hobserved.trans hsame)) hle
  unfold Knowledge.recentFailure? at hrecent ⊢
  rwa [hadvances.lastSweep hsame, hadvances.conventions]

def Phase.Restrained (k : Knowledge) (now : Instant) (phase : Phase β) : Prop :=
  ∀ isFirst order observed, phase = .ensuring ⟨isFirst, .queued order observed⟩ →
    ClusterClient.Restrained k now isFirst order observed

def Call.Restrained (k : Knowledge) (now : Instant) : Call α → Prop
  | .executing c => c.phase.Restrained k now
  | .configuring c => c.phase.Restrained k now
  | .updating _ | .testing _ => True

theorem Phase.Restrained.mono {phase : Phase β} (h : phase.Restrained k now)
    (hadvances : k.Advances k') (hle : now ≤ later) : phase.Restrained k' later :=
  fun isFirst order observed hphase => (h isFirst order observed hphase).mono hadvances hle

theorem Call.Restrained.mono {call : Call α} (h : call.Restrained k now)
    (hadvances : k.Advances k') (hle : now ≤ later) : call.Restrained k' later := by
  cases call with
  | executing c => exact Phase.Restrained.mono h hadvances hle
  | configuring c => exact Phase.Restrained.mono h hadvances hle
  | updating _ | testing _ => trivial

theorem Call.Restrained.of_queued {call : Call α} {order : SweepOrder} {observed : Nat}
    (h : call.Restrained k now) (hcommand : call.isOnCommand = true)
    (hqueued : call.refresh? = some (.queued order observed)) :
    ∃ isFirst, ClusterClient.Restrained k now isFirst order observed := by
  have hphase : ∀ {γ : Type} {phase : Phase γ}, phase.Restrained k now →
      phase.refresh? = some (.queued order observed) →
      ∃ isFirst, ClusterClient.Restrained k now isFirst order observed := by
    intro γ phase hrestrained hrefresh
    cases phase with
    | ensuring update =>
      obtain ⟨isFirst, refresh⟩ := update
      cases hrefresh
      exact ⟨isFirst, hrestrained isFirst order observed rfl⟩
    | pausing _ _ _ | flying _ _ => cases hrefresh
  cases call with
  | executing c => exact hphase h hqueued
  | configuring c => exact hphase h hqueued
  | updating _ | testing _ => cases hcommand

namespace Executor

variable {x : Executor} {m : Moment} {options : Options}

def LeavesRestrained (now : Instant) (next : Next β) : Prop :=
  ∀ phase, next.2 = .waiting phase → phase.Restrained next.1.knowledge now

theorem leavesRestrained_of_no_refresh {next : Next β}
    (h : next.2.state?.bind Phase.refresh? = none) : LeavesRestrained now next := by
  intro phase hwaiting isFirst order observed hphase
  rw [hwaiting, hphase] at h
  cases h

theorem leavesRestrained_afterWish {command : Command β} {isFirst : Bool}
    {next : Executor × Progress Refresh (Except ExecutorError Bool)}
    (h : ∀ order observed, next.2 = .waiting (.queued order observed) →
      Restrained next.1.knowledge m.now isFirst order observed) :
    LeavesRestrained m.now (afterWish command options m isFirst next) := by
  obtain ⟨y, progress⟩ := next
  cases progress with
  | waiting refresh =>
    intro phase hwaiting isFirst' order observed hphase
    subst hphase
    cases hwaiting
    exact h order observed rfl
  | done result =>
    unfold afterWish updateOf
    simp only [Progress.mapState, Progress.map]
    cases afterUpdate isFirst (y.judge isFirst result) with
    | error e => exact leavesRestrained_of_no_refresh rfl
    | ok _ => exact leavesRestrained_of_no_refresh (y.attempts_follow m).refresh?

theorem refreshLocked_ne_queued (x : Executor) (wish order : SweepOrder) (observed seen : Nat)
    (now : Instant) : (x.refreshLocked wish seen now).2 ≠ .waiting (.queued order observed) := by
  unfold refreshLocked
  split
  · exact fun hqueued => by cases hqueued
  · split
    · exact fun hqueued => by cases hqueued
    · dsimp only
      cases (({ x with lockHeld := true } : Executor).ask wish.limit [] now wish.nodes).2 with
      | waiting sweep => exact fun hqueued => by cases hqueued
      | done result => exact fun hqueued => by cases hqueued

theorem refresh_of_queued {wish order : SweepOrder} {observed : Nat}
    (h : (x.refresh wish now).2 = .waiting (.queued order observed)) :
    (x.refresh wish now).1 = x ∧ order = wish ∧ observed = x.sweeps := by
  unfold refresh at h ⊢
  by_cases hheld : x.lockHeld = true
  · rw [if_pos hheld] at h ⊢
    cases h
    exact ⟨rfl, rfl, rfl⟩
  · rw [if_neg hheld] at h
    exact (x.refreshLocked_ne_queued _ _ _ _ _ h).elim

theorem advanceRefresh_of_queued {refresh : Refresh} {signal : Signal} {order : SweepOrder}
    {observed : Nat}
    (h : (x.advanceRefresh refresh signal now).2 = .waiting (.queued order observed)) :
    (x.advanceRefresh refresh signal now).1 = x ∧ refresh = .queued order observed := by
  unfold advanceRefresh at h ⊢
  cases refresh with
  | queued order' observed' =>
    cases signal with
    | granted =>
      dsimp only at h ⊢
      by_cases hheld : x.lockHeld = true
      · rw [if_pos hheld] at h ⊢
        cases h
        exact ⟨rfl, rfl⟩
      · rw [if_neg hheld] at h
        exact (x.refreshLocked_ne_queued _ _ _ _ _ h).elim
    | lockTimedOut => cases h
    | resumed | head _ _ | body _ _ | expired _ =>
      cases h
      exact ⟨rfl, rfl⟩
  | sweeping sweep =>
    dsimp only at h
    cases hsweep : (x.advanceSweep sweep signal now).2 <;> rw [hsweep] at h <;> cases h

theorem afterWish_done {command : Command β} {isFirst : Bool} (y : Executor)
    (result : Except ExecutorError Bool) :
    afterWish command options m isFirst (y, .done result) =
      match afterUpdate isFirst (y.judge isFirst result) with
      | .error e => (y, .done (.error e))
      | .ok () => y.follow command options m := by
  unfold afterWish updateOf
  simp only [Progress.mapState, Progress.map]
  cases afterUpdate isFirst (y.judge isFirst result) <;> rfl

theorem lastOutcome_of_recent {failures : List NodeFailure}
    (h : x.recentFailure? now = some failures) :
    x.lastOutcome = .error (.topologyUnavailable failures) := by
  obtain ⟨record, hrecord, hfailures⟩ := Option.bind_eq_some_iff.mp h
  unfold lastOutcome
  rw [hrecord, Option.bind_some]
  split at hfailures
  · rw [hfailures]
  · cases hfailures

theorem refreshLocked_of_restrained {isFirst : Bool} {order : SweepOrder} {observed : Nat}
    {failures : List NodeFailure} (h : Restrained x.knowledge now isFirst order observed)
    (hrecent : x.recentFailure? now = some failures) :
    x.refreshLocked order observed now =
      (x, .done (if isFirst && x.initialized then .ok true
        else .error (.topologyUnavailable failures))) := by
  have hmissed : (x.sweeps != observed) = true := by
    rw [bne_iff_ne]
    intro hcurrent
    have hnone : x.recentFailure? now = none := h.recent hcurrent.symm
    rw [hrecent] at hnone
    cases hnone
  unfold refreshLocked
  rw [h.onlyIf, h.unforced, hmissed, lastOutcome_of_recent hrecent]
  split <;> rfl

theorem preparation_of_recent_failure {failures : List NodeFailure} (hopen : x.disposed = false)
    (hfirst : x.initialized = false) (hrecent : x.recentFailure? now = some failures) :
    x.preparation now = .refused (.topologyUnavailable failures) := by
  simp [preparation, hopen, hfirst, hrecent]

theorem preparation_of_known {failures : List NodeFailure} (hopen : x.disposed = false)
    (hknown : x.initialized = true) (hrecent : x.recentFailure? now = some failures) :
    x.preparation now = .known := by
  simp [preparation, hopen, hknown, hrecent]

theorem leavesRestrained_execute (x : Executor) (command : Command β) (options : Options)
    (m : Moment) : LeavesRestrained m.now (x.execute command options m) := by
  rw [execute_prepared]
  cases hprepared : x.preparation m.now with
  | refused e => exact leavesRestrained_of_no_refresh rfl
  | known => exact leavesRestrained_of_no_refresh (x.attempts_follow m).refresh?
  | sweep isFirst nodes =>
    refine leavesRestrained_afterWish fun order observed hqueued => ?_
    obtain ⟨hsame, rfl, rfl⟩ := refresh_of_queued hqueued
    rw [hsame]
    refine ⟨rfl, rfl, fun hfirst => ?_, Nat.le_refl _,
      fun _ => recentFailure?_of_preparation hprepared⟩
    rcases sweep_of_preparation hprepared with ⟨hyes, -, -⟩ | ⟨-, hknown, -, -⟩
    · rw [hyes] at hfirst
      cases hfirst
    · exact hknown

theorem leavesRestrained_advanceExecution (x : Executor) (m : Moment) (signal : Signal)
    (c : Execution β) (h : c.phase.Restrained x.knowledge m.now) :
    LeavesRestrained m.now (x.advanceExecution c signal m) := by
  cases hphase : c.phase.refresh? with
  | none => exact leavesRestrained_of_no_refresh ((x.advanceExecution_spec m signal c).2 hphase).2
  | some refresh =>
    obtain ⟨command, options, phase⟩ := c
    cases phase with
    | pausing _ _ _ | flying _ _ => cases hphase
    | ensuring update =>
      have hwish : LeavesRestrained m.now (afterWish command options m update.isFirst
          (x.advanceRefresh update.refresh signal m.now)) := by
        refine leavesRestrained_afterWish fun order observed hqueued => ?_
        obtain ⟨hsame, hrefresh⟩ := advanceRefresh_of_queued hqueued
        rw [hsame]
        exact h update.isFirst order observed (by rw [← hrefresh])
      exact hwish

theorem restrained_executed {command : Command α} {next : Next α} {call : Call α}
    (h : LeavesRestrained now next) (hwaiting : (executed command options next).2 = .waiting call) :
    call.Restrained (executed command options next).1.knowledge now := by
  obtain ⟨y, progress⟩ := next
  cases progress with
  | waiting phase =>
    cases hwaiting
    exact h phase rfl
  | done result => cases hwaiting

theorem restrained_configured {command : Command ConfigurationVersion}
    {next : Next ConfigurationVersion} {call : Call α} (h : LeavesRestrained now next)
    (hwaiting : (configured command options next : Step α).2 = .waiting call) :
    call.Restrained (configured command options next : Step α).1.knowledge now := by
  obtain ⟨y, progress⟩ := next
  match progress with
  | .waiting phase =>
    cases hwaiting
    exact h phase rfl
  | .done (.error e) => cases hwaiting
  | .done (.ok executed) => cases hwaiting

theorem restrained_updated {next : Executor × Progress Update (Except ExecutorError Bool)}
    {call : Call α} (hwaiting : (updated next : Step α).2 = .waiting call) :
    call.Restrained k now := by
  obtain ⟨y, progress⟩ := next
  cases progress <;> cases hwaiting
  trivial

theorem restrained_tested {next : Executor × Progress SpeedTest (Except ExecutorError Unit)}
    {call : Call α} (hwaiting : (tested next : Step α).2 = .waiting call) :
    call.Restrained k now := by
  obtain ⟨y, progress⟩ := next
  cases progress <;> cases hwaiting
  trivial

theorem restrained_begin {order : Order α} {call : Call α}
    (hwaiting : (x.begin m order).2 = .waiting call) :
    call.Restrained (x.begin m order).1.knowledge m.now := by
  cases order with
  | execute command options =>
    exact restrained_executed (x.leavesRestrained_execute command options m) hwaiting
  | updateConfiguration =>
    unfold begin at hwaiting ⊢
    dsimp only at hwaiting ⊢
    cases hscope : x.scope with
    | cluster =>
      rw [hscope] at hwaiting
      cases hwaiting
    | database name =>
      rw [hscope] at hwaiting
      exact restrained_configured (x.leavesRestrained_execute _ _ m) hwaiting
  | updateTopology _ _ _ | firstUpdate | refreshTopology _ => exact restrained_updated hwaiting
  | speedTest => exact restrained_tested hwaiting

theorem restrained_advance {signal : Signal} {call call' : Call α}
    (h : call.Restrained x.knowledge m.now)
    (hwaiting : (x.advance m signal call).2 = .waiting call') :
    call'.Restrained (x.advance m signal call).1.knowledge m.now := by
  cases call with
  | executing c =>
    exact restrained_executed (x.leavesRestrained_advanceExecution m signal c h) hwaiting
  | configuring c =>
    exact restrained_configured (x.leavesRestrained_advanceExecution m signal c h) hwaiting
  | updating u => exact restrained_updated hwaiting
  | testing t => exact restrained_tested hwaiting

end Executor

end ClusterClient
