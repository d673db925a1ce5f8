import ClusterClient.Executor.Timers
import ClusterClient.Proofs.Backoff
import ClusterClient.Proofs.Executor.Errors
import ClusterClient.Proofs.Selector.SpeedTests

/-!
# Times out of range

Two kinds of calls can meet a time that does not exist: a call on a command before an
attempt, if its backoff leads out of range, and a speed test, if an answer took almost
as long as a time can be.  On a clock that is not at its end, no answer takes so long.
-/

namespace ClusterClient

variable {α β : Type}

def ExecutorError.overflow? : ExecutorError → Option TimeError
  | .overflow cause => some cause
  | .fault _ | .timeout _ | .nodeNotFound _ | .emptyTopology | .disposed | .initialFetchTimedOut
  | .allNodesUnreachable _ | .topologyUnavailable _ => none

/-- Whatever the number of an attempt, there is a delay to go before it. -/
def Backoff.Reaches (b : Backoff) (jitter : Duration → Duration) : Prop :=
  ∀ number, ∃ pause, b.delayBefore number jitter = .ok pause

theorem Backoff.reaches_exponential {initial max : Duration} {jitter : Duration → Duration}
    (hmax : max.nanos + max.nanos ≤ maxNanos) (hjitter : ∀ d, (jitter d).nanos ≤ d.nanos) :
    (Backoff.exponential initial max).Reaches jitter := by
  intro number
  refine (exists_delayBefore_iff _ number jitter).mpr ?_
  rintro _ _ ⟨⟩ -
  have hbase : (base initial max number).nanos ≤ max.nanos := base_le_max initial max number
  have hadded := hjitter (base initial max number)
  omega

/-- No answer took longer than the clock can run. -/
def Trial.Measured (t : Trial) : Prop :=
  ∀ elapsed, t.state = .settled (some elapsed) → elapsed.nanos ≤ Timers.lastInstant

def Call.Measured : Call α → Prop
  | .testing t => ∀ trial ∈ t.trials, trial.Measured
  | .executing _ | .configuring _ | .updating _ => True

open Progress ExecutorError

namespace Executor

variable {x : Executor} {m : Moment} {command : Command β} {options : Options}

/-! ## Calls on commands -/

theorem overflow_beginAttempt (x : Executor) (t : Trail) (e : Exchange β) :
    (x.beginAttempt t e).2.seen overflow? = none := by
  unfold beginAttempt
  dsimp only
  split <;> rfl

theorem overflow_attempt (hreaches : x.conventions.backoff.Reaches m.jitter) (number : Nat)
    (failures : List NodeFailure) (nodes : List Node) :
    (x.attempt command options number failures nodes m).2.seen overflow? = none := by
  cases nodes with
  | nil => rfl
  | cons node rest =>
    obtain ⟨pause, hpause⟩ := hreaches number
    unfold attempt
    dsimp only
    rw [hpause]
    split
    · rfl
    · rename_i e _
      split
      · rename_i entry _
        unfold serveCached
        cases e.command.parse entry.payload true <;> rfl
      · dsimp only
        split
        · exact x.overflow_beginAttempt _ _
        · rfl

theorem overflow_follow (hreaches : x.conventions.backoff.Reaches m.jitter) :
    (x.follow command options m).2.seen overflow? = none := by
  have hroute : ∀ error, (x.route command options.session).2 = .error error →
      error.overflow? = none := by
    intro error herror
    unfold route at herror
    repeat' split at herror
    all_goals cases herror
    all_goals rfl
  have hsame : (x.route command options.session).1.conventions = x.conventions := by
    unfold route
    repeat' split
    all_goals rfl
  unfold follow
  split
  · rename_i y error hrouted
    rw [hrouted] at hroute
    exact hroute error rfl
  · rename_i y nodes hrouted
    rw [hrouted] at hsame
    refine overflow_attempt ?_ _ _ _
    rw [show y.conventions = x.conventions from hsame]
    exact hreaches

theorem overflow_concludeAttempt (hreaches : x.conventions.backoff.Reaches m.jitter)
    (c : Execution β) (t : Trail) (e : Exchange β) (outcome : Outcome β) :
    (x.concludeAttempt c t e outcome m).2.seen overflow? = none := by
  cases outcome with
  | answered _ _ _ | ended _ => rfl
  | failed reason =>
    exact overflow_attempt
      (x := (x.markFailed e.node).emit (.failed e.request.url t.attempt reason)) hreaches _ _ _

/-! ## Wishes keep the conventions -/

theorem conventions_ask (x : Executor) (limit : Option Duration) (failures : List NodeFailure)
    (now : Instant) (nodes : List Node) :
    (x.ask limit failures now nodes).1.conventions = x.conventions := by
  rcases x.ask_cases limit failures now nodes with ⟨missed, -, hask⟩ |
    ⟨skipped, node, rest, missed, pool, wire, flight, -, -, -, hask⟩
  all_goals rw [hask]
  all_goals rfl

theorem conventions_refreshLocked (x : Executor) (order : SweepOrder) (observed : Nat)
    (now : Instant) : (x.refreshLocked order observed now).1.conventions = x.conventions := by
  unfold refreshLocked
  split
  · rfl
  · split
    · rfl
    · exact conventions_ask _ order.limit [] now order.nodes

theorem conventions_refresh (x : Executor) (order : SweepOrder) (now : Instant) :
    (x.refresh order now).1.conventions = x.conventions := by
  unfold refresh
  split
  · rfl
  · exact x.conventions_refreshLocked order x.sweeps now

theorem conventions_advanceRefresh (x : Executor) (refresh : Refresh) (signal : Signal)
    (now : Instant) : (x.advanceRefresh refresh signal now).1.conventions = x.conventions := by
  unfold advanceRefresh
  split
  · split
    · rfl
    · exact x.conventions_refreshLocked _ _ now
  · rfl
  · rfl
  · rename_i sweep
    obtain ⟨z, ⟨mailbox, cache, rfl⟩, hnext⟩ := x.advanceSweep_cases sweep signal now
    rcases hnext with ⟨flight, -, -, hadvance⟩ | ⟨reason, -, hadvance⟩ | ⟨topology, -, hadvance⟩
    all_goals rw [hadvance]
    · exact conventions_ask _ _ _ now _
    · unfold install
      dsimp only
      split <;> rfl

/-! ## Calls on commands after their wishes -/

theorem overflow_afterWish {next : Executor × Progress Refresh (Except ExecutorError Bool)}
    (hreaches : next.1.conventions.backoff.Reaches m.jitter)
    (hwish : next.2.seen overflow? = none) (isFirst : Bool) :
    (afterWish command options m isFirst next).2.seen overflow? = none := by
  rw [← seen_updateOf rfl isFirst] at hwish
  have hsame : (updateOf isFirst next).1.conventions = next.1.conventions := rfl
  unfold afterWish
  generalize updateOf isFirst next = update at hwish hsame
  obtain ⟨y, progress⟩ := update
  match progress with
  | .waiting _ => rfl
  | .done (.ok _) => exact overflow_follow (hsame ▸ hreaches)
  | .done (.error error) =>
    cases isFirst with
    | true => exact hwish
    | false => exact overflow_follow (hsame ▸ hreaches)

theorem overflow_execute (hreaches : x.conventions.backoff.Reaches m.jitter)
    (command : Command β) (options : Options) :
    (x.execute command options m).2.seen overflow? = none := by
  have hrefused : ∀ error, x.preparation m.now = .refused error → error.overflow? = none := by
    intro error hrefused
    unfold preparation at hrefused
    repeat' split at hrefused
    all_goals cases hrefused
    all_goals rfl
  rw [execute_prepared]
  split
  · rename_i error herror
    exact hrefused error herror
  · exact overflow_follow hreaches
  · refine overflow_afterWish ?_ (x.seen_refresh (fun _ => rfl) _ m.now) _
    rw [x.conventions_refresh]
    exact hreaches

theorem overflow_advanceExecution (hreaches : x.conventions.backoff.Reaches m.jitter)
    (c : Execution β) (signal : Signal) :
    (x.advanceExecution c signal m).2.seen overflow? = none := by
  obtain ⟨command, options, phase⟩ := c
  cases phase with
  | ensuring update =>
    refine overflow_afterWish ?_
      (x.seen_advanceRefresh (fun _ => rfl) update.refresh signal m.now) _
    rw [x.conventions_advanceRefresh]
    exact hreaches
  | pausing trail e pause =>
    cases signal with
    | resumed => exact x.overflow_beginAttempt trail e
    | granted | lockTimedOut | head _ _ | body _ _ | expired _ => rfl
  | flying trail f =>
    obtain ⟨mailbox, cache, hfst⟩ := x.advanceFlight_fst f signal m.now
    unfold advanceExecution
    dsimp only
    generalize x.advanceFlight f signal m.now = advanced at hfst
    obtain ⟨y, progress⟩ := advanced
    obtain rfl : y = { x with mailbox, cache } := hfst
    cases progress with
    | waiting _ => rfl
    | done outcome =>
      exact overflow_concludeAttempt (x := { x with mailbox, cache }) hreaches _ _ _ outcome

/-! ## Speed tests -/

theorem measured_beginTrial (x : Executor) (node : Node) (now : Instant) :
    (x.beginTrial node now).2.Measured := by
  intro elapsed hsettled
  unfold beginTrial at hsettled
  dsimp only at hsettled
  split at hsettled <;> cases hsettled

theorem measured_beginTrials (x : Executor) (now : Instant) (nodes : List Node) :
    ∀ trial ∈ (x.beginTrials now nodes).2, trial.Measured := by
  induction nodes generalizing x with
  | nil => exact fun _ htrial => (List.not_mem_nil htrial).elim
  | cons node nodes ih =>
    exact List.forall_mem_cons.mpr ⟨x.measured_beginTrial node now, ih (x.beginTrial node now).1⟩

theorem measured_advanceTrial {now : Instant} (hnow : now ≤ Timers.lastInstant) (x : Executor)
    {t : Trial} (h : t.Measured) (signal : Signal) : (x.advanceTrial t signal now).2.Measured := by
  intro elapsed hsettled
  unfold advanceTrial at hsettled
  split at hsettled
  · exact h elapsed hsettled
  · split at hsettled
    · cases hsettled
    · dsimp only at hsettled
      split at hsettled <;> cases hsettled
      exact (Nat.min_le_left _ _).trans ((Nat.sub_le _ _).trans hnow)

theorem measured_advanceTrials {now : Instant} (hnow : now ≤ Timers.lastInstant) (x : Executor)
    (signal : Signal) {trials : List Trial} (h : ∀ trial ∈ trials, trial.Measured) :
    ∀ trial ∈ (x.advanceTrials signal now trials).2, trial.Measured := by
  induction trials generalizing x with
  | nil => exact h
  | cons first trials ih =>
    obtain ⟨hfirst, hrest⟩ := List.forall_mem_cons.mp h
    exact List.forall_mem_cons.mpr
      ⟨x.measured_advanceTrial hnow hfirst signal, ih (x.advanceTrial first signal now).1 hrest⟩

theorem settled_of_results? {trials : List Trial} {results : List Selector.Probe} {etag : Int}
    (h : SpeedTest.results? ⟨etag, trials⟩ = some results) :
    ∀ p ∈ results, ∃ trial ∈ trials, trial.state = .settled p.2 := by
  unfold SpeedTest.results? at h
  dsimp only at h
  induction trials generalizing results with
  | nil =>
    cases h
    exact fun _ hp => (List.not_mem_nil hp).elim
  | cons first trials ih =>
    rw [List.mapM_cons] at h
    obtain ⟨result, hresult, h⟩ := Option.bind_eq_some_iff.mp h
    obtain ⟨rest, hrest, h⟩ := Option.bind_eq_some_iff.mp h
    cases h
    refine List.forall_mem_cons.mpr ⟨⟨first, List.mem_cons_self, ?_⟩, fun p hp => ?_⟩
    · split at hresult
      · rename_i elapsed hsettled
        cases hresult
        exact hsettled
      · cases hresult
    · obtain ⟨trial, htrial, hsettled⟩ := ih hrest p hp
      exact ⟨trial, List.mem_cons_of_mem _ htrial, hsettled⟩

theorem overflow_concludeTest {t : SpeedTest} (h : ∀ trial ∈ t.trials, trial.Measured) :
    (x.concludeTest t).2.seen overflow? = none := by
  unfold concludeTest
  split
  · rfl
  · rename_i results hresults
    have hroom : ∀ p ∈ results, ∀ d ∈ p.2,
        d.nanos + Selector.tieTolerance.nanos ≤ maxNanos := by
      intro p hp d hd
      obtain ⟨trial, htrial, hsettled⟩ := settled_of_results? hresults p hp
      have hlate := h trial htrial d (by rw [hsettled, Option.mem_def.mp hd])
      have hclock : Timers.lastInstant + Selector.tieTolerance.nanos ≤ maxNanos := by decide
      exact (Nat.add_le_add_right hlate _).trans hclock
    have hfastest : ∃ fastest, (x.selector.applySpeedTest t.etag results
        (x.readBalance == .fastestNode)).2 = .ok fastest := by
      unfold Selector.applySpeedTest
      dsimp only
      split
      · rw [Selector.fastestAfter_applyProbes]
        rcases x.selector.fastestAfter_spec hroom with ⟨-, hsame⟩ | ⟨_, _, place, -, hplace, -⟩
        · rw [hsame]
          exact ⟨_, rfl⟩
        · rw [hplace]
          exact ⟨_, rfl⟩
      · exact ⟨_, rfl⟩
    obtain ⟨fastest, hfastest⟩ := hfastest
    dsimp only
    rw [hfastest]
    rfl

/-! ## All calls -/

theorem overflow_firstUpdate (x : Executor) (now : Instant) :
    (x.firstUpdate now).2.seen overflow? = none := by
  unfold firstUpdate
  repeat' split
  any_goals rfl
  exact (seen_updateOf rfl _ _).trans (x.seen_refresh (fun _ => rfl) _ now)

theorem overflow_begin (hreaches : x.conventions.backoff.Reaches m.jitter) (order : Order α) :
    (x.begin m order).2.seen overflow? = none := by
  have hrefresh : ∀ order, (updateOf false (x.refresh order m.now)).2.seen overflow? = none :=
    fun order => (seen_updateOf rfl _ _).trans (x.seen_refresh (fun _ => rfl) order m.now)
  unfold begin
  cases order with
  | execute command options =>
    dsimp only
    rw [seen_executed]
    exact overflow_execute hreaches command options
  | updateTopology node force limit =>
    dsimp only
    rw [seen_updated]
    unfold updateTopology
    split
    · rfl
    · exact hrefresh _
  | updateConfiguration =>
    dsimp only
    split
    · rfl
    · rw [seen_configured]
      exact overflow_execute hreaches _ _
  | speedTest =>
    dsimp only
    rw [seen_tested]
    unfold speedTest
    dsimp only
    split
    · rfl
    · exact overflow_concludeTest (x.measured_beginTrials m.now x.topology.nodes)
  | firstUpdate =>
    dsimp only
    rw [seen_updated]
    exact x.overflow_firstUpdate m.now
  | refreshTopology force =>
    dsimp only
    rw [seen_updated]
    unfold refreshTopology
    dsimp only
    repeat' split
    · rfl
    · exact x.overflow_firstUpdate m.now
    · exact hrefresh _

theorem overflow_advance (hreaches : x.conventions.backoff.Reaches m.jitter)
    (hnow : m.now ≤ Timers.lastInstant) {call : Call α} (h : call.Measured) (signal : Signal) :
    (x.advance m signal call).2.seen overflow? = none := by
  unfold advance
  cases call with
  | executing c =>
    dsimp only
    rw [seen_executed]
    exact overflow_advanceExecution hreaches c signal
  | configuring c =>
    dsimp only
    rw [seen_configured]
    exact overflow_advanceExecution hreaches c signal
  | updating u =>
    dsimp only
    rw [seen_updated]
    exact (seen_updateOf rfl _ _).trans
      (x.seen_advanceRefresh (fun _ => rfl) u.refresh signal m.now)
  | testing t =>
    dsimp only
    rw [seen_tested]
    exact overflow_concludeTest (x.measured_advanceTrials hnow signal h)

theorem measured_tested {t : SpeedTest} {call : Call α} (h : ∀ trial ∈ t.trials, trial.Measured)
    (hwaits : (tested (x.concludeTest t) : Step α).2 = .waiting call) : call.Measured := by
  unfold concludeTest at hwaits
  split at hwaits
  · cases hwaits
    exact h
  · cases hwaits

theorem measured_of_executed {command : Command α} {next : Next α} {call : Call α}
    (hwaits : (executed command options next).2 = .waiting call) : call.Measured := by
  obtain ⟨y, progress⟩ := next
  cases progress with
  | waiting phase =>
    cases hwaits
    exact trivial
  | done result => cases hwaits

theorem measured_of_configured {command : Command ConfigurationVersion}
    {next : Next ConfigurationVersion} {call : Call α}
    (hwaits : (configured command options next : Step α).2 = .waiting call) : call.Measured := by
  obtain ⟨y, progress⟩ := next
  match progress with
  | .waiting phase =>
    cases hwaits
    exact trivial
  | .done (.error _) | .done (.ok _) => cases hwaits

theorem measured_of_updated {next : Executor × Progress Update (Except ExecutorError Bool)}
    {call : Call α} (hwaits : (updated next : Step α).2 = .waiting call) : call.Measured := by
  obtain ⟨y, progress⟩ := next
  cases progress with
  | waiting update =>
    cases hwaits
    exact trivial
  | done result => cases hwaits

theorem measured_begin {order : Order α} {call : Call α}
    (hwaits : (x.begin m order).2 = .waiting call) : call.Measured := by
  unfold begin at hwaits
  cases order with
  | execute _ _ => exact measured_of_executed hwaits
  | updateTopology _ _ _ | firstUpdate | refreshTopology _ => exact measured_of_updated hwaits
  | updateConfiguration =>
    dsimp only at hwaits
    split at hwaits
    · cases hwaits
    · exact measured_of_configured hwaits
  | speedTest =>
    unfold speedTest at hwaits
    dsimp only at hwaits
    split at hwaits
    · cases hwaits
    · exact measured_tested (x.measured_beginTrials m.now x.topology.nodes) hwaits

theorem measured_advance (hnow : m.now ≤ Timers.lastInstant) {signal : Signal} {old call : Call α}
    (h : old.Measured) (hwaits : (x.advance m signal old).2 = .waiting call) : call.Measured := by
  unfold advance at hwaits
  cases old with
  | executing c => exact measured_of_executed hwaits
  | configuring c => exact measured_of_configured hwaits
  | updating u => exact measured_of_updated hwaits
  | testing t => exact measured_tested (x.measured_advanceTrials hnow signal h) hwaits

end Executor

end ClusterClient
