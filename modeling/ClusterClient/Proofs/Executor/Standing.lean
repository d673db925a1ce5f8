import ClusterClient.Proofs.Executor.Calls

/-!
# What executors think of their nodes

Which nodes there are, which of them are believed unreachable and which is the
fastest, and whether the topology is out of date.  Each step of a call is one
deed, and the deed alone decides what becomes of that.
-/

namespace ClusterClient

variable {α β : Type}

namespace Selector

/-- A selector as if no reads in turn had been planned yet. -/
def rewound (s : Selector) : Selector := { s with turn := 0 }

theorem rewound_update (s : Selector) (incoming : Topology) :
    (s.rewound.update incoming).1 = (s.update incoming).1.rewound ∧
      (s.rewound.update incoming).2 = (s.update incoming).2 := by
  have hsame : s.rewound.topology = s.topology := rfl
  unfold update
  rw [hsame]
  split <;> exact ⟨rfl, rfl⟩

theorem rewound_markFailed (s : Selector) (node : Node) :
    s.rewound.markFailed node = (s.markFailed node).rewound := by
  have hcondition : (s.rewound.topology.contains node && !s.rewound.isFailed node) =
      (s.topology.contains node && !s.isFailed node) := rfl
  unfold markFailed
  rw [hcondition]
  split <;> rfl

theorem rewound_applyProbe (s : Selector) (probe : Probe) :
    s.rewound.applyProbe probe = (s.applyProbe probe).rewound := by
  unfold applyProbe
  split
  · rfl
  · exact s.rewound_markFailed probe.1

theorem rewound_applyProbes (s : Selector) (results : List Probe) :
    results.foldl applyProbe s.rewound = (results.foldl applyProbe s).rewound := by
  induction results generalizing s with
  | nil => rfl
  | cons probe results ih => rw [List.foldl_cons, List.foldl_cons, rewound_applyProbe, ih]

theorem rewound_applySpeedTest (s : Selector) (etag : Int) (results : List Probe)
    (updateFastest : Bool) :
    (s.rewound.applySpeedTest etag results updateFastest).1 =
      (s.applySpeedTest etag results updateFastest).1.rewound := by
  unfold applySpeedTest
  rw [rewound_applyProbes]
  generalize results.foldl applyProbe s = marked
  have htopology : marked.rewound.topology = marked.topology := rfl
  have hfastest : marked.rewound.fastestAfter results = marked.fastestAfter results := rfl
  dsimp only
  rw [htopology, hfastest]
  split
  · cases marked.fastestAfter results <;> rfl
  · rfl

end Selector

def Event.announcement? : Event → Option (Int × Nat)
  | .topologyUpdated etag nodes => some (etag, nodes)
  | .before _ _ | .succeeded _ _ _ | .failed _ _ _ => none

structure Standing where
  /-- The nodes, whatever reads in turn were planned. -/
  selector : Selector
  stale : Bool
  /-- The topologies that listeners were told of, the last one first. -/
  announced : List (Int × Nat)

/-- What a step of a call can mean for the nodes. -/
inductive Deed where
  | nothing
  /-- A sweep ended with a topology. -/
  | learned (topology : Topology)
  /-- A node gave a result. -/
  | served (node : Node)
  /-- A node failed, and the call may have had no other one left. -/
  | failed (node : Node) (exhausted : Bool)
  /-- A speed test ended. -/
  | tested (etag : Int) (results : List Selector.Probe) (updateFastest : Bool)

def Standing.after (s : Standing) : Deed → Standing
  | .nothing => s
  | .learned topology =>
    { selector := (s.selector.update topology).1
      stale := false
      announced :=
        if (s.selector.update topology).2 then (topology.etag, topology.size) :: s.announced
        else s.announced }
  | .served node => { s with selector := s.selector.restore node }
  | .failed node exhausted =>
    { s with selector := s.selector.markFailed node, stale := s.stale || exhausted }
  | .tested etag results updateFastest =>
    { s with selector := (s.selector.applySpeedTest etag results updateFastest).1 }

/-! ## The deeds of calls -/

/-- What an answer means once it is known what it comes to. -/
def Trail.deed (t : Trail) (node : Node) : Progress (Flight α) (Outcome α) → Deed
  | .done (.answered _ _ _) => .served node
  | .done (.failed _) => .failed node t.rest.isEmpty
  | .done (.ended _) | .waiting _ => .nothing

namespace Executor

def wishDeed (x : Executor) (refresh : Refresh) (signal : Signal) (now : Instant) : Deed :=
  match x.fetched? now (.under refresh signal) with
  | some topology => .learned topology
  | none => .nothing

def phaseDeed (x : Executor) (phase : Phase α) (signal : Signal) (now : Instant) : Deed :=
  match phase with
  | .ensuring update => x.wishDeed update.refresh signal now
  | .pausing _ _ _ => .nothing
  | .flying trail flight =>
    trail.deed flight.exchange.node (x.advanceFlight flight signal now).2

def testDeed (x : Executor) (t : SpeedTest) : Deed :=
  match t.results? with
  | some results => .tested t.etag results (x.readBalance == .fastestNode)
  | none => .nothing

def callDeed (x : Executor) (signal : Signal) (now : Instant) : Call α → Deed
  | .executing c => x.phaseDeed c.phase signal now
  | .configuring c => x.phaseDeed c.phase signal now
  | .updating u => x.wishDeed u.refresh signal now
  | .testing t => x.testDeed { t with trials := (x.advanceTrials signal now t.trials).2 }

/-- Of the calls that just start, only a speed test that can ask no node means something for the
nodes. -/
def orderDeed (x : Executor) (now : Instant) : Order α → Deed
  | .speedTest =>
    if x.disposed || x.topology.isEmpty then .nothing
    else x.testDeed ⟨x.topology.etag, (x.beginTrials now x.topology.nodes).2⟩
  | .execute _ _ | .updateTopology _ _ _ | .updateConfiguration | .firstUpdate
  | .refreshTopology _ => .nothing

def standing (x : Executor) : Standing where
  selector := x.selector.rewound
  stale := x.stale
  announced := x.events.filterMap Event.announcement?

variable {x y : Executor} {command : Command α} {options : Options} {m : Moment}

/-! ## What leaves everything as it was -/

theorem standing_emit {event : Event} (x : Executor) (h : event.announcement? = none) :
    (x.emit event).standing = x.standing := by
  have hevents : (event :: x.events).filterMap Event.announcement? =
      x.events.filterMap Event.announcement? := List.filterMap_cons_none h
  unfold emit standing
  rw [hevents]

theorem standing_advanceFlight (x : Executor) (f : Flight α) (signal : Signal) (now : Instant) :
    (x.advanceFlight f signal now).1.standing = x.standing := by
  obtain ⟨mailbox, cache, hfst⟩ := x.advanceFlight_fst f signal now
  rw [hfst]
  rfl

theorem standing_beginAttempt (x : Executor) (t : Trail) (e : Exchange α) :
    (x.beginAttempt t e).1.standing = x.standing := by
  have hemit : (x.emit (.before e.request.url t.attempt)).standing = x.standing :=
    x.standing_emit rfl
  unfold beginAttempt
  dsimp only
  split
  · rename_i z flight hsend
    obtain ⟨⟨pool, rfl⟩, -⟩ := send_eq_ok hsend
    exact hemit
  · exact (standing_emit _ rfl).trans hemit

theorem standing_attempt (x : Executor) (number : Nat) (failures : List NodeFailure)
    (nodes : List Node) (m : Moment) :
    (x.attempt command options number failures nodes m).1.standing =
      { x.standing with stale := x.standing.stale || nodes.isEmpty } := by
  have hturn := x.turnsTo_attempt command options number failures nodes m
  generalize x.attempt command options number failures nodes m = next at hturn ⊢
  cases hturn with
  | noneLeft =>
    unfold standing
    simp
  | begins _ => exact (x.standing_beginAttempt _ _).trans (by simp)
  | noRequest _ | served _ _ _ _ | noDelay _ | pauses _ _ =>
    rw [List.isEmpty_cons, Bool.or_false]

theorem standing_route (x : Executor) (command : Command α) (session : Option Int) :
    (x.route command session).1.standing = x.standing := by
  unfold route
  split
  · split <;> rfl
  · unfold Selector.plan Selector.firstForRead
    dsimp only
    repeat' split
    all_goals rfl

theorem standing_follow (x : Executor) (m : Moment) :
    (x.follow command options m).1.standing = x.standing := by
  have hroute := x.standing_route command options.session
  unfold follow
  split
  · rename_i z e hrouted
    rw [hrouted] at hroute
    exact hroute
  · rename_i z nodes hrouted
    rw [hrouted] at hroute
    have hnodes : nodes.isEmpty = false := by simpa using ne_nil_of_route hrouted
    rw [standing_attempt, hnodes, Bool.or_false]
    exact hroute

/-! ## Sweeps -/

theorem standing_ask (x : Executor) (limit : Option Duration) (failures : List NodeFailure)
    (now : Instant) (nodes : List Node) :
    (x.ask limit failures now nodes).1.standing = x.standing := by
  rcases x.ask_cases limit failures now nodes with
    ⟨missed, -, hask⟩ | ⟨skipped, node, rest, missed, pool, wire, flight, -, -, -, hask⟩
  · rw [hask]
    rfl
  · rw [hask]
    rfl

theorem standing_refreshLocked (x : Executor) (order : SweepOrder) (observed : Nat)
    (now : Instant) : (x.refreshLocked order observed now).1.standing = x.standing := by
  unfold refreshLocked
  split
  · rfl
  · split
    · rfl
    · exact standing_ask { x with lockHeld := true } order.limit [] now order.nodes

theorem standing_refresh (x : Executor) (order : SweepOrder) (now : Instant) :
    (x.refresh order now).1.standing = x.standing := by
  unfold refresh
  split
  · rfl
  · exact x.standing_refreshLocked order x.sweeps now

theorem standing_install (x : Executor) (topology : Topology) :
    (x.install topology).standing = x.standing.after (.learned topology) := by
  obtain ⟨hselector, haccepted⟩ := x.selector.rewound_update topology
  unfold Standing.after standing
  dsimp only
  rw [hselector, haccepted]
  unfold install
  cases x.selector.update topology with
  | mk selector accepted => cases accepted <;> rfl

theorem standing_advanceRefresh (x : Executor) (refresh : Refresh) (signal : Signal)
    (now : Instant) :
    (x.advanceRefresh refresh signal now).1.standing =
      x.standing.after (x.wishDeed refresh signal now) := by
  cases refresh with
  | queued order observed =>
    have hnothing : x.wishDeed (.queued order observed) signal now = .nothing := rfl
    rw [hnothing]
    unfold advanceRefresh
    cases signal with
    | granted =>
      dsimp only
      split
      · rfl
      · exact x.standing_refreshLocked order observed now
    | lockTimedOut | resumed | head _ _ | body _ _ | expired _ => rfl
  | sweeping sweep =>
    obtain ⟨z, ⟨mailbox, cache, hz⟩, hnext⟩ := x.advanceSweep_cases sweep signal now
    have hstanding : z.standing = x.standing := by rw [hz]; rfl
    have hsweep : (x.advanceRefresh (.sweeping sweep) signal now).1 =
        (x.advanceSweep sweep signal now).1 := rfl
    rw [hsweep]
    unfold wishDeed
    rcases hnext with ⟨flight, -, hfetched, hadvance⟩ | ⟨reason, hfetched, hadvance⟩ |
      ⟨topology, hfetched, hadvance⟩
    · rw [hfetched, hadvance]
      exact hstanding
    · rw [hfetched, hadvance]
      exact (z.standing_ask _ _ _ _).trans hstanding
    · rw [hfetched, hadvance]
      exact (z.standing_install topology).trans (by rw [hstanding])

/-! ## Calls on commands -/

theorem standing_afterWish (isFirst : Bool)
    (next : Executor × Progress Refresh (Except ExecutorError Bool)) :
    (afterWish command options m isFirst next).1.standing = next.1.standing := by
  obtain ⟨y, progress⟩ := next
  cases progress with
  | waiting refresh => rfl
  | done result =>
    unfold afterWish updateOf
    simp only [Progress.mapState, Progress.map]
    cases afterUpdate isFirst (y.judge isFirst result) with
    | error e => rfl
    | ok _ => exact y.standing_follow m

theorem standing_execute (x : Executor) (command : Command α) (options : Options) (m : Moment) :
    (x.execute command options m).1.standing = x.standing := by
  rw [execute_prepared]
  cases x.preparation m.now with
  | refused e => rfl
  | known => exact x.standing_follow m
  | sweep isFirst nodes => exact (standing_afterWish _ _).trans (x.standing_refresh _ _)

theorem standing_concludeAttempt (x : Executor) (c : Execution α) (t : Trail) (e : Exchange α)
    (outcome : Outcome α) (m : Moment) :
    (x.concludeAttempt c t e outcome m).1.standing =
      x.standing.after (t.deed e.node (.done outcome)) := by
  unfold concludeAttempt
  cases outcome with
  | answered result status fromCache => exact standing_emit _ rfl
  | ended fault => exact x.standing_emit rfl
  | failed reason =>
    have hmarked : (x.markFailed e.node).standing =
        { x.standing with selector := x.standing.selector.markFailed e.node } := by
      unfold standing markFailed
      rw [x.selector.rewound_markFailed]
    dsimp only
    rw [standing_attempt, standing_emit _ rfl, hmarked]
    rfl

theorem standing_advanceExecution (x : Executor) (m : Moment) (signal : Signal)
    (c : Execution α) :
    (x.advanceExecution c signal m).1.standing =
      x.standing.after (x.phaseDeed c.phase signal m.now) := by
  obtain ⟨command, options, phase⟩ := c
  cases phase with
  | ensuring update =>
    exact (standing_afterWish update.isFirst _).trans
      (x.standing_advanceRefresh update.refresh signal m.now)
  | pausing trail e pause =>
    cases signal with
    | resumed => exact x.standing_beginAttempt trail e
    | granted | lockTimedOut | head _ _ | body _ _ | expired _ => rfl
  | flying trail flight =>
    have hflight := x.standing_advanceFlight flight signal m.now
    unfold advanceExecution phaseDeed
    dsimp only
    cases hadvance : x.advanceFlight flight signal m.now with
    | mk y progress =>
      rw [hadvance] at hflight
      have hstanding : y.standing = x.standing := hflight
      cases progress with
      | waiting flight => exact hstanding
      | done outcome =>
        dsimp only
        rw [standing_concludeAttempt, hstanding]

theorem standing_configured (command : Command ConfigurationVersion) (options : Options)
    (next : Next ConfigurationVersion) :
    (configured command options next : Step α).1.standing = next.1.standing := by
  obtain ⟨y, progress⟩ := next
  match progress with
  | .waiting _ => rfl
  | .done (.error _) => rfl
  | .done (.ok _) => rfl

/-! ## Speed tests -/

theorem beginTrials_fst (x : Executor) (now : Instant) (nodes : List Node) :
    ∃ pool sent, (x.beginTrials now nodes).1 = { x with pool, sent } := by
  induction nodes generalizing x with
  | nil => exact ⟨x.pool, x.sent, rfl⟩
  | cons node nodes ih =>
    have htrial : ∃ pool sent, (x.beginTrial node now).1 = { x with pool, sent } := by
      unfold beginTrial
      dsimp only
      split
      · rename_i z flight hlaunch
        obtain ⟨⟨pool, wire, rfl⟩, -⟩ := launch_eq_ok hlaunch
        exact ⟨pool, _, rfl⟩
      · exact ⟨x.pool, x.sent, rfl⟩
    obtain ⟨pool, sent, htrial⟩ := htrial
    obtain ⟨pool', sent', hrest⟩ := ih { x with pool, sent }
    refine ⟨pool', sent', ?_⟩
    simp only [beginTrials, htrial, hrest]

theorem standing_concludeTest (x : Executor) (t : SpeedTest) :
    (x.concludeTest t).1.standing = x.standing.after (x.testDeed t) := by
  unfold concludeTest testDeed
  cases t.results? with
  | none => rfl
  | some results =>
    unfold Standing.after standing
    dsimp only
    rw [x.selector.rewound_applySpeedTest]

theorem standing_speedTest (x : Executor) (now : Instant) :
    (x.speedTest now).1.standing = x.standing.after (x.orderDeed now (.speedTest : Order α)) := by
  unfold speedTest orderDeed
  dsimp only
  split
  · rfl
  · obtain ⟨pool, sent, hfst⟩ := x.beginTrials_fst now x.topology.nodes
    rw [standing_concludeTest, hfst]
    rfl

theorem standing_advanceTest (x : Executor) (t : SpeedTest) (signal : Signal) (now : Instant) :
    (x.advanceTest t signal now).1.standing =
      x.standing.after
        (x.testDeed { t with trials := (x.advanceTrials signal now t.trials).2 }) := by
  obtain ⟨mailbox, cache, hfst⟩ := x.advanceTrials_fst signal now t.trials
  unfold advanceTest
  dsimp only
  rw [standing_concludeTest, hfst]
  rfl

/-! ## All calls -/

theorem standing_begin (x : Executor) (m : Moment) (order : Order α) :
    (x.begin m order).1.standing = x.standing.after (x.orderDeed m.now order) := by
  have hwish : ∀ (wish : SweepOrder) (isFirst : Bool),
      (updateOf isFirst (x.refresh wish m.now)).1.standing = x.standing :=
    fun wish isFirst => x.standing_refresh wish m.now
  have hfirst : (x.firstUpdate m.now).1.standing = x.standing := by
    unfold firstUpdate
    split
    · rfl
    · split
      · rfl
      · split
        · rfl
        · exact hwish _ _
  cases order with
  | execute command options =>
    have hexecutor := (executed_spec command options (x.execute command options m)).1
    exact (congrArg standing hexecutor).trans (x.standing_execute command options m)
  | updateTopology node force limit =>
    show (x.updateTopology node force limit m.now).1.standing = x.standing
    unfold updateTopology
    split
    · rfl
    · exact hwish _ _
  | updateConfiguration =>
    show _ = x.standing
    unfold begin
    cases x.scope with
    | cluster => rfl
    | database name => exact (standing_configured _ _ _).trans (x.standing_execute _ _ m)
  | speedTest => exact x.standing_speedTest m.now
  | firstUpdate => exact hfirst
  | refreshTopology force =>
    show (x.refreshTopology force m.now).1.standing = x.standing
    unfold refreshTopology
    split
    · rfl
    · split
      · exact hfirst
      · exact hwish _ _

theorem standing_advance (x : Executor) (m : Moment) (signal : Signal) (call : Call α) :
    (x.advance m signal call).1.standing = x.standing.after (x.callDeed signal m.now call) := by
  cases call with
  | executing c =>
    have hexecutor := (executed_spec c.command c.options (x.advanceExecution c signal m)).1
    exact (congrArg standing hexecutor).trans (x.standing_advanceExecution m signal c)
  | configuring c =>
    exact (standing_configured _ _ _).trans (x.standing_advanceExecution m signal c)
  | updating u =>
    have hexecutor := (updated_spec (α := α) u.isFirst (x.advanceRefresh u.refresh signal m.now)).1
    exact (congrArg standing hexecutor).trans (x.standing_advanceRefresh u.refresh signal m.now)
  | testing t => exact x.standing_advanceTest t signal m.now

end Executor

end ClusterClient
