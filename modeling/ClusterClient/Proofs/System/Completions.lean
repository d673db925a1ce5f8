import ClusterClient.Proofs.System.Deeds
import ClusterClient.Proofs.System.LastSweeps
import ClusterClient.Proofs.System.Upkeep

/-!
# Work that came to its end

What an executor goes by from one call to the next changes only when something has
come to its end: an attempt on a node, a sweep, a speed test.  What is under way has
left no trace there yet, and leaves none if it is given up.
-/

namespace ClusterClient

variable {α β γ : Type}

/-- What an executor goes by from one call to the next. -/
structure Ledger where
  /-- The topology, the marks and the fastest node, whatever reads in turn were planned. -/
  selector : Selector
  stale : Bool
  initialized : Bool
  cache : Cache
  sweeps : Nat
  lastSweep : Option SweepRecord

/-- Something that came to its end, and what it came to.  An attempt is known by the request that
was sent for it. -/
inductive Completion where
  /-- The node gave a result. -/
  | served (ticket : Nat) (node : Node) (operation : Option Cache.Operation)
  /-- The answer was a fault that ended the call. -/
  | refused (ticket : Nat) (operation : Option Cache.Operation)
  /-- The node failed, and the call may have had no other one left. -/
  | failed (ticket : Nat) (node : Node) (exhausted : Bool)
  | swept (outcome : Except (List NodeFailure) Topology)
  | tested (etag : Int) (results : List Selector.Probe) (updateFastest : Bool)
  | disposed

namespace Completion

def ticket? : Completion → Option Nat
  | .served ticket _ _ | .refused ticket _ | .failed ticket _ _ => some ticket
  | .swept _ | .tested _ _ _ | .disposed => none

def deed : Completion → Deed
  | .served _ node _ => .served node
  | .failed _ node exhausted => .failed node exhausted
  | .swept (.ok topology) => .learned topology
  | .tested etag results updateFastest => .tested etag results updateFastest
  | .swept (.error _) | .refused _ _ | .disposed => .nothing

def operation? : Completion → Option Cache.Operation
  | .served _ _ operation | .refused _ operation => operation
  | .disposed => some .clear
  | .failed _ _ _ | .swept _ | .tested _ _ _ => none

def swept? : Completion → Option (Except (List NodeFailure) Topology)
  | .swept outcome => some outcome
  | .served _ _ _ | .refused _ _ | .failed _ _ _ | .tested _ _ _ | .disposed => none

end Completion

def Ledger.after (l : Ledger) (now : Instant) : Completion → Ledger
  | .served _ node operation =>
    { l with selector := l.selector.restore node, cache := l.cache.upkeep now operation }
  | .refused _ operation => { l with cache := l.cache.upkeep now operation }
  | .failed _ node exhausted =>
    { l with selector := l.selector.markFailed node, stale := l.stale || exhausted }
  | .swept (.error failures) =>
    { l with sweeps := l.sweeps + 1, lastSweep := some ⟨some failures, now⟩ }
  | .swept (.ok topology) =>
    { l with
      selector := (l.selector.update topology).1
      stale := false
      initialized := true
      sweeps := l.sweeps + 1
      lastSweep := some ⟨none, now⟩ }
  | .tested etag results updateFastest =>
    { l with selector := (l.selector.applySpeedTest etag results updateFastest).1 }
  | .disposed => { l with cache := l.cache.clear }

theorem Takes.counts {command : Command Topology} {k k' : Knowledge} {now : Instant}
    {caller : Caller} {before after : Option Refresh} {r : Report}
    (h : Takes command k now caller before k' after r) :
    k'.sweeps = k.sweeps + r.ended.toList.length ∧
      k'.initialized = (k.initialized || r.ended.any Except.isOk) := by
  cases h with
  | @drops refresh => cases refresh <;> exact ⟨rfl, (Bool.or_false _).symm⟩
  | joins _ _ | waits | timesOut | spares _ _ | begins _ _ _ _ | beginsInVain _ _ | stays _
  | goesOn _ _ _ | fails _ _ => exact ⟨rfl, (Bool.or_false _).symm⟩
  | fetches => exact ⟨rfl, (Bool.or_true _).symm⟩

namespace Executor

variable {x y : Executor} {signal : Signal} {now : Instant}

def ledger (x : Executor) : Ledger where
  selector := x.selector.rewound
  stale := x.stale
  initialized := x.initialized
  cache := x.cache
  sweeps := x.sweeps
  lastSweep := x.lastSweep

def wishEnd? (x : Executor) (caller : Caller) (now : Instant) (stage : Stage) : Option Completion :=
  (x.report caller now stage).ended.map .swept

def phaseEnd? (x : Executor) (caller : Caller) (phase : Phase β) (signal : Signal) (now : Instant) :
    Option Completion :=
  match phase with
  | .ensuring update => x.wishEnd? caller now (.under update.refresh signal)
  | .pausing _ _ _ => none
  | .flying trail f =>
    match (x.advanceFlight f signal now).2 with
    | .waiting _ => none
    | .done (.answered _ _ _) => some (.served f.ticket f.exchange.node (f.upkeep? signal))
    | .done (.ended _) => some (.refused f.ticket (f.upkeep? signal))
    | .done (.failed _) => some (.failed f.ticket f.exchange.node trail.rest.isEmpty)

def testEnd? (x : Executor) (t : SpeedTest) : Option Completion :=
  t.results?.map fun results => .tested t.etag results (x.readBalance == .fastestNode)

def callEnd? (x : Executor) (caller : Caller) (signal : Signal) (now : Instant) :
    Call α → Option Completion
  | .executing c => x.phaseEnd? caller c.phase signal now
  | .configuring c => x.phaseEnd? caller c.phase signal now
  | .updating u => x.wishEnd? caller now (.under u.refresh signal)
  | .testing t => x.testEnd? { t with trials := (x.advanceTrials signal now t.trials).2 }

def orderEnd? (x : Executor) (caller : Caller) (now : Instant) : Order α → Option Completion
  | .speedTest =>
    if x.disposed || x.topology.isEmpty then none
    else x.testEnd? ⟨x.topology.etag, (x.beginTrials now x.topology.nodes).2⟩
  | order => (x.wish? now order).bind fun wish => x.wishEnd? caller now (.entering wish)

/-! ## What ends is all that is done for the nodes -/

def deedOf (ended : Option Completion) : Deed := (ended.map (·.deed)).getD .nothing

theorem wishDeed_eq (x : Executor) (caller : Caller) (refresh : Refresh) (signal : Signal)
    (now : Instant) :
    x.wishDeed refresh signal now = deedOf (x.wishEnd? caller now (.under refresh signal)) := by
  unfold wishEnd?
  cases hfetched : x.fetched? now (.under refresh signal) with
  | some topology =>
    rw [System.ended_of_fetched? hfetched]
    unfold wishDeed
    rw [hfetched]
    rfl
  | none =>
    have hnothing : x.wishDeed refresh signal now = .nothing := by
      unfold wishDeed
      rw [hfetched]
    rw [hnothing]
    match hended : (x.report caller now (.under refresh signal)).ended with
    | none | some (.error _) => rfl
    | some (.ok topology) => cases hfetched.symm.trans (fetched?_of_ended hended)

theorem phaseDeed_eq (x : Executor) (caller : Caller) (phase : Phase β) (signal : Signal)
    (now : Instant) :
    x.phaseDeed phase signal now = deedOf (x.phaseEnd? caller phase signal now) := by
  cases phase with
  | ensuring update => exact x.wishDeed_eq caller update.refresh signal now
  | pausing _ _ _ => rfl
  | flying trail f =>
    unfold phaseDeed phaseEnd? Trail.deed
    dsimp only
    cases (x.advanceFlight f signal now).2 with
    | waiting _ => rfl
    | done outcome => cases outcome <;> rfl

theorem testDeed_eq (x : Executor) (t : SpeedTest) : x.testDeed t = deedOf (x.testEnd? t) := by
  unfold testDeed testEnd?
  cases t.results? <;> rfl

theorem callDeed_eq (x : Executor) (caller : Caller) (signal : Signal) (now : Instant)
    (call : Call α) :
    x.callDeed signal now call = deedOf (x.callEnd? caller signal now call) := by
  cases call with
  | executing c => exact x.phaseDeed_eq caller c.phase signal now
  | configuring c => exact x.phaseDeed_eq caller c.phase signal now
  | updating u => exact x.wishDeed_eq caller u.refresh signal now
  | testing t => exact x.testDeed_eq _

theorem deedOf_entering (x : Executor) (caller : Caller) (now : Instant)
    (wish : Option SweepOrder) :
    deedOf (wish.bind fun wish => x.wishEnd? caller now (.entering wish)) = .nothing := by
  cases wish with
  | none => rfl
  | some wish =>
    show deedOf ((x.report caller now (.entering wish)).ended.map .swept) = .nothing
    match hended : (x.report caller now (.entering wish)).ended with
    | none | some (.error _) => rfl
    | some (.ok topology) => cases fetched?_of_ended hended

theorem orderDeed_eq (x : Executor) (caller : Caller) (now : Instant) (order : Order α) :
    x.orderDeed now order = deedOf (x.orderEnd? caller now order) := by
  cases order with
  | speedTest =>
    unfold orderDeed orderEnd?
    dsimp only
    split
    · rfl
    · exact x.testDeed_eq _
  | execute _ _ | updateTopology _ _ _ | updateConfiguration | firstUpdate | refreshTopology _ =>
    exact (x.deedOf_entering caller now _).symm

/-! ## What ends is all that the cache is told -/

theorem bind_wishEnd? {g : Completion → Option γ} (hswept : ∀ outcome, g (.swept outcome) = none)
    (x : Executor) (caller : Caller) (now : Instant) (stage : Stage) :
    (x.wishEnd? caller now stage).bind g = none := by
  unfold wishEnd?
  cases (x.report caller now stage).ended with
  | none => rfl
  | some outcome => exact hswept outcome

theorem bind_testEnd? {g : Completion → Option γ}
    (htested : ∀ etag results updateFastest, g (.tested etag results updateFastest) = none)
    (x : Executor) (t : SpeedTest) : (x.testEnd? t).bind g = none := by
  unfold testEnd?
  cases t.results? with
  | none => rfl
  | some results => exact htested _ _ _

theorem bind_orderEnd? {g : Completion → Option γ} (hswept : ∀ outcome, g (.swept outcome) = none)
    (htested : ∀ etag results updateFastest, g (.tested etag results updateFastest) = none)
    (x : Executor) (caller : Caller) (now : Instant) (order : Order α) :
    (x.orderEnd? caller now order).bind g = none := by
  have hentering : ∀ wish : Option SweepOrder,
      (wish.bind fun wish => x.wishEnd? caller now (.entering wish)).bind g = none := by
    intro wish
    cases wish with
    | none => rfl
    | some wish => exact x.bind_wishEnd? hswept caller now _
  cases order with
  | speedTest =>
    unfold orderEnd?
    dsimp only
    split
    · rfl
    · exact x.bind_testEnd? htested _
  | execute _ _ | updateTopology _ _ _ | updateConfiguration | firstUpdate | refreshTopology _ =>
    exact hentering _

theorem operation?_phaseEnd? (x : Executor) (caller : Caller) (phase : Phase β) (signal : Signal)
    (now : Instant) :
    (x.phaseEnd? caller phase signal now).bind Completion.operation? = phase.upkeep? signal := by
  cases phase with
  | ensuring update => exact x.bind_wishEnd? (fun _ => rfl) caller now _
  | pausing _ _ _ => rfl
  | flying trail f =>
    unfold phaseEnd? Phase.upkeep?
    dsimp only
    cases hadvance : (x.advanceFlight f signal now).2 with
    | waiting f' => exact (upkeep?_of_waiting hadvance).symm
    | done outcome =>
      cases outcome with
      | answered _ _ _ | ended _ => rfl
      | failed reason => exact (upkeep?_of_failed hadvance).symm

theorem operation?_callEnd? {call : Call α} (h : call.Fits x) (caller : Caller) (signal : Signal)
    (now : Instant) :
    (x.callEnd? caller signal now call).bind Completion.operation? = call.upkeep? signal := by
  cases call with
  | executing c => exact x.operation?_phaseEnd? caller c.phase signal now
  | configuring c =>
    refine (x.operation?_phaseEnd? caller c.phase signal now).trans ?_
    exact upkeep?_of_fits h.2 (by rw [h.1.uncacheable]; rfl) signal
  | updating u => exact x.bind_wishEnd? (fun _ => rfl) caller now _
  | testing t => exact x.bind_testEnd? (fun _ _ _ => rfl) _

/-! ## Sweeps are among what ends -/

theorem swept?_wishEnd? (x : Executor) (caller : Caller) (now : Instant) (stage : Stage) :
    (x.wishEnd? caller now stage).bind Completion.swept? = (x.report caller now stage).ended := by
  unfold wishEnd?
  cases (x.report caller now stage).ended <;> rfl

theorem swept?_callEnd? (x : Executor) (caller : Caller) (signal : Signal) (now : Instant)
    (call : Call α) :
    (x.callEnd? caller signal now call).bind Completion.swept? =
      (call.refresh?.map fun refresh => x.report caller now (.under refresh signal)).bind
        (·.ended) := by
  have hphase : ∀ {γ : Type} (phase : Phase γ),
      (x.phaseEnd? caller phase signal now).bind Completion.swept? =
        (phase.refresh?.map fun refresh => x.report caller now (.under refresh signal)).bind
          (·.ended) := by
    intro γ phase
    cases phase with
    | ensuring update => exact x.swept?_wishEnd? caller now _
    | pausing _ _ _ => rfl
    | flying trail f =>
      unfold phaseEnd?
      dsimp only
      split <;> rfl
  cases call with
  | executing c => exact hphase c.phase
  | configuring c => exact hphase c.phase
  | updating u => exact x.swept?_wishEnd? caller now _
  | testing t => exact x.bind_testEnd? (fun _ _ _ => rfl) _

theorem swept?_orderEnd? (x : Executor) (caller : Caller) (now : Instant) (order : Order α) :
    (x.orderEnd? caller now order).bind Completion.swept? =
      ((x.wish? now order).map fun wish => x.report caller now (.entering wish)).bind
        (·.ended) := by
  have hentering : ∀ wish : Option SweepOrder,
      (wish.bind fun wish => x.wishEnd? caller now (.entering wish)).bind Completion.swept? =
        (wish.map fun wish => x.report caller now (.entering wish)).bind (·.ended) := by
    intro wish
    cases wish with
    | none => rfl
    | some wish => exact x.swept?_wishEnd? caller now _
  cases order with
  | speedTest =>
    unfold orderEnd?
    dsimp only
    split
    · rfl
    · exact x.bind_testEnd? (fun _ _ _ => rfl) _
  | execute _ _ | updateTopology _ _ _ | updateConfiguration | firstUpdate | refreshTopology _ =>
    exact hentering _

theorem ledger_of_parts {completion : Option Completion}
    (hstanding : y.standing = x.standing.after (deedOf completion))
    (hcache : y.cache = x.cache.upkeep now (completion.bind (·.operation?)))
    (hcounts : y.sweeps = x.sweeps + (completion.bind (·.swept?)).toList.length ∧
      y.initialized = (x.initialized || (completion.bind (·.swept?)).any Except.isOk))
    (hlast : y.lastSweep =
      ((completion.bind (·.swept?)).map (SweepRecord.of now)).or x.lastSweep) :
    y.ledger = (completion.map (x.ledger.after now)).getD x.ledger := by
  have hselector : y.selector.rewound = (x.standing.after (deedOf completion)).selector :=
    congrArg Standing.selector hstanding
  have hstale : y.stale = (x.standing.after (deedOf completion)).stale :=
    congrArg Standing.stale hstanding
  unfold ledger
  rw [hselector, hstale, hcache, hcounts.1, hcounts.2, hlast]
  match completion with
  | none | some (.served _ _ _) | some (.refused _ _) | some (.failed _ _ _)
  | some (.tested _ _ _) | some .disposed | some (.swept (.error _)) | some (.swept (.ok _)) =>
    simp [deedOf, Completion.deed, Completion.operation?, Completion.swept?, Standing.after,
      standing, Ledger.after, SweepRecord.of, Cache.upkeep, Cache.operate, Except.isOk,
      Except.toBool]

end Executor

namespace System

variable {s : System α} {m : Moment} {action : Action α}

def completion? (s : System α) (m : Moment) (action : Action α) : Option Completion :=
  match s.opening? action with
  | some (caller, x, order) => x.orderEnd? caller m.now order
  | none =>
    match action with
    | .signal caller signal => (s.call? caller).bind (s.executor.callEnd? caller signal m.now)
    | .dispose => if s.executor.disposed then none else some .disposed
    | .begin _ _ | .attend | .tick _ | .abandon _ => none

theorem deed_eq (s : System α) (m : Moment) (action : Action α) :
    s.deed m action = Executor.deedOf (s.completion? m action) := by
  unfold deed completion?
  cases s.opening? action with
  | some opening => exact opening.2.1.orderDeed_eq opening.1 m.now opening.2.2
  | none =>
    cases action with
    | begin _ _ | attend | tick _ | abandon _ => rfl
    | signal caller signal =>
      dsimp only
      cases s.call? caller with
      | none => rfl
      | some call => exact s.executor.callDeed_eq caller signal m.now call
    | dispose =>
      dsimp only
      split <;> rfl

theorem Fits.upkeep?_eq (h : s.Fits) (m : Moment) (action : Action α) :
    s.upkeep? action = (s.completion? m action).bind (·.operation?) := by
  unfold completion?
  cases hopening : s.opening? action with
  | some opening =>
    rw [upkeep?_of_opens (opens_of_opening hopening)]
    exact (opening.2.1.bind_orderEnd? (fun _ => rfl) (fun _ _ _ => rfl) opening.1 m.now
      opening.2.2).symm
  | none =>
    cases action with
    | begin _ _ | attend | tick _ | abandon _ => rfl
    | signal caller signal =>
      dsimp only
      cases hcall : s.call? caller with
      | none =>
        show (s.call? caller).bind _ = _
        rw [hcall]
        rfl
      | some call =>
        rw [upkeep?_signal hcall]
        exact (Executor.operation?_callEnd? (h caller call hcall) caller signal m.now).symm
    | dispose =>
      show (if s.executor.disposed then none else some Cache.Operation.clear) = _
      split <;> rfl

theorem swept?_completion? (s : System α) (m : Moment) (action : Action α) :
    (s.completion? m action).bind (·.swept?) = (s.report? m action).bind (·.ended) := by
  unfold completion? report?
  cases s.opening? action with
  | some opening => exact opening.2.1.swept?_orderEnd? opening.1 m.now opening.2.2
  | none =>
    cases action with
    | begin _ _ | attend | tick _ => rfl
    | abandon caller =>
      dsimp only
      cases s.refresh? caller <;> rfl
    | signal caller signal =>
      unfold refresh?
      dsimp only
      cases s.call? caller with
      | none => rfl
      | some call => exact s.executor.swept?_callEnd? caller signal m.now call
    | dispose =>
      dsimp only
      split
      · rfl
      · cases s.refresh? .background <;> rfl

theorem counts_step (s : System α) (m : Moment) (action : Action α) :
    let t := (s.step m action).1
    let ended := (s.report? m action).bind (·.ended)
    (t.executor.sweeps = s.executor.sweeps + ended.toList.length ∧
      t.executor.initialized = (s.executor.initialized || ended.any Except.isOk)) ∧
      t.executor.lastSweep = (ended.map (SweepRecord.of m.now)).or s.executor.lastSweep := by
  intro t ended
  cases hreport : s.report? m action with
  | none =>
    have hended : ended = none := by simp only [ended, hreport, Option.bind_none]
    have hrests := (step_rests hreport).knowledge
    rw [hended]
    exact ⟨⟨congrArg Knowledge.sweeps hrests,
      (congrArg Knowledge.initialized hrests).trans (Bool.or_false _).symm⟩,
      congrArg Knowledge.lastSweep hrests⟩
  | some r =>
    have hended : ended = r.ended := by simp only [ended, hreport, Option.bind_some]
    have htakes := (step_moves hreport).takes
    rw [hended]
    exact ⟨htakes.counts, htakes.lastSweep_eq⟩

/-- What an executor goes by is changed in a step by what comes to its end, and by nothing else. -/
theorem Fits.ledger_step (h : s.Fits) (m : Moment) (action : Action α) :
    (s.step m action).1.executor.ledger =
      ((s.completion? m action).map (s.executor.ledger.after m.now)).getD s.executor.ledger := by
  obtain ⟨hcounts, hlast⟩ := s.counts_step m action
  rw [← swept?_completion?] at hcounts hlast
  refine Executor.ledger_of_parts ?_ ?_ hcounts hlast
  · rw [standing_step, deed_eq]
  · rw [h.cache_step, h.upkeep?_eq m]

/-- What came to its end along a run, and when, the last one first. -/
def completions (s : System α) : Run α → List (Instant × Completion)
  | [] => []
  | (m, action) :: before =>
    (((s.after before).completion? m action).map fun completion => (m.now, completion)).toList ++
      s.completions before

theorem Fits.ledger_after (h : s.Fits) (run : Run α) :
    (s.after run).executor.ledger =
      (s.completions run).foldr (fun (now, completion) l => l.after now completion)
        s.executor.ledger := by
  induction run with
  | nil => rfl
  | cons event before ih =>
    obtain ⟨m, action⟩ := event
    rw [System.after, (h.after before).ledger_step, completions, ih]
    cases (s.after before).completion? m action <;> rfl

end System

end ClusterClient
