import ClusterClient.Proofs.Executor.Reports

/-!
# Carrying out wishes for a sweep

Each step that a caller takes for its wish is one of those listed, and the nodes
that it reports as asked are those that were sent a request.
-/

namespace ClusterClient

namespace Executor

variable {α : Type} {x y z : Executor}

/-! ## Sweeps -/

theorem missed_of_launch_eq_error {command : Command Topology} {node : Node}
    {limit : Option Duration} {fault : Fault}
    (h : x.launch .topology command node limit = .error fault) :
    Missed command node ⟨node.url, .fault fault⟩ := by
  unfold launch prepare at h
  cases hrequest : command.request node with
  | error cause =>
    rw [hrequest] at h
    cases h
    exact Or.inr ⟨cause, hrequest, rfl⟩
  | ok request =>
    rw [hrequest] at h
    simp only [bind, Except.bind, Except.mapError, pure, Except.pure, send] at h
    split at h
    · cases h
      exact Or.inl rfl
    · cases h

theorem ask_cases (x : Executor) (limit : Option Duration) (failures : List NodeFailure)
    (now : Instant) (nodes : List Node) :
    (∃ missed, List.Forall₂ (Missed x.topologyCommand) nodes missed ∧
      x.ask limit failures now nodes = (x.endSweep (some (failures ++ missed)) now,
        .done (.error (.topologyUnavailable (failures ++ missed))))) ∨
    ∃ skipped node rest missed pool wire flight, nodes = skipped ++ node :: rest ∧
      List.Forall₂ (Missed x.topologyCommand) skipped missed ∧
      flight.Asks x.topologyCommand node ∧
      x.ask limit failures now nodes =
        ({ x with pool, sent := ⟨.topology, node, wire, limit⟩ :: x.sent },
          .waiting ⟨limit, rest, failures ++ missed, flight⟩) := by
  induction nodes generalizing failures with
  | nil => exact Or.inl ⟨[], .nil, by simp [ask]⟩
  | cons node rest ih =>
    cases hlaunch : x.launch .topology x.topologyCommand node limit with
    | ok launched =>
      obtain ⟨z, flight⟩ := launched
      obtain ⟨⟨pool, wire, rfl⟩, hcommand, hnode, hkey, -, -⟩ := launch_eq_ok hlaunch
      refine Or.inr ⟨[], node, rest, [], pool, wire, flight, rfl, .nil, ⟨hcommand, hnode, hkey⟩, ?_⟩
      rw [ask, hlaunch, List.append_nil]
    | error fault =>
      have hmissed : Missed x.topologyCommand node ⟨node.url, .fault fault⟩ :=
        missed_of_launch_eq_error hlaunch
      have hask : x.ask limit failures now (node :: rest) =
          x.ask limit (failures ++ [⟨node.url, .fault fault⟩]) now rest := by
        rw [ask, hlaunch]
      rw [hask]
      rcases ih (failures ++ [⟨node.url, .fault fault⟩]) with
        ⟨missed, hall, hend⟩ |
        ⟨skipped, next, rest', missed, pool, wire, flight, hrest, hall, hasks, hgo⟩
      · refine Or.inl ⟨⟨node.url, .fault fault⟩ :: missed, .cons hmissed hall, ?_⟩
        rw [hend, List.append_assoc, List.singleton_append]
      · refine Or.inr ⟨node :: skipped, next, rest', ⟨node.url, .fault fault⟩ :: missed, pool, wire,
          flight, by rw [hrest, List.cons_append], .cons hmissed hall, hasks, ?_⟩
        rw [hgo, List.append_assoc, List.singleton_append]

theorem advanceFlight_waiting_cases {f f' : Flight α} {signal : Signal} {now : Instant}
    (h : (x.advanceFlight f signal now).2 = .waiting f') :
    f' = f ∨ ∃ head, head.status ≠ .notModified ∧ f' = { f with head := some head } := by
  have hhead : ∀ head : ResponseHead, (x.receiveHead f head now).2 = .waiting f' →
      head.status ≠ .notModified ∧ f' = { f with head := some head } := by
    intro head hwaiting
    unfold receiveHead at hwaiting
    dsimp only at hwaiting
    split at hwaiting
    · cases hwaiting
    · rename_i hstatus
      split at hwaiting <;> cases hwaiting
      exact ⟨hstatus, rfl⟩
  unfold advanceFlight at h
  split at h
  · split at h
    · exact .inr ⟨_, hhead _ h⟩
    · cases h
      exact .inl rfl
  · split at h <;> cases h
    exact .inl rfl
  · split at h <;> cases h
    exact .inl rfl
  · split at h <;> cases h
    exact .inl rfl
  · cases h
    exact .inl rfl

theorem advanceFlight_waiting {f f' : Flight α} {signal : Signal} {now : Instant}
    (h : (x.advanceFlight f signal now).2 = .waiting f') : ∃ head, f' = { f with head } := by
  rcases advanceFlight_waiting_cases h with rfl | ⟨head, -, rfl⟩
  · exact ⟨f'.head, rfl⟩
  · exact ⟨some head, rfl⟩

theorem advanceSweep_cases (x : Executor) (s : Sweep) (signal : Signal) (now : Instant) :
    ∃ z, (∃ mailbox cache, z = { x with mailbox, cache }) ∧
      ((∃ flight, flight.exchange = s.flight.exchange ∧
          x.fetched? now (.under (.sweeping s) signal) = none ∧
          x.advanceSweep s signal now = (z, .waiting { s with flight })) ∨
        (∃ reason, x.fetched? now (.under (.sweeping s) signal) = none ∧
          x.advanceSweep s signal now =
            z.ask s.limit (s.failures ++ [⟨s.flight.exchange.node.url, reason⟩]) now s.rest) ∨
        ∃ topology, x.fetched? now (.under (.sweeping s) signal) = some topology ∧
          x.advanceSweep s signal now =
            ((z.install topology).endSweep none now, .done (.ok true))) := by
  obtain ⟨mailbox, cache, hfst⟩ := x.advanceFlight_fst s.flight signal now
  refine ⟨{ x with mailbox, cache }, ⟨mailbox, cache, rfl⟩, ?_⟩
  unfold advanceSweep fetched?
  cases hadvance : x.advanceFlight s.flight signal now with
  | mk z progress =>
    rw [hadvance] at hfst
    obtain rfl : z = { x with mailbox, cache } := hfst
    cases progress with
    | waiting flight =>
      have hsame : flight.exchange = s.flight.exchange := by
        have hwaiting : (x.advanceFlight s.flight signal now).2 = .waiting flight := by
          rw [hadvance]
        obtain ⟨head, rfl⟩ := advanceFlight_waiting hwaiting
        rfl
      exact Or.inl ⟨flight, hsame, by simp only [hadvance], rfl⟩
    | done outcome =>
      cases outcome with
      | answered topology status fromCache =>
        exact Or.inr (Or.inr ⟨topology, by simp only [hadvance], rfl⟩)
      | failed reason => exact Or.inr (Or.inl ⟨reason, by simp only [hadvance], rfl⟩)
      | ended fault => exact Or.inr (Or.inl ⟨.fault fault, by simp only [hadvance], rfl⟩)

/-! ## Wishes -/

theorem report_eq {stage : Stage} {now : Instant}
    {progress : Progress Refresh (Except ExecutorError Bool)}
    (h : x.carryOut now stage = (y, progress)) (caller : Caller) :
    x.report caller now stage =
      { caller
        entered := stage.entered?
        began :=
          if y.sweeps != x.sweeps || progress.state?.any Refresh.isSweeping then stage.order?
          else none
        asked := (y.sent.take (y.sent.length - x.sent.length)).reverse.map (·.node)
        ended :=
          if y.sweeps != x.sweeps then
            match x.fetched? now stage with
            | some topology => some (.ok topology)
            | none => (y.lastSweep.bind (·.failures)).map .error
          else none
        returned := progress.result? } := by
  obtain ⟨rfl, rfl⟩ : y = (x.carryOut now stage).1 ∧ progress = (x.carryOut now stage).2 := by
    simp [h]
  rfl

theorem report_of_no_sweep {stage : Stage} {now : Instant}
    {progress : Progress Refresh (Except ExecutorError Bool)}
    (h : x.carryOut now stage = (x, progress))
    (hprogress : progress.state?.any Refresh.isSweeping = false)
    (caller : Caller) :
    x.report caller now stage =
      { caller, entered := stage.entered?, returned := progress.result? } := by
  rw [report_eq h, hprogress]
  simp

theorem knowledge_install (x : Executor) (topology : Topology) :
    (x.install topology).knowledge = x.knowledge.learn topology := by
  unfold install Selector.update
  by_cases hnewer : x.selector.topology.isSupersededBy topology = true
  · simp only [if_pos hnewer]
    simp [knowledge, Knowledge.learn, Executor.topology, emit, hnewer]
  · simp only [if_neg hnewer]
    simp [knowledge, Knowledge.learn, Executor.topology, hnewer]

theorem sent_install (x : Executor) (topology : Topology) : (x.install topology).sent = x.sent := by
  unfold install
  dsimp only
  split <;> rfl

theorem takes_of_due {x : Executor} {stage : Stage} {now : Instant} {order : SweepOrder}
    (hdue : Due x.knowledge order stage.refresh? stage.entered?)
    (horder : stage.order? = some order) (hfetched : x.fetched? now stage = none)
    (hcarry : x.carryOut now stage =
      ((({ x with lockHeld := true } : Executor).ask order.limit [] now order.nodes).1,
        (({ x with lockHeld := true } : Executor).ask order.limit [] now order.nodes).2.mapState
          .sweeping)) (caller : Caller) :
    Takes x.topologyCommand x.knowledge now caller stage.refresh?
      (x.carryOut now stage).1.knowledge (x.carryOut now stage).2.state?
      (x.report caller now stage) := by
  rcases ({ x with lockHeld := true } : Executor).ask_cases order.limit [] now order.nodes with
    ⟨missed, hmissed, hask⟩ |
    ⟨skipped, node, rest, missed, pool, wire, flight, hnodes, hmissed, hasks, hask⟩
  · rw [hask] at hcarry
    have hreport : x.report caller now stage =
        { caller, entered := stage.entered?, began := some order, ended := some (.error missed)
          returned := some (.error (.topologyUnavailable missed)) } := by
      rw [report_eq hcarry, hfetched, horder]
      simp [endSweep, Progress.mapState, Progress.result?]
    rw [hreport, hcarry]
    exact .beginsInVain hdue hmissed
  · rw [hask] at hcarry
    have hreport : x.report caller now stage =
        { caller, entered := stage.entered?, began := some order, asked := [node] } := by
      rw [report_eq hcarry, horder]
      simp [Progress.mapState, Progress.state?, Progress.result?, Refresh.isSweeping]
    rw [hreport, hcarry]
    exact .begins hdue hnodes hmissed hasks

theorem refreshLocked_of_spared {order : SweepOrder} {observed : Nat}
    {result : Except ExecutorError Bool} (h : x.knowledge.spared? order observed = some result)
    (now : Instant) : x.refreshLocked order observed now = (x, .done result) := by
  rw [Knowledge.spared?, knowledge_initialized, knowledge_sweeps] at h
  unfold refreshLocked
  by_cases honly : (order.onlyIfUninitialized && x.initialized) = true
  · rw [if_pos honly] at h ⊢
    cases h
    rfl
  · rw [if_neg honly] at h ⊢
    by_cases hstale : (!order.force && x.sweeps != observed) = true
    · rw [if_pos hstale] at h ⊢
      cases h
      rfl
    · rw [if_neg hstale] at h
      cases h

theorem takes_of_not_spared {x : Executor} {stage : Stage} {now : Instant} {order : SweepOrder}
    {observed : Nat} (hfree : x.lockHeld = false)
    (hspared : x.knowledge.spared? order observed = none)
    (hplace : (stage = .entering order ∧ observed = x.sweeps) ∨
      ∃ signal, stage = .under (.queued order observed) signal)
    (hcarry : x.carryOut now stage = x.refreshLocked order observed now) (caller : Caller) :
    Takes x.topologyCommand x.knowledge now caller stage.refresh?
      (x.carryOut now stage).1.knowledge (x.carryOut now stage).2.state?
      (x.report caller now stage) := by
  have honly : ¬(order.onlyIfUninitialized && x.initialized) = true := by
    intro h
    simp [Knowledge.spared?, h] at hspared
  have hcurrent : ¬(!order.force && x.sweeps != observed) = true := by
    intro h
    simp [Knowledge.spared?, honly, h] at hspared
  rw [refreshLocked, if_neg honly, if_neg hcurrent] at hcarry
  have honlyIf : order.onlyIfUninitialized = true → x.knowledge.initialized = false := by
    intro h
    simpa [h] using honly
  rcases hplace with ⟨rfl, rfl⟩ | ⟨signal, rfl⟩
  · exact takes_of_due ⟨hfree, honlyIf, Or.inl ⟨rfl, rfl⟩⟩ rfl rfl hcarry caller
  · have hobserved : order.force = false → x.knowledge.sweeps = observed := by
      intro h
      simpa [h] using hcurrent
    exact takes_of_due ⟨hfree, honlyIf, Or.inr ⟨observed, rfl, rfl, hobserved⟩⟩ rfl rfl hcarry
      caller

theorem takes_refresh (x : Executor) (order : SweepOrder) (now : Instant)
    (honly : order.onlyIfUninitialized = true → x.initialized = false) (caller : Caller) :
    Takes x.topologyCommand x.knowledge now caller none
      (x.carryOut now (.entering order)).1.knowledge (x.carryOut now (.entering order)).2.state?
      (x.report caller now (.entering order)) := by
  by_cases hheld : x.lockHeld = true
  · have hcarry : x.carryOut now (.entering order) = (x, .waiting (.queued order x.sweeps)) := by
      simp [carryOut, refresh, hheld]
    rw [report_of_no_sweep hcarry rfl, hcarry]
    exact .joins hheld honly
  · have hcarry : x.carryOut now (.entering order) = x.refreshLocked order x.sweeps now := by
      simp [carryOut, refresh, hheld]
    have hspared : x.knowledge.spared? order x.sweeps = none := by
      have hneed : (order.onlyIfUninitialized && x.initialized) = false := by
        cases h : order.onlyIfUninitialized with
        | false => rfl
        | true => simp [honly h]
      simp [Knowledge.spared?, hneed]
    exact takes_of_not_spared (by simpa using hheld) hspared (Or.inl ⟨rfl, rfl⟩) hcarry caller

theorem takes_queued (x : Executor) (order : SweepOrder) (observed : Nat) (signal : Signal)
    (now : Instant) (caller : Caller) :
    Takes x.topologyCommand x.knowledge now caller (some (.queued order observed))
      (x.carryOut now (.under (.queued order observed) signal)).1.knowledge
      (x.carryOut now (.under (.queued order observed) signal)).2.state?
      (x.report caller now (.under (.queued order observed) signal)) := by
  have hwaits : x.carryOut now (.under (.queued order observed) signal) =
      (x, .waiting (.queued order observed)) →
      Takes x.topologyCommand x.knowledge now caller (some (.queued order observed))
        (x.carryOut now (.under (.queued order observed) signal)).1.knowledge
        (x.carryOut now (.under (.queued order observed) signal)).2.state?
        (x.report caller now (.under (.queued order observed) signal)) := by
    intro hcarry
    rw [report_of_no_sweep hcarry rfl, hcarry]
    exact .waits
  cases signal with
  | granted =>
    by_cases hheld : x.lockHeld = true
    · exact hwaits (by simp [carryOut, advanceRefresh, hheld])
    · have hcarry : x.carryOut now (.under (.queued order observed) .granted) =
          x.refreshLocked order observed now := by
        simp [carryOut, advanceRefresh, hheld]
      have hfree : x.lockHeld = false := by simpa using hheld
      cases hspared : x.knowledge.spared? order observed with
      | none => exact takes_of_not_spared hfree hspared (Or.inr ⟨_, rfl⟩) hcarry caller
      | some result =>
        rw [refreshLocked_of_spared hspared] at hcarry
        rw [report_of_no_sweep hcarry rfl, hcarry]
        exact .spares hfree hspared
  | lockTimedOut =>
    have hcarry : x.carryOut now (.under (.queued order observed) .lockTimedOut) =
        (x, .done (.ok false)) := rfl
    rw [report_of_no_sweep hcarry rfl, hcarry]
    exact .timesOut
  | resumed => exact hwaits rfl
  | head _ _ => exact hwaits rfl
  | body _ _ => exact hwaits rfl
  | expired _ => exact hwaits rfl

section Sweeping

variable {x z : Executor} {s : Sweep} {signal : Signal} {now : Instant}

-- `z` is the executor once it took the signal in, before it goes on with the sweep.
theorem takes_failed (hknowledge : z.knowledge = x.knowledge) (hsent : z.sent = x.sent)
    (hcommand : z.topologyCommand = x.topologyCommand) {reason : FailureReason}
    (hfetched : x.fetched? now (.under (.sweeping s) signal) = none)
    (hcarry : x.carryOut now (.under (.sweeping s) signal) =
      ((z.ask s.limit (s.failures ++ [⟨s.flight.exchange.node.url, reason⟩]) now s.rest).1,
        (z.ask s.limit (s.failures ++ [⟨s.flight.exchange.node.url, reason⟩]) now
          s.rest).2.mapState .sweeping)) (caller : Caller) :
    Takes x.topologyCommand x.knowledge now caller (some (.sweeping s))
      (x.carryOut now (.under (.sweeping s) signal)).1.knowledge
      (x.carryOut now (.under (.sweeping s) signal)).2.state?
      (x.report caller now (.under (.sweeping s) signal)) := by
  have hsweeps : z.sweeps = x.sweeps := congrArg Knowledge.sweeps hknowledge
  rcases
    z.ask_cases s.limit (s.failures ++ [⟨s.flight.exchange.node.url, reason⟩]) now s.rest with
    ⟨missed, hmissed, hask⟩ |
    ⟨skipped, node, rest, missed, pool, wire, flight, hnodes, hmissed, hasks, hask⟩
  · rw [hask, List.append_assoc, List.singleton_append] at hcarry
    have hreport : x.report caller now (.under (.sweeping s) signal) =
        { caller
          ended := some (.error (s.failures ++ ⟨s.flight.exchange.node.url, reason⟩ :: missed))
          returned := some (.error (.topologyUnavailable
            (s.failures ++ ⟨s.flight.exchange.node.url, reason⟩ :: missed))) } := by
      rw [report_eq hcarry, hfetched]
      simp [endSweep, hsent, hsweeps, Stage.entered?, Stage.order?, Progress.mapState,
        Progress.result?]
    rw [hreport, hcarry, ← hknowledge]
    exact .fails (hcommand ▸ hmissed) rfl
  · rw [hask, List.append_assoc, List.singleton_append] at hcarry
    have hreport : x.report caller now (.under (.sweeping s) signal) =
        { caller, asked := [node] } := by
      rw [report_eq hcarry]
      simp [hsent, hsweeps, Stage.entered?, Stage.order?, Progress.mapState, Progress.result?]
    rw [hreport, hcarry, ← hknowledge]
    exact .goesOn hnodes (hcommand ▸ hmissed) (hcommand ▸ hasks)

theorem takes_fetched (hknowledge : z.knowledge = x.knowledge) (hsent : z.sent = x.sent)
    {topology : Topology}
    (hfetched : x.fetched? now (.under (.sweeping s) signal) = some topology)
    (hcarry : x.carryOut now (.under (.sweeping s) signal) =
      ((z.install topology).endSweep none now, .done (.ok true))) (caller : Caller) :
    Takes x.topologyCommand x.knowledge now caller (some (.sweeping s))
      (x.carryOut now (.under (.sweeping s) signal)).1.knowledge
      (x.carryOut now (.under (.sweeping s) signal)).2.state?
      (x.report caller now (.under (.sweeping s) signal)) := by
  have hinstalled : (z.install topology).knowledge = x.knowledge.learn topology := by
    rw [knowledge_install, hknowledge]
  have hsent' : (z.install topology).sent = x.sent := (z.sent_install topology).trans hsent
  have hsweeps' : (z.install topology).sweeps = x.sweeps := congrArg Knowledge.sweeps hinstalled
  have hreport : x.report caller now (.under (.sweeping s) signal) =
      { caller, ended := some (.ok topology), returned := some (.ok true) } := by
    rw [report_eq hcarry, hfetched]
    simp [endSweep, hsent', hsweeps', Stage.entered?, Stage.order?, Progress.result?]
  have hended : ((z.install topology).endSweep none now).knowledge =
      (x.knowledge.learn topology).count none now := by
    rw [← hinstalled]
    rfl
  rw [hreport, hcarry, hended]
  exact .fetches

end Sweeping

theorem takes_sweeping (x : Executor) (s : Sweep) (signal : Signal) (now : Instant)
    (caller : Caller) :
    Takes x.topologyCommand x.knowledge now caller (some (.sweeping s))
      (x.carryOut now (.under (.sweeping s) signal)).1.knowledge
      (x.carryOut now (.under (.sweeping s) signal)).2.state?
      (x.report caller now (.under (.sweeping s) signal)) := by
  have hcarry : x.carryOut now (.under (.sweeping s) signal) =
      ((x.advanceSweep s signal now).1, (x.advanceSweep s signal now).2.mapState .sweeping) := rfl
  obtain ⟨z, ⟨mailbox, cache, hz⟩, hnext⟩ := x.advanceSweep_cases s signal now
  have hcommand : z.topologyCommand = x.topologyCommand := by rw [hz]; rfl
  have hknowledge : z.knowledge = x.knowledge := by rw [hz]; rfl
  have hsent : z.sent = x.sent := by rw [hz]
  rcases hnext with ⟨flight, hsame, -, hadvance⟩ | ⟨reason, hfetched, hadvance⟩ |
    ⟨topology, hfetched, hadvance⟩
  · rw [hadvance] at hcarry
    have hsweeps : z.sweeps = x.sweeps := congrArg Knowledge.sweeps hknowledge
    have hreport : x.report caller now (.under (.sweeping s) signal) = { caller } := by
      rw [report_eq hcarry]
      simp [hsent, hsweeps, Stage.entered?, Stage.order?, Progress.mapState, Progress.result?]
    rw [hreport, hcarry, hknowledge]
    exact .stays hsame
  · rw [hadvance] at hcarry
    exact takes_failed hknowledge hsent hcommand hfetched hcarry caller
  · rw [hadvance] at hcarry
    exact takes_fetched hknowledge hsent hfetched hcarry caller

/-- One step goes on with a wish in one of the ways listed. -/
theorem takes_carryOut (x : Executor) (now : Instant) (stage : Stage)
    (honly : ∀ order, stage = .entering order → order.onlyIfUninitialized = true →
      x.initialized = false) (caller : Caller) :
    Takes x.topologyCommand x.knowledge now caller stage.refresh?
      (x.carryOut now stage).1.knowledge (x.carryOut now stage).2.state?
      (x.report caller now stage) := by
  match stage with
  | .entering order => exact x.takes_refresh order now (honly order rfl) caller
  | .under (.queued order observed) signal => exact x.takes_queued order observed signal now caller
  | .under (.sweeping sweep) signal => exact x.takes_sweeping sweep signal now caller

/-! ## Requests for the topology -/

def AsksOnly (x y : Executor) : Prop :=
  ∃ new, y.sent = new ++ x.sent ∧ ∀ d ∈ new, d.purpose = .topology

theorem asksOnly_of_sent_eq (h : y.sent = x.sent) : x.AsksOnly y :=
  ⟨[], by simpa using h, by simp⟩

theorem asksOnly_ask (x : Executor) (limit : Option Duration) (failures : List NodeFailure)
    (now : Instant) (nodes : List Node) : x.AsksOnly (x.ask limit failures now nodes).1 := by
  rcases x.ask_cases limit failures now nodes with
    ⟨missed, -, hask⟩ | ⟨skipped, node, rest, missed, pool, wire, flight, -, -, -, hask⟩
  · rw [hask]
    exact asksOnly_of_sent_eq rfl
  · rw [hask]
    exact ⟨[_], rfl, by simp⟩

theorem asksOnly_carryOut (x : Executor) (now : Instant) (stage : Stage) :
    x.AsksOnly (x.carryOut now stage).1 := by
  have hlocked : ∀ (order : SweepOrder) (observed : Nat),
      x.AsksOnly (x.refreshLocked order observed now).1 := by
    intro order observed
    unfold refreshLocked
    split
    · exact asksOnly_of_sent_eq rfl
    · split
      · exact asksOnly_of_sent_eq rfl
      · exact asksOnly_ask { x with lockHeld := true } order.limit [] now order.nodes
  match stage with
  | .entering order =>
    have hrefresh : x.AsksOnly (x.refresh order now).1 := by
      unfold refresh
      split
      · exact asksOnly_of_sent_eq rfl
      · exact hlocked order x.sweeps
    exact hrefresh
  | .under (.queued order observed) signal =>
    have hadvance : x.AsksOnly (x.advanceRefresh (.queued order observed) signal now).1 := by
      unfold advanceRefresh
      cases signal with
      | granted =>
        dsimp only
        split
        · exact asksOnly_of_sent_eq rfl
        · exact hlocked order observed
      | lockTimedOut | resumed | head _ _ | body _ _ | expired _ => exact asksOnly_of_sent_eq rfl
    exact hadvance
  | .under (.sweeping sweep) signal =>
    obtain ⟨z, ⟨mailbox, cache, hz⟩, hnext⟩ := x.advanceSweep_cases sweep signal now
    have hsent : z.sent = x.sent := by rw [hz]
    have hcarry : (x.carryOut now (.under (.sweeping sweep) signal)).1 =
        (x.advanceSweep sweep signal now).1 := rfl
    rw [hcarry]
    rcases hnext with ⟨flight, -, -, hadvance⟩ | ⟨reason, -, hadvance⟩ | ⟨topology, -, hadvance⟩
    · rw [hadvance]
      exact asksOnly_of_sent_eq hsent
    · rw [hadvance]
      obtain ⟨new, hnew, hpurpose⟩ := z.asksOnly_ask sweep.limit
        (sweep.failures ++ [⟨sweep.flight.exchange.node.url, reason⟩]) now sweep.rest
      exact ⟨new, by rw [hnew, hsent], hpurpose⟩
    · rw [hadvance]
      exact asksOnly_of_sent_eq ((z.sent_install topology).trans hsent)

theorem sent_carryOut (x : Executor) (caller : Caller) (now : Instant) (stage : Stage) :
    ∃ new, (x.carryOut now stage).1.sent = new ++ x.sent ∧ (∀ d ∈ new, d.purpose = .topology) ∧
      new.map (·.node) = (x.report caller now stage).asked.reverse := by
  obtain ⟨new, hnew, hpurpose⟩ := x.asksOnly_carryOut now stage
  refine ⟨new, hnew, hpurpose, ?_⟩
  have hasked : (x.report caller now stage).asked =
      ((x.carryOut now stage).1.sent.take ((x.carryOut now stage).1.sent.length -
        x.sent.length)).reverse.map (·.node) := rfl
  rw [hasked, hnew]
  simp

end Executor

end ClusterClient
