import ClusterClient.Proofs.Executor.Attempts
import ClusterClient.Proofs.Executor.Contacts

/-!
# What contacts say of nodes

What a step of a call means for the marks of nodes is what the contacts say that
it tells of.
-/

namespace ClusterClient

variable {α β : Type}

def Verdict.ofElapsed : Option Duration → Verdict
  | some _ => .healthy
  | none => .failing

def Selector.verdicts (results : List Selector.Probe) : Verdicts :=
  results.map fun (node, elapsed) => (node.key, .ofElapsed elapsed)

def Deed.verdicts : Deed → Verdicts
  | .nothing | .learned _ => []
  | .served node => [(node.key, .healthy)]
  | .failed node _ => [(node.key, .failing)]
  | .tested _ results _ => Selector.verdicts results

/-- A request of a speed test. -/
structure Flight.Probes (f : Flight Unit) : Prop where
  command : ∃ limit, f.exchange.command = Command.probe limit
  uncached : f.exchange.key = none
  /-- What would be confirmed is not waited for. -/
  head : ∀ head, f.head = some head → head.status ≠ .notModified

namespace Flight.Shows

theorem verdictOnAttempt? {f : Flight β} {outcome : Outcome β} {finish : Finish}
    (h : f.Shows outcome finish) (hlimit : f.limit = none) (t : Trail) (node : Node) :
    Contact.verdicts Contact.verdict? [⟨.command, node, finish⟩] =
      (t.deed node (.done outcome)).verdicts := by
  unfold Contact.verdicts Contact.verdict?
  cases h with
  | result healthy _ => simp [Finish.verdictOnAttempt?, healthy, Trail.deed, Deed.verdicts]
  | broken => rfl
  | expired limited =>
    rw [hlimit] at limited
    cases limited
  | refused unhealthy => simp [Finish.verdictOnAttempt?, unhealthy, Trail.deed, Deed.verdicts]
  | rejected healthy _ => simp [Finish.verdictOnAttempt?, healthy, Trail.deed, Deed.verdicts]
  | unreadable healthy _ => simp [Finish.verdictOnAttempt?, healthy, Trail.deed, Deed.verdicts]
  | unconfirmed => rfl

theorem verdictOnProbe {f : Flight Unit} {outcome : Outcome Unit} {finish : Finish}
    (h : f.Shows outcome finish) (hprobes : f.Probes) (elapsed : Duration) :
    finish.verdictOnProbe =
      .ofElapsed (if Executor.showsLife outcome then some elapsed else none) := by
  cases h with
  | @result _ status _ healthy source =>
    have hother : (status == Status.notModified) = false := by
      rw [beq_eq_false_iff_ne]
      intro hstatus
      rcases source hstatus with hkey | ⟨head, hhead, hsame⟩
      · rw [hprobes.uncached] at hkey
        cases hkey
      · exact hprobes.head head hhead (hsame.trans hstatus)
    simp only [Finish.verdictOnProbe, healthy, hother]
    rfl
  | broken | expired _ | unconfirmed => rfl
  | refused unhealthy =>
    simp only [Finish.verdictOnProbe, unhealthy]
    rfl
  | @rejected head error healthy taken =>
    have hother : (head.status == Status.notModified) = false :=
      beq_eq_false_iff_ne.mpr (hprobes.head head taken)
    simp only [Finish.verdictOnProbe, healthy, hother]
    rfl
  | unreadable _ faulty =>
    obtain ⟨limit, hcommand⟩ := hprobes.command
    rw [hcommand] at faulty
    rcases faulty with hmanual | ⟨body, fromCache, hparse⟩
    · cases hmanual
    · cases hparse

end Flight.Shows

/-! ## Attempts -/

namespace Executor

variable {x : Executor} {command : Command β} {options : Options} {m : Moment}

theorem limit?_afterWish (isFirst : Bool)
    (next : Executor × Progress Refresh (Except ExecutorError Bool)) :
    (afterWish command options m isFirst next).2.state?.bind Phase.limit? = none := by
  obtain ⟨y, progress⟩ := next
  cases progress with
  | waiting refresh => rfl
  | done result =>
    unfold afterWish updateOf
    simp only [Progress.mapState, Progress.map]
    cases afterUpdate isFirst (y.judge isFirst result) with
    | error e => rfl
    | ok _ => exact (y.attempts_follow m).limit?

theorem limit?_execute (x : Executor) (command : Command β) (options : Options) (m : Moment) :
    (x.execute command options m).2.state?.bind Phase.limit? = none := by
  rw [execute_prepared]
  split
  · rfl
  · exact (x.attempts_follow m).limit?
  · exact limit?_afterWish _ _

theorem limit?_advanceExecution (x : Executor) (m : Moment) (signal : Signal) {c : Execution β}
    (h : c.phase.limit? = none) :
    (x.advanceExecution c signal m).2.state?.bind Phase.limit? = none := by
  obtain ⟨command, options, phase⟩ := c
  cases phase with
  | ensuring update => exact limit?_afterWish update.isFirst _
  | pausing trail e pause =>
    cases signal with
    | resumed => exact (x.attempts_beginAttempt trail e).limit?
    | granted | lockTimedOut | head _ _ | body _ _ | expired _ => rfl
  | flying trail flight =>
    unfold advanceExecution
    dsimp only
    cases hadvance : x.advanceFlight flight signal m.now with
    | mk y progress =>
      cases progress with
      | waiting flight' =>
        have hwaiting : (x.advanceFlight flight signal m.now).2 = .waiting flight' := by
          rw [hadvance]
        obtain ⟨head, rfl⟩ := advanceFlight_waiting hwaiting
        exact h
      | done outcome => exact (attempts_concludeAttempt _ _ _ _ _ _).limit?

end Executor

/-! ## Speed tests -/

inductive Trial.Agrees : Trial → Finding → Prop
  | underWay {node : Node} {startedAt : Instant} {flight : Flight Unit} (probes : flight.Probes) :
      Agrees ⟨node, startedAt, .underWay flight⟩ ⟨node, none⟩
  | settled {node : Node} {startedAt : Instant} {elapsed : Option Duration} {finish : Finish}
      (verdict : finish.verdictOnProbe = .ofElapsed elapsed) :
      Agrees ⟨node, startedAt, .settled elapsed⟩ ⟨node, some finish⟩

theorem Flight.finish?_of_uncached {f : Flight β} (h : f.exchange.key = none) (c d : Cache) :
    f.finish? c = f.finish? d := by
  have hconfirms : f.exchange.confirmsResult c = f.exchange.confirmsResult d := by
    unfold Exchange.confirmsResult
    rw [h]
  unfold finish? Exchange.finishWithHead?
  rw [hconfirms]

namespace Executor

variable {x : Executor}

theorem probes_of_waiting {f f' : Flight Unit} {signal : Signal} {now : Instant}
    (h : f.Probes) (hwaiting : (x.advanceFlight f signal now).2 = .waiting f') : f'.Probes := by
  rcases advanceFlight_waiting_cases hwaiting with rfl | ⟨head, hstatus, rfl⟩
  · exact h
  · refine ⟨h.command, h.uncached, fun taken htaken => ?_⟩
    cases htaken
    exact hstatus

theorem agrees_advanceTrial (x : Executor) (cache : Cache) {t : Trial} {found : Finding}
    (h : t.Agrees found) (signal : Signal) (now : Instant) :
    (x.advanceTrial t signal now).2.Agrees (t.found cache signal found) := by
  cases h with
  | settled verdict => exact .settled verdict
  | @underWay node startedAt flight probes =>
    have hagrees := x.agrees_advanceFlight flight signal now
    rw [Flight.finish?_of_uncached probes.uncached x.cache cache] at hagrees
    unfold advanceTrial Trial.found
    dsimp only
    cases hadvance : x.advanceFlight flight signal now with
    | mk y progress =>
      rw [hadvance] at hagrees
      cases progress with
      | waiting flight' =>
        have hnone : flight.finish? cache signal = none := hagrees
        rw [hnone]
        exact .underWay (probes_of_waiting probes (by rw [hadvance]))
      | done outcome =>
        obtain ⟨finish, hfinish, hshows⟩ := hagrees
        rw [hfinish]
        exact .settled (hshows.verdictOnProbe probes _)

theorem agrees_advanceTrials (x : Executor) (cache : Cache) {trials : List Trial}
    {found : List Finding} (h : List.Forall₂ Trial.Agrees trials found) (signal : Signal)
    (now : Instant) :
    List.Forall₂ Trial.Agrees (x.advanceTrials signal now trials).2
      (trials.zipWith (Trial.found cache signal) found) := by
  induction h generalizing x with
  | nil => exact .nil
  | cons hfirst _ ih => exact .cons (x.agrees_advanceTrial cache hfirst signal now) (ih _)

theorem isSome_open?_opened {pool opened : Pool} {url : Url}
    (hopened : pool.open? url = some opened)
    (other : Url) : (opened.open? other).isSome = (pool.open? other).isSome := by
  rw [Bool.eq_iff_iff]
  refine ⟨fun h => ?_, fun h => isSome_open?_of_isSome hopened h⟩
  unfold Pool.open? at hopened h ⊢
  split at hopened
  · cases hopened
    exact h
  · split at hopened
    · rename_i husable
      rw [if_pos husable]
      split <;> rfl
    · cases hopened

theorem launch_of_request {α : Type} {command : Command α} {node : Node} {request : Request}
    (h : command.request node = .ok request) (x : Executor) (purpose : Purpose)
    (limit : Option Duration) :
    x.launch purpose command node limit =
      x.send purpose ⟨command, node, request, none, none⟩ limit := by
  unfold launch prepare
  rw [h]
  cases command.isCacheable <;> rfl

theorem launch_of_not_canProbe {node : Node} (limit : Option Duration)
    (h : x.canProbe node = false) :
    ∃ fault, x.launch .probe (Command.probe x.conventions.probeTimeout) node limit =
      .error fault := by
  unfold canProbe at h
  cases hrequest : (Command.probe x.conventions.probeTimeout).request node with
  | error cause =>
    refine ⟨.noRequest cause, ?_⟩
    unfold launch prepare
    rw [hrequest]
    rfl
  | ok request =>
    rw [hrequest] at h
    have hopen : x.pool.open? request.url = none := by simpa using h
    refine ⟨.noClient, ?_⟩
    rw [launch_of_request hrequest]
    unfold send
    dsimp only
    rw [hopen]

theorem launch_of_canProbe {node : Node} (limit : Option Duration)
    (h : x.canProbe node = true) :
    ∃ y f, x.launch .probe (Command.probe x.conventions.probeTimeout) node limit = .ok (y, f) ∧
      f.Probes ∧ ∀ other, y.canProbe other = x.canProbe other := by
  unfold canProbe at h
  cases hrequest : (Command.probe x.conventions.probeTimeout).request node with
  | error cause =>
    rw [hrequest] at h
    cases h
  | ok request =>
    rw [hrequest] at h
    obtain ⟨pool, hopen⟩ := Option.isSome_iff_exists.mp h
    let e : Exchange Unit :=
      { command := Command.probe x.conventions.probeTimeout
        node, request, key := none, cached := none }
    let y : Executor := { x with pool, sent := ⟨.probe, node, x.wire e, limit⟩ :: x.sent }
    let f : Flight Unit := { exchange := e, ticket := x.sent.length, limit }
    have hlaunch : x.launch .probe e.command node limit = .ok (y, f) := by
      rw [launch_of_request hrequest]
      unfold send
      dsimp only
      rw [hopen]
    have hprobes : f.Probes := ⟨⟨_, rfl⟩, rfl, fun head htaken =>
      (Option.some_ne_none head htaken.symm).elim⟩
    refine ⟨y, f, hlaunch, hprobes, fun other => ?_⟩
    have hconventions : y.conventions = x.conventions := rfl
    unfold canProbe
    rw [hconventions]
    cases (Command.probe x.conventions.probeTimeout).request other with
    | error _ => rfl
    | ok request => exact isSome_open?_opened hopen request.url

theorem agrees_beginTrial (x : Executor) (node : Node) (now : Instant) :
    (x.beginTrial node now).2.Agrees (x.turnTo node) ∧
      ∀ other, (x.beginTrial node now).1.turnTo other = x.turnTo other := by
  cases hprobe : x.canProbe node with
  | false =>
    obtain ⟨fault, hlaunch⟩ := launch_of_not_canProbe (some x.conventions.probeTimeout) hprobe
    have hbegin : x.beginTrial node now = (x, ⟨node, now, .settled none⟩) := by
      unfold beginTrial
      dsimp only
      rw [hlaunch]
    rw [hbegin, turnTo, hprobe]
    exact ⟨.settled rfl, fun _ => rfl⟩
  | true =>
    obtain ⟨y, flight, hlaunch, hprobes, hsame⟩ :=
      launch_of_canProbe (some x.conventions.probeTimeout) hprobe
    have hbegin : x.beginTrial node now = (y, ⟨node, now, .underWay flight⟩) := by
      unfold beginTrial
      dsimp only
      rw [hlaunch]
    rw [hbegin, turnTo, hprobe]
    exact ⟨.underWay hprobes, fun other => by rw [turnTo, turnTo, hsame]⟩

theorem agrees_beginTrials (x : Executor) (now : Instant) (nodes : List Node) :
    List.Forall₂ Trial.Agrees (x.beginTrials now nodes).2 (nodes.map x.turnTo) := by
  induction nodes generalizing x with
  | nil => exact .nil
  | cons node nodes ih =>
    obtain ⟨hfirst, hsame⟩ := x.agrees_beginTrial node now
    have hrest := ih (x.beginTrial node now).1
    rw [funext hsame] at hrest
    exact .cons hfirst hrest

theorem verdicts_conclude {trials : List Trial} {found : List Finding}
    (h : List.Forall₂ Trial.Agrees trials found) (etag : Int) :
    (x.testDeed ⟨etag, trials⟩).verdicts =
      Contact.verdicts Contact.verdict? (Finding.conclude found) := by
  have hresults : (SpeedTest.results? ⟨etag, trials⟩).map Selector.verdicts =
      (found.mapM Finding.contact?).map (Contact.verdicts Contact.verdict?) := by
    unfold SpeedTest.results?
    dsimp only
    induction h with
    | nil => rfl
    | @cons trial found trials rest hfirst _ ih =>
      rw [List.mapM_cons, List.mapM_cons]
      cases hfirst with
      | underWay _ => rfl
      | @settled node startedAt elapsed finish verdict =>
        have hcontact : Contact.verdict? ⟨.probe, node, finish⟩ = some (.ofElapsed elapsed) :=
          congrArg some verdict
        have hcons : ∀ contacts,
            Contact.verdicts Contact.verdict? (⟨.probe, node, finish⟩ :: contacts) =
              (node.key, .ofElapsed elapsed) :: Contact.verdicts Contact.verdict? contacts :=
          fun contacts => List.filterMap_cons_some (by rw [hcontact]; rfl)
        dsimp only [Finding.contact?, Option.map_some]
        cases hlater : rest.mapM Finding.contact? with
        | none =>
          rw [hlater, Option.map_none, Option.map_eq_none_iff] at ih
          rw [ih]
          rfl
        | some contacts =>
          rw [hlater, Option.map_some] at ih
          obtain ⟨results, hresults, hsame⟩ := Option.map_eq_some_iff.mp ih
          rw [hresults]
          refine congrArg some (Eq.trans ?_ (hcons contacts).symm)
          exact congrArg ((node.key, Verdict.ofElapsed elapsed) :: ·) hsame
  unfold testDeed Finding.conclude
  cases hall : SpeedTest.results? ⟨etag, trials⟩ with
  | none =>
    rw [hall, Option.map_none] at hresults
    rw [Option.map_eq_none_iff.mp hresults.symm]
    rfl
  | some results =>
    rw [hall, Option.map_some] at hresults
    obtain ⟨contacts, hcontacts, hsame⟩ := Option.map_eq_some_iff.mp hresults.symm
    rw [hcontacts]
    exact hsame.symm

end Executor

/-! ## All calls -/

def Call.Agrees (found : List Finding) : Call α → Prop
  | .executing c => c.phase.limit? = none
  | .configuring c => c.phase.limit? = none
  | .updating _ => True
  | .testing t => List.Forall₂ Trial.Agrees t.trials found

namespace Executor

variable {x : Executor} {m : Moment} {found : List Finding}

def Step.Agrees (found : List Finding) (step : Step α) : Prop :=
  ∀ call, step.2 = .waiting call → call.Agrees found

theorem agrees_executed (command : Command α) (options : Options) {next : Next α}
    (h : next.2.state?.bind Phase.limit? = none) :
    Step.Agrees found (executed command options next) := by
  obtain ⟨y, progress⟩ := next
  intro call hcall
  cases progress with
  | waiting phase =>
    cases hcall
    exact h
  | done _ => cases hcall

theorem agrees_configured (command : Command ConfigurationVersion) (options : Options)
    {next : Next ConfigurationVersion} (h : next.2.state?.bind Phase.limit? = none) :
    Step.Agrees found (configured command options next : Step α) := by
  obtain ⟨y, progress⟩ := next
  intro call hcall
  match progress with
  | .waiting phase =>
    cases hcall
    exact h
  | .done (.error _) => cases hcall
  | .done (.ok _) => cases hcall

theorem agrees_updated (next : Executor × Progress Update (Except ExecutorError Bool)) :
    Step.Agrees found (updated next : Step α) := by
  obtain ⟨y, progress⟩ := next
  intro call hcall
  cases progress <;> cases hcall
  trivial

theorem agrees_concludeTest {t : SpeedTest} (h : List.Forall₂ Trial.Agrees t.trials found) :
    Step.Agrees found (tested (x.concludeTest t) : Step α) := by
  intro call hcall
  unfold concludeTest at hcall
  cases hresults : t.results? with
  | none =>
    rw [hresults] at hcall
    cases hcall
    exact h
  | some results =>
    rw [hresults] at hcall
    cases hcall

theorem speedTest_spec (x : Executor) (now : Instant) :
    Step.Agrees (x.foundAtFirst (.speedTest : Order α)) (tested (x.speedTest now) : Step α) ∧
      (x.orderDeed now (.speedTest : Order α)).verdicts =
        Contact.verdicts Contact.verdict?
          (Finding.conclude (x.foundAtFirst (.speedTest : Order α))) := by
  unfold speedTest orderDeed foundAtFirst
  dsimp only
  by_cases hidle : (x.disposed || x.topology.isEmpty) = true
  · rw [if_pos hidle, if_pos hidle]
    refine ⟨fun call hcall => (by cases hcall), ?_⟩
    have hnothing : (if x.disposed then [] else x.topology.nodes.map x.turnTo) = [] := by
      cases hdisposed : x.disposed with
      | true => rfl
      | false =>
        rw [hdisposed, Bool.false_or, Topology.isEmpty, List.isEmpty_iff] at hidle
        rw [hidle]
        rfl
    rw [hnothing]
    rfl
  · rw [if_neg hidle, if_neg hidle]
    have hopen : ¬x.disposed = true := fun hdisposed => hidle (by rw [hdisposed, Bool.true_or])
    rw [if_neg hopen]
    have htrials := x.agrees_beginTrials now x.topology.nodes
    exact ⟨agrees_concludeTest htrials, verdicts_conclude htrials _⟩

theorem agrees_begin (x : Executor) (m : Moment) (order : Order α) :
    Step.Agrees (x.foundAtFirst order) (x.begin m order) := by
  cases order with
  | execute command options => exact agrees_executed _ _ (x.limit?_execute command options m)
  | updateConfiguration =>
    unfold begin
    cases x.scope with
    | cluster => exact fun call hcall => by cases hcall
    | database name => exact agrees_configured _ _ (x.limit?_execute _ _ m)
  | updateTopology _ _ _ | firstUpdate | refreshTopology _ => exact agrees_updated _
  | speedTest => exact (x.speedTest_spec m.now).1

theorem verdicts_orderDeed (x : Executor) (now : Instant) (order : Order α) :
    (x.orderDeed now order).verdicts =
      Contact.verdicts Contact.verdict? (Finding.conclude (x.foundAtFirst order)) := by
  cases order with
  | speedTest => exact (x.speedTest_spec now).2
  | execute _ _ | updateTopology _ _ _ | updateConfiguration | firstUpdate | refreshTopology _ =>
      rfl

theorem verdicts_wishDeed (x : Executor) (refresh : Refresh) (signal : Signal) (now : Instant) :
    (x.wishDeed refresh signal now).verdicts =
      Contact.verdicts Contact.verdict? (refresh.contacts x.cache signal) := by
  have hsilent : Contact.verdicts Contact.verdict? (refresh.contacts x.cache signal) = [] := by
    cases refresh with
    | queued _ _ => rfl
    | sweeping sweep =>
      unfold Refresh.contacts Flight.contacts
      dsimp only
      cases sweep.flight.finish? x.cache signal <;> rfl
  rw [hsilent]
  unfold wishDeed
  split <;> rfl

theorem verdicts_phaseDeed (x : Executor) {phase : Phase β} (h : phase.limit? = none)
    (signal : Signal) (now : Instant) :
    (x.phaseDeed phase signal now).verdicts =
      Contact.verdicts Contact.verdict? (phase.contacts x.cache signal) := by
  cases phase with
  | ensuring update => exact x.verdicts_wishDeed update.refresh signal now
  | pausing _ _ _ => rfl
  | flying trail flight =>
    have hagrees := x.agrees_advanceFlight flight signal now
    unfold phaseDeed Phase.contacts Flight.contacts
    dsimp only
    cases hprogress : (x.advanceFlight flight signal now).2 with
    | waiting _ =>
      rw [hprogress] at hagrees
      have hnone : flight.finish? x.cache signal = none := hagrees
      rw [hnone]
      rfl
    | done outcome =>
      rw [hprogress] at hagrees
      obtain ⟨finish, hfinish, hshows⟩ := hagrees
      rw [hfinish]
      exact (hshows.verdictOnAttempt? h trail flight.exchange.node).symm

theorem agrees_advance (x : Executor) (m : Moment) (signal : Signal) {call : Call α}
    (h : call.Agrees found) :
    Step.Agrees (call.found x.cache signal found) (x.advance m signal call) := by
  cases call with
  | executing c => exact agrees_executed _ _ (x.limit?_advanceExecution m signal h)
  | configuring c => exact agrees_configured _ _ (x.limit?_advanceExecution m signal h)
  | updating u => exact agrees_updated _
  | testing t => exact agrees_concludeTest (x.agrees_advanceTrials x.cache h signal m.now)

/-- The contacts that a call tells of say what its step means for the marks of nodes. -/
theorem verdicts_callDeed (x : Executor) (signal : Signal) (now : Instant) {call : Call α}
    (h : call.Agrees found) :
    (x.callDeed signal now call).verdicts =
      Contact.verdicts Contact.verdict? (call.contacts x.cache signal found) := by
  cases call with
  | executing c => exact x.verdicts_phaseDeed h signal now
  | configuring c => exact x.verdicts_phaseDeed h signal now
  | updating u => exact x.verdicts_wishDeed u.refresh signal now
  | testing t => exact verdicts_conclude (x.agrees_advanceTrials x.cache h signal now) t.etag

end Executor

end ClusterClient
