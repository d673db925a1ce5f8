import ClusterClient.Proofs.Executor.Calls

/-!
# What calls cannot change

Whether an executor is given up, whether its background listens, and which
configuration is in force: no call changes any of that, except that a call for the
configuration may take over a newer one.  A background that listens no more is told
nothing.
-/

namespace ClusterClient

variable {α β : Type}

namespace Executor

variable {x y z : Executor}

/-- The first executor turns into the second by calls that are at work. -/
structure Abides (x y : Executor) : Prop where
  configuration : y.configuration = x.configuration
  disposed : y.disposed = x.disposed
  listening : y.listening = x.listening
  mailbox : x.listening = false → y.mailbox = x.mailbox

namespace Abides

theorem refl (x : Executor) : x.Abides x := ⟨rfl, rfl, rfl, fun _ => rfl⟩

theorem trans (hxy : x.Abides y) (hyz : y.Abides z) : x.Abides z where
  configuration := hyz.configuration.trans hxy.configuration
  disposed := hyz.disposed.trans hxy.disposed
  listening := hyz.listening.trans hxy.listening
  mailbox hdeaf := (hyz.mailbox (hxy.listening.trans hdeaf)).trans (hxy.mailbox hdeaf)

end Abides

/-! ## Requests -/

theorem heed_of_deaf (hdeaf : x.listening = false) (headers : Headers) : x.heed headers = x := by
  have hpost : ∀ message, x.post message = x := fun message => by simp [post, hdeaf]
  unfold heed
  simp only [hpost, ite_self]

theorem abides_heed (x : Executor) (headers : Headers) : x.Abides (x.heed headers) := by
  obtain ⟨mailbox, hheed⟩ := x.heed_eq headers
  refine ⟨by rw [hheed], by rw [hheed], by rw [hheed], fun hdeaf => ?_⟩
  rw [heed_of_deaf hdeaf]

theorem abides_advanceFlight (x : Executor) (f : Flight β) (signal : Signal) (now : Instant) :
    x.Abides (x.advanceFlight f signal now).1 := by
  have hconfirm : ∀ (z : Executor) (e : Exchange β) (status : Status),
      z.Abides (z.confirm e status now).1 := by
    intro z e status
    unfold confirm
    split <;> exact ⟨rfl, rfl, rfl, fun _ => rfl⟩
  have hbody : ∀ (head : ResponseHead) (body : Except TransportFailure Bytes),
      x.Abides (x.receiveBody f.exchange head body now).1 := by
    intro head body
    unfold receiveBody receiveResult keep
    repeat' split
    all_goals exact ⟨rfl, rfl, rfl, fun _ => rfl⟩
  have hhead : ∀ head : ResponseHead, x.Abides (x.receiveHead f head now).1 := by
    intro head
    have hheed := x.abides_heed head.headers
    unfold receiveHead
    dsimp only
    split
    · exact hheed.trans (hconfirm _ _ _)
    · split <;> exact hheed
  unfold advanceFlight
  split
  · split
    · exact hhead _
    · exact .refl x
  · split <;> exact .refl x
  · split
    · exact hbody _ _
    · exact .refl x
  · split <;> exact .refl x
  · exact .refl x

/-! ## Wishes -/

theorem abides_ask (x : Executor) (limit : Option Duration) (failures : List NodeFailure)
    (now : Instant) (nodes : List Node) : x.Abides (x.ask limit failures now nodes).1 := by
  rcases x.ask_cases limit failures now nodes with ⟨missed, -, hask⟩ |
    ⟨skipped, node, rest, missed, pool, wire, flight, -, -, -, hask⟩
  all_goals rw [hask]
  all_goals exact ⟨rfl, rfl, rfl, fun _ => rfl⟩

theorem abides_refreshLocked (x : Executor) (order : SweepOrder) (observed : Nat) (now : Instant) :
    x.Abides (x.refreshLocked order observed now).1 := by
  have hlocked : x.Abides { x with lockHeld := true } := ⟨rfl, rfl, rfl, fun _ => rfl⟩
  unfold refreshLocked
  split
  · exact .refl x
  · split
    · exact .refl x
    · exact hlocked.trans (abides_ask _ order.limit [] now order.nodes)

theorem abides_refresh (x : Executor) (order : SweepOrder) (now : Instant) :
    x.Abides (x.refresh order now).1 := by
  unfold refresh
  split
  · exact .refl x
  · exact x.abides_refreshLocked order x.sweeps now

theorem abides_install (x : Executor) (topology : Topology) : x.Abides (x.install topology) := by
  unfold install
  dsimp only
  split <;> exact ⟨rfl, rfl, rfl, fun _ => rfl⟩

theorem abides_advanceSweep (x : Executor) (sweep : Sweep) (signal : Signal) (now : Instant) :
    x.Abides (x.advanceSweep sweep signal now).1 := by
  have hflight := x.abides_advanceFlight sweep.flight signal now
  unfold advanceSweep
  dsimp only
  generalize x.advanceFlight sweep.flight signal now = advanced at hflight ⊢
  obtain ⟨y, progress⟩ := advanced
  match progress with
  | .waiting _ => exact hflight
  | .done (.answered topology _ _) =>
    exact (hflight.trans (y.abides_install topology)).trans ⟨rfl, rfl, rfl, fun _ => rfl⟩
  | .done (.failed _) | .done (.ended _) => exact hflight.trans (y.abides_ask _ _ now _)

theorem abides_advanceRefresh (x : Executor) (refresh : Refresh) (signal : Signal)
    (now : Instant) : x.Abides (x.advanceRefresh refresh signal now).1 := by
  unfold advanceRefresh
  split
  · split
    · exact .refl x
    · exact x.abides_refreshLocked _ _ now
  · exact .refl x
  · exact .refl x
  · exact x.abides_advanceSweep _ signal now

/-! ## Calls on commands -/

variable {command : Command β} {options : Options} {m : Moment}

theorem abides_beginAttempt (x : Executor) (t : Trail) (e : Exchange β) :
    x.Abides (x.beginAttempt t e).1 := by
  unfold beginAttempt
  dsimp only
  split
  · rename_i z flight hsend
    obtain ⟨⟨pool, rfl⟩, -⟩ := send_eq_ok hsend
    exact ⟨rfl, rfl, rfl, fun _ => rfl⟩
  · exact ⟨rfl, rfl, rfl, fun _ => rfl⟩

theorem abides_attempt (x : Executor) (number : Nat) (failures : List NodeFailure)
    (nodes : List Node) (m : Moment) :
    x.Abides (x.attempt command options number failures nodes m).1 := by
  have hturn := x.turnsTo_attempt command options number failures nodes m
  generalize x.attempt command options number failures nodes m = next at hturn ⊢
  cases hturn with
  | noneLeft => exact ⟨rfl, rfl, rfl, fun _ => rfl⟩
  | begins _ => exact x.abides_beginAttempt _ _
  | noRequest _ | served _ _ _ _ | noDelay _ | pauses _ _ => exact .refl x

theorem abides_follow (x : Executor) (m : Moment) :
    x.Abides (x.follow command options m).1 := by
  have hroute : x.Abides (x.route command options.session).1 := by
    unfold route
    split
    · split <;> exact .refl x
    · exact ⟨rfl, rfl, rfl, fun _ => rfl⟩
  unfold follow
  split
  · rename_i z e hrouted
    rw [hrouted] at hroute
    exact hroute
  · rename_i z nodes hrouted
    rw [hrouted] at hroute
    exact hroute.trans (z.abides_attempt _ _ _ _)

theorem abides_concludeAttempt (x : Executor) (c : Execution β) (t : Trail) (e : Exchange β)
    (outcome : Outcome β) (m : Moment) : x.Abides (x.concludeAttempt c t e outcome m).1 := by
  unfold concludeAttempt
  cases outcome with
  | answered _ _ _ | ended _ => exact ⟨rfl, rfl, rfl, fun _ => rfl⟩
  | failed reason =>
    have hmarked : x.Abides ((x.markFailed e.node).emit (.failed e.request.url t.attempt reason)) :=
      ⟨rfl, rfl, rfl, fun _ => rfl⟩
    exact hmarked.trans (abides_attempt _ _ _ _ m)

theorem abides_afterWish (isFirst : Bool)
    (next : Executor × Progress Refresh (Except ExecutorError Bool)) :
    next.1.Abides (afterWish command options m isFirst next).1 := by
  obtain ⟨y, progress⟩ := next
  cases progress with
  | waiting refresh => exact .refl y
  | done result =>
    unfold afterWish updateOf
    simp only [Progress.mapState, Progress.map]
    cases afterUpdate isFirst (y.judge isFirst result) with
    | error e => exact .refl y
    | ok _ => exact y.abides_follow m

theorem abides_execute (x : Executor) (command : Command β) (options : Options) (m : Moment) :
    x.Abides (x.execute command options m).1 := by
  rw [execute_prepared]
  split
  · exact .refl x
  · exact x.abides_follow m
  · exact (x.abides_refresh _ m.now).trans (abides_afterWish _ _)

theorem abides_advanceExecution (x : Executor) (c : Execution β) (signal : Signal) (m : Moment) :
    x.Abides (x.advanceExecution c signal m).1 := by
  obtain ⟨command, options, phase⟩ := c
  cases phase with
  | ensuring update =>
    exact (x.abides_advanceRefresh update.refresh signal m.now).trans
      (abides_afterWish update.isFirst _)
  | pausing trail e pause =>
    cases signal with
    | resumed => exact x.abides_beginAttempt trail e
    | granted | lockTimedOut | head _ _ | body _ _ | expired _ => exact .refl x
  | flying trail f =>
    have hflight := x.abides_advanceFlight f signal m.now
    unfold advanceExecution
    dsimp only
    generalize x.advanceFlight f signal m.now = advanced at hflight ⊢
    obtain ⟨y, progress⟩ := advanced
    cases progress with
    | waiting _ => exact hflight
    | done outcome => exact hflight.trans (y.abides_concludeAttempt _ _ _ outcome m)

/-! ## Speed tests -/

theorem abides_beginTrials (x : Executor) (now : Instant) (nodes : List Node) :
    x.Abides (x.beginTrials now nodes).1 := by
  induction nodes generalizing x with
  | nil => exact .refl x
  | cons node nodes ih =>
    have htrial : x.Abides (x.beginTrial node now).1 := by
      unfold beginTrial
      dsimp only
      split
      · rename_i z flight hlaunch
        obtain ⟨⟨pool, wire, rfl⟩, -⟩ := launch_eq_ok hlaunch
        exact ⟨rfl, rfl, rfl, fun _ => rfl⟩
      · exact .refl x
    exact htrial.trans (ih _)

theorem abides_advanceTrials (x : Executor) (signal : Signal) (now : Instant)
    (trials : List Trial) : x.Abides (x.advanceTrials signal now trials).1 := by
  induction trials generalizing x with
  | nil => exact .refl x
  | cons trial trials ih =>
    have htrial : x.Abides (x.advanceTrial trial signal now).1 := by
      unfold advanceTrial
      split
      · exact .refl x
      · rename_i f _
        have hflight := x.abides_advanceFlight f signal now
        split
        all_goals
          rename_i hadvance
          rw [hadvance] at hflight
          exact hflight
    exact htrial.trans (ih _)

theorem abides_concludeTest (x : Executor) (t : SpeedTest) : x.Abides (x.concludeTest t).1 := by
  unfold concludeTest
  split
  · exact .refl x
  · exact ⟨rfl, rfl, rfl, fun _ => rfl⟩

theorem abides_speedTest (x : Executor) (now : Instant) : x.Abides (x.speedTest now).1 := by
  unfold speedTest
  split
  · exact .refl x
  · exact (x.abides_beginTrials now x.topology.nodes).trans (abides_concludeTest _ _)

/-! ## All calls -/

def receive (x : Executor) (incoming : Option ConfigurationVersion) : Executor :=
  { x with configuration := incoming.elim x.configuration x.configuration.latest }

def Next.version? : Next ConfigurationVersion → Option ConfigurationVersion
  | (_, .done (.ok executed)) => some executed.result
  | (_, .done (.error _)) | (_, .waiting _) => none

def orderVersion? (x : Executor) (m : Moment) : Order α → Option ConfigurationVersion
  | .updateConfiguration =>
    match x.scope with
    | .cluster => none
    | .database name => (x.execute (Command.configuration name) {} m).version?
  | .execute _ _ | .updateTopology _ _ _ | .speedTest | .firstUpdate | .refreshTopology _ => none

def callVersion? (x : Executor) (m : Moment) (signal : Signal) :
    Call α → Option ConfigurationVersion
  | .configuring c => (x.advanceExecution c signal m).version?
  | .executing _ | .updating _ | .testing _ => none

theorem Abides.receive (h : x.Abides y) (incoming : Option ConfigurationVersion) :
    (x.receive incoming).Abides (y.receive incoming) where
  configuration := by
    unfold Executor.receive
    rw [h.configuration]
  disposed := h.disposed
  listening := h.listening
  mailbox := h.mailbox

theorem configured_fst (command : Command ConfigurationVersion) (options : Options)
    (next : Next ConfigurationVersion) :
    (configured command options next : Step α).1 = next.1.receive next.version? := by
  obtain ⟨y, progress⟩ := next
  match progress with
  | .waiting _ | .done (.error _) | .done (.ok _) => rfl

theorem abides_firstUpdate (x : Executor) (now : Instant) : x.Abides (x.firstUpdate now).1 := by
  unfold firstUpdate
  repeat' split
  any_goals exact .refl x
  exact x.abides_refresh _ now

theorem abides_begin (x : Executor) (m : Moment) (order : Order α) :
    (x.receive (x.orderVersion? m order)).Abides (x.begin m order).1 := by
  unfold begin
  cases order with
  | execute command options => exact x.abides_execute command options m
  | updateTopology node force limit =>
    unfold updateTopology
    dsimp only
    split
    · exact .refl x
    · exact x.abides_refresh _ m.now
  | updateConfiguration =>
    unfold orderVersion?
    dsimp only
    cases x.scope with
    | cluster => exact .refl x
    | database name =>
      dsimp only
      rw [configured_fst]
      exact (x.abides_execute _ _ m).receive _
  | speedTest => exact x.abides_speedTest m.now
  | firstUpdate => exact x.abides_firstUpdate m.now
  | refreshTopology force =>
    unfold refreshTopology
    dsimp only
    repeat' split
    · exact .refl x
    · exact x.abides_firstUpdate m.now
    · exact x.abides_refresh _ m.now

theorem abides_advance (x : Executor) (m : Moment) (signal : Signal) (call : Call α) :
    (x.receive (x.callVersion? m signal call)).Abides (x.advance m signal call).1 := by
  unfold advance
  cases call with
  | executing c => exact x.abides_advanceExecution c signal m
  | configuring c =>
    dsimp only
    rw [configured_fst]
    exact (x.abides_advanceExecution c signal m).receive _
  | updating u => exact x.abides_advanceRefresh u.refresh signal m.now
  | testing t =>
    exact (x.abides_advanceTrials signal m.now t.trials).trans (abides_concludeTest _ _)

end Executor

end ClusterClient
