import ClusterClient.Proofs.Executor.Tenure

/-!
# What calls put to the background

Messages are put to the background by the heads of answers alone.  While the
background listens, each of them gets what its headers ask for into the mailbox, in
order and behind what is there, and only what finds no room is lost.
-/

namespace ClusterClient

variable {α β : Type}

/-! ## Heads that calls take in -/

def Flight.heard (f : Flight β) : Signal → List ResponseHead
  | .head ticket (.ok head) => if f.head.isNone ∧ ticket = f.ticket then [head] else []
  | .head _ (.error _) | .body _ _ | .expired _ | .granted | .lockTimedOut | .resumed => []

theorem Flight.heard_eq_nil {f : Flight β} {signal : Signal}
    (h : ∀ ticket head, signal = .head ticket (.ok head) → f.head ≠ none) :
    f.heard signal = [] := by
  unfold Flight.heard
  split
  · rename_i ticket head
    exact if_neg fun hboth => h ticket head rfl (Option.isNone_iff_eq_none.mp hboth.1)
  all_goals rfl

def Refresh.heard (signal : Signal) : Refresh → List ResponseHead
  | .queued _ _ => []
  | .sweeping sweep => sweep.flight.heard signal

def Phase.heard (signal : Signal) : Phase β → List ResponseHead
  | .ensuring update => update.refresh.heard signal
  | .pausing _ _ _ => []
  | .flying _ f => f.heard signal

def Trial.heard (signal : Signal) (t : Trial) : List ResponseHead :=
  match t.state with
  | .underWay f => f.heard signal
  | .settled _ => []

def Call.heard (signal : Signal) : Call α → List ResponseHead
  | .executing c => c.phase.heard signal
  | .configuring c => c.phase.heard signal
  | .updating u => u.refresh.heard signal
  | .testing t => t.trials.flatMap (·.heard signal)

namespace Executor

variable {x y : Executor}

/-! ## The mailbox -/

/-- What an answer with these headers asks of the background. -/
def demands (x : Executor) (headers : Headers) : List Message :=
  (if headers.flag Headers.refreshTopology && x.updatesTopology then
    [.updateTopology false] else []) ++
    if headers.flag Headers.refreshConfiguration && x.scope.isDatabase then
      [.updateConfiguration] else []

def mailAfter (x : Executor) (heads : List ResponseHead) : List Message :=
  (x.mailbox ++ heads.flatMap fun head => x.demands head.headers).take mailboxCapacity

/-- The background listens, with no more messages waiting than may. -/
structure Ready (x : Executor) : Prop where
  listening : x.listening = true
  room : x.mailbox.length ≤ mailboxCapacity

theorem take_append_take {l r : List Message} (n : Nat) :
    (l.take n ++ r).take n = (l ++ r).take n := by
  rw [List.take_append, List.take_append, List.take_take, Nat.min_self, List.length_take]
  congr 2
  omega

namespace Ready

theorem mailAfter_nil (h : x.Ready) : x.mailAfter [] = x.mailbox := by
  unfold mailAfter
  rw [List.flatMap_nil, List.append_nil, List.take_of_length_le h.room]

theorem mailbox_post (h : x.Ready) (message : Message) :
    (x.post message).mailbox = (x.mailbox ++ [message]).take mailboxCapacity := by
  have hroom := h.room
  unfold post
  rw [h.listening, Bool.true_and]
  split
  · rename_i hfree
    have hfree := of_decide_eq_true hfree
    exact (List.take_of_length_le (by rw [List.length_append, List.length_singleton]; omega)).symm
  · rename_i hfull
    have hfull : x.mailbox.length = mailboxCapacity := by
      simp only [decide_eq_true_eq] at hfull
      omega
    rw [← hfull, List.take_left]

theorem of_mailbox {messages : List Message} (hlistening : x.listening = true)
    (hmailbox : x.mailbox = messages.take mailboxCapacity) : x.Ready :=
  ⟨hlistening, by rw [hmailbox]; exact List.length_take_le _ _⟩

theorem mailbox_heed (h : x.Ready) (headers : Headers) :
    (x.heed headers).mailbox = (x.mailbox ++ x.demands headers).take mailboxCapacity := by
  have hpost : ∀ (b : Bool) (message : Message) {z : Executor}, z.Ready →
      (if b then z.post message else z).mailbox =
          (z.mailbox ++ if b then [message] else []).take mailboxCapacity := by
    intro b message z hz
    cases b with
    | false => simpa using (List.take_of_length_le hz.room).symm
    | true => exact hz.mailbox_post message
  generalize hfirst : (if headers.flag Headers.refreshTopology && x.updatesTopology then
    x.post (.updateTopology false) else x) = y
  have hy : y.mailbox = _ := hfirst ▸ hpost _ (.updateTopology false) h
  have hscope : y.scope = x.scope ∧ y.listening = x.listening := by
    rw [← hfirst]
    unfold post
    repeat' split
    all_goals exact ⟨rfl, rfl⟩
  have hready : y.Ready := .of_mailbox (hscope.2.trans h.listening) hy
  have hheed : x.heed headers =
      if headers.flag Headers.refreshConfiguration && y.scope.isDatabase then
        y.post .updateConfiguration else y := by
    rw [← hfirst]
    rfl
  rw [hheed, hpost _ _ hready, hy, take_append_take, hscope.1, demands, List.append_assoc]

end Ready

/-! ## What puts nothing to the background -/

@[simp] theorem mailbox_ask (x : Executor) (limit : Option Duration) (failures : List NodeFailure)
    (now : Instant) (nodes : List Node) :
    (x.ask limit failures now nodes).1.mailbox = x.mailbox := by
  rcases x.ask_cases limit failures now nodes with ⟨missed, -, hask⟩ |
    ⟨skipped, node, rest, missed, pool, wire, flight, -, -, -, hask⟩
  all_goals rw [hask]
  all_goals rfl

@[simp] theorem mailbox_refreshLocked (x : Executor) (order : SweepOrder) (observed : Nat)
    (now : Instant) : (x.refreshLocked order observed now).1.mailbox = x.mailbox := by
  unfold refreshLocked
  split
  · rfl
  · split
    · rfl
    · exact mailbox_ask _ order.limit [] now order.nodes

@[simp] theorem mailbox_refresh (x : Executor) (order : SweepOrder) (now : Instant) :
    (x.refresh order now).1.mailbox = x.mailbox := by
  unfold refresh
  split
  · rfl
  · exact x.mailbox_refreshLocked order x.sweeps now

@[simp] theorem mailbox_install (x : Executor) (topology : Topology) :
    (x.install topology).mailbox = x.mailbox := by
  unfold install
  dsimp only
  split <;> rfl

@[simp] theorem mailbox_beginAttempt (x : Executor) (t : Trail) (e : Exchange β) :
    (x.beginAttempt t e).1.mailbox = x.mailbox := by
  unfold beginAttempt
  dsimp only
  split
  · rename_i z flight hsend
    obtain ⟨⟨pool, rfl⟩, -⟩ := send_eq_ok hsend
    rfl
  · rfl

variable {command : Command β} {options : Options} {m : Moment}

@[simp] theorem mailbox_attempt (x : Executor) (number : Nat) (failures : List NodeFailure)
    (nodes : List Node) (m : Moment) :
    (x.attempt command options number failures nodes m).1.mailbox = x.mailbox := by
  have hturn := x.turnsTo_attempt command options number failures nodes m
  generalize x.attempt command options number failures nodes m = next at hturn ⊢
  cases hturn with
  | begins _ => exact x.mailbox_beginAttempt _ _
  | noneLeft | noRequest _ | served _ _ _ _ | noDelay _ | pauses _ _ => rfl

@[simp] theorem mailbox_follow (x : Executor) (m : Moment) :
    (x.follow command options m).1.mailbox = x.mailbox := by
  have hroute : (x.route command options.session).1.mailbox = x.mailbox := by
    unfold route
    split
    · split <;> rfl
    · rfl
  unfold follow
  split
  · rename_i z e hrouted
    rw [hrouted] at hroute
    exact hroute
  · rename_i z nodes hrouted
    rw [hrouted] at hroute
    exact (z.mailbox_attempt _ _ _ _).trans hroute

@[simp] theorem mailbox_concludeAttempt (x : Executor) (c : Execution β) (t : Trail)
    (e : Exchange β) (outcome : Outcome β) (m : Moment) :
    (x.concludeAttempt c t e outcome m).1.mailbox = x.mailbox := by
  unfold concludeAttempt
  cases outcome with
  | answered _ _ _ | ended _ => rfl
  | failed reason => exact mailbox_attempt _ _ _ _ m

@[simp] theorem mailbox_afterWish (isFirst : Bool)
    (next : Executor × Progress Refresh (Except ExecutorError Bool)) :
    (afterWish command options m isFirst next).1.mailbox = next.1.mailbox := by
  obtain ⟨y, progress⟩ := next
  cases progress with
  | waiting refresh => rfl
  | done result =>
    unfold afterWish updateOf
    simp only [Progress.mapState, Progress.map]
    cases afterUpdate isFirst (y.judge isFirst result) with
    | error e => rfl
    | ok _ => exact y.mailbox_follow m

@[simp] theorem mailbox_execute (x : Executor) (command : Command β) (options : Options)
    (m : Moment) : (x.execute command options m).1.mailbox = x.mailbox := by
  rw [execute_prepared]
  split
  · rfl
  · exact x.mailbox_follow m
  · exact (mailbox_afterWish _ _).trans (x.mailbox_refresh _ m.now)

@[simp] theorem mailbox_beginTrials (x : Executor) (now : Instant) (nodes : List Node) :
    (x.beginTrials now nodes).1.mailbox = x.mailbox := by
  induction nodes generalizing x with
  | nil => rfl
  | cons node nodes ih =>
    have htrial : (x.beginTrial node now).1.mailbox = x.mailbox := by
      unfold beginTrial
      dsimp only
      split
      · rename_i z flight hlaunch
        obtain ⟨⟨pool, wire, rfl⟩, -⟩ := launch_eq_ok hlaunch
        rfl
      · rfl
    exact (ih _).trans htrial

@[simp] theorem mailbox_concludeTest (x : Executor) (t : SpeedTest) :
    (x.concludeTest t).1.mailbox = x.mailbox := by
  unfold concludeTest
  split <;> rfl

@[simp] theorem mailbox_firstUpdate (x : Executor) (now : Instant) :
    (x.firstUpdate now).1.mailbox = x.mailbox := by
  unfold firstUpdate
  repeat' split
  any_goals rfl
  exact x.mailbox_refresh _ now

theorem mailbox_configured (command : Command ConfigurationVersion) (options : Options)
    (next : Next ConfigurationVersion) :
    (configured command options next : Step α).1.mailbox = next.1.mailbox := by
  rw [configured_fst]
  rfl

theorem mailbox_begin (x : Executor) (m : Moment) (order : Order α) :
    (x.begin m order).1.mailbox = x.mailbox := by
  unfold begin
  cases order with
  | execute command options => exact x.mailbox_execute command options m
  | updateTopology node force limit =>
    unfold updateTopology
    dsimp only
    split
    · rfl
    · exact x.mailbox_refresh _ m.now
  | updateConfiguration =>
    dsimp only
    split
    · rfl
    · exact (mailbox_configured _ _ _).trans (x.mailbox_execute _ _ m)
  | speedTest =>
    unfold speedTest
    dsimp only
    split
    · rfl
    · exact (mailbox_concludeTest _ _).trans (x.mailbox_beginTrials m.now _)
  | firstUpdate => exact x.mailbox_firstUpdate m.now
  | refreshTopology force =>
    unfold refreshTopology
    dsimp only
    repeat' split
    · rfl
    · exact x.mailbox_firstUpdate m.now
    · exact x.mailbox_refresh _ m.now

/-! ## What heads put to the background -/

namespace Ready

theorem mailbox_receiveHead (h : x.Ready) (f : Flight β) (head : ResponseHead) (now : Instant) :
    (x.receiveHead f head now).1.mailbox = x.mailAfter [head] := by
  have hconfirm : ∀ z : Executor,
      (z.confirm f.exchange head.status now).1.mailbox = z.mailbox := by
    intro z
    unfold confirm
    split <;> rfl
  unfold mailAfter
  rw [List.flatMap_singleton, ← h.mailbox_heed head.headers]
  unfold receiveHead
  dsimp only
  split
  · exact hconfirm _
  · split <;> rfl

theorem mailbox_advanceFlight (h : x.Ready) (f : Flight β) (signal : Signal) (now : Instant) :
    (x.advanceFlight f signal now).1.mailbox = x.mailAfter (f.heard signal) := by
  have hbody : ∀ (head : ResponseHead) (body : Except TransportFailure Bytes),
      (x.receiveBody f.exchange head body now).1.mailbox = x.mailbox := by
    intro head body
    unfold receiveBody receiveResult keep
    repeat' split
    all_goals rfl
  unfold advanceFlight
  split
  · rename_i ticket head hwaits
    simp only [Flight.heard, hwaits, Option.isNone_none, true_and]
    split
    · exact h.mailbox_receiveHead f head now
    · exact h.mailAfter_nil.symm
  · split <;> exact h.mailAfter_nil.symm
  · split
    · exact (hbody _ _).trans h.mailAfter_nil.symm
    · exact h.mailAfter_nil.symm
  · split <;> exact h.mailAfter_nil.symm
  · rename_i hnone _ _ _
    rw [Flight.heard_eq_nil hnone]
    exact h.mailAfter_nil.symm

theorem mailbox_advanceRefresh (h : x.Ready) (r : Refresh) (signal : Signal) (now : Instant) :
    (x.advanceRefresh r signal now).1.mailbox = x.mailAfter (r.heard signal) := by
  cases r with
  | queued order observed =>
    refine Eq.trans ?_ h.mailAfter_nil.symm
    unfold advanceRefresh
    cases signal with
    | granted =>
      dsimp only
      split
      · rfl
      · exact x.mailbox_refreshLocked order observed now
    | lockTimedOut | resumed | head _ _ | body _ _ | expired _ => rfl
  | sweeping sweep =>
    have hflight := h.mailbox_advanceFlight sweep.flight signal now
    unfold advanceRefresh advanceSweep Refresh.heard
    dsimp only
    rw [← hflight]
    generalize x.advanceFlight sweep.flight signal now = advanced
    obtain ⟨y, progress⟩ := advanced
    match progress with
    | .waiting _ => rfl
    | .done (.answered topology _ _) => exact y.mailbox_install topology
    | .done (.failed _) | .done (.ended _) => exact y.mailbox_ask _ _ now _

theorem mailbox_advanceExecution (h : x.Ready) (c : Execution β) (signal : Signal) (m : Moment) :
    (x.advanceExecution c signal m).1.mailbox = x.mailAfter (c.phase.heard signal) := by
  obtain ⟨command, options, phase⟩ := c
  cases phase with
  | ensuring update =>
    exact (mailbox_afterWish update.isFirst _).trans
      (h.mailbox_advanceRefresh update.refresh signal m.now)
  | pausing trail e pause =>
    refine Eq.trans ?_ h.mailAfter_nil.symm
    cases signal with
    | resumed => exact x.mailbox_beginAttempt trail e
    | granted | lockTimedOut | head _ _ | body _ _ | expired _ => rfl
  | flying trail f =>
    have hflight := h.mailbox_advanceFlight f signal m.now
    unfold advanceExecution Phase.heard
    dsimp only
    rw [← hflight]
    generalize x.advanceFlight f signal m.now = advanced
    obtain ⟨y, progress⟩ := advanced
    cases progress with
    | waiting _ => rfl
    | done outcome => exact y.mailbox_concludeAttempt _ _ _ outcome m

theorem mailbox_advanceTrials (h : x.Ready) (signal : Signal) (now : Instant)
    (trials : List Trial) :
    (x.advanceTrials signal now trials).1.mailbox =
      x.mailAfter (trials.flatMap (·.heard signal)) := by
  induction trials generalizing x with
  | nil => exact h.mailAfter_nil.symm
  | cons trial trials ih =>
    have htrial : (x.advanceTrial trial signal now).1.mailbox =
        x.mailAfter (trial.heard signal) := by
      unfold advanceTrial Trial.heard
      cases trial.state with
      | settled _ => exact h.mailAfter_nil.symm
      | underWay f =>
        dsimp only
        rw [← h.mailbox_advanceFlight f signal now]
        split
        all_goals
          rename_i hadvance
          rw [hadvance]
    obtain ⟨mailbox, cache, hfst⟩ := x.advanceTrials_fst signal now [trial]
    have hfst : (x.advanceTrial trial signal now).1 = { x with mailbox, cache } := hfst
    have hready : (x.advanceTrial trial signal now).1.Ready :=
      .of_mailbox (by rw [hfst]; exact h.listening) htrial
    refine (ih hready).trans ?_
    have hdemands : (x.advanceTrial trial signal now).1.demands = x.demands := by rw [hfst]; rfl
    unfold mailAfter at htrial ⊢
    rw [htrial, hdemands, take_append_take, List.flatMap_cons, List.flatMap_append,
      List.append_assoc]

/-- What a call puts to the background when it goes on is what the heads that it takes in ask
for. -/
theorem mailbox_advance (h : x.Ready) (m : Moment) (signal : Signal) (call : Call α) :
    (x.advance m signal call).1.mailbox = x.mailAfter (call.heard signal) := by
  unfold advance
  cases call with
  | executing c => exact h.mailbox_advanceExecution c signal m
  | configuring c => exact (mailbox_configured _ _ _).trans (h.mailbox_advanceExecution c signal m)
  | updating u => exact h.mailbox_advanceRefresh u.refresh signal m.now
  | testing t =>
      exact (mailbox_concludeTest _ _).trans (h.mailbox_advanceTrials signal m.now t.trials)

end Ready

end Executor

end ClusterClient
