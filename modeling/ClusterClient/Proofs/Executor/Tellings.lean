import ClusterClient.Proofs.Executor.Calls

/-!
# What listeners are told of attempts

Listeners are told of an attempt when it begins and when it has come to an end.  As
long as a call waits for an answer, it has told them of the ends of earlier
attempts only.
-/

namespace ClusterClient

variable {α β : Type}

def Event.settles? : Event → Option Nat
  | .succeeded _ attempt _ | .failed _ attempt _ => some attempt
  | .before _ _ | .topologyUpdated _ _ => none

/-- Of the attempts whose end these events tell all came before the one with this number. -/
def SettlesBefore (attempt : Nat) (told : List Event) : Prop :=
  ∀ event ∈ told, ∀ n, event.settles? = some n → n < attempt

/-- Of what listeners are told by a call nothing is about the end of the attempt that it waits with.
If the request has left, the last that they were told is that it was about to. -/
def Phase.Untold (told : List Event) : Phase β → Prop
  | .ensuring _ => ∀ event ∈ told, event.settles? = none
  | .pausing t _ _ => SettlesBefore t.attempt told
  | .flying t f =>
    told.head? = some (.before f.exchange.request.url t.attempt) ∧ SettlesBefore t.attempt told

theorem SettlesBefore.cons {attempt : Nat} {told : List Event} {event : Event}
    (h : SettlesBefore attempt told) (hevent : event.settles? = none) :
    SettlesBefore attempt (event :: told) := by
  intro other hother n hn
  rcases List.mem_cons.mp hother with rfl | hother
  · cases hevent.symm.trans hn
  · exact h other hother n hn

theorem SettlesBefore.next {attempt n : Nat} {told : List Event} {event : Event}
    (h : SettlesBefore attempt told) (hevent : event.settles? = some n) (hle : n ≤ attempt) :
    SettlesBefore (attempt + 1) (event :: told) := by
  intro other hother k hk
  rcases List.mem_cons.mp hother with rfl | hother
  · cases hevent.symm.trans hk
    exact Nat.lt_succ_of_le hle
  · exact Nat.lt_succ_of_lt (h other hother k hk)

theorem settlesBefore_of_none {told : List Event} (h : ∀ event ∈ told, event.settles? = none)
    (attempt : Nat) : SettlesBefore attempt told :=
  fun event hevent n hn => by cases (h event hevent).symm.trans hn

namespace Executor

variable {x y : Executor} {command : Command β} {options : Options} {m : Moment}
  {told : List Event}

/-! ## Wishes -/

def SettlesNothing (x y : Executor) : Prop :=
  ∃ new, y.events = new ++ x.events ∧ ∀ event ∈ new, event.settles? = none

theorem settlesNothing_of_eq (h : y.events = x.events) : x.SettlesNothing y := ⟨[], h, by simp⟩

theorem events_ask (x : Executor) (limit : Option Duration) (failures : List NodeFailure)
    (now : Instant) (nodes : List Node) :
    (x.ask limit failures now nodes).1.events = x.events := by
  rcases x.ask_cases limit failures now nodes with
    ⟨missed, -, hask⟩ | ⟨skipped, node, rest, missed, pool, wire, flight, -, -, -, hask⟩
  · rw [hask]
    rfl
  · rw [hask]

theorem events_refreshLocked (x : Executor) (order : SweepOrder) (observed : Nat) (now : Instant) :
    (x.refreshLocked order observed now).1.events = x.events := by
  unfold refreshLocked
  split
  · rfl
  · split
    · rfl
    · exact events_ask { x with lockHeld := true } order.limit [] now order.nodes

theorem events_refresh (x : Executor) (order : SweepOrder) (now : Instant) :
    (x.refresh order now).1.events = x.events := by
  unfold refresh
  split
  · rfl
  · exact x.events_refreshLocked order x.sweeps now

theorem settlesNothing_install (x : Executor) (topology : Topology) :
    x.SettlesNothing (x.install topology) := by
  unfold install
  dsimp only
  split
  · exact ⟨[.topologyUpdated topology.etag topology.size], rfl, by simp [Event.settles?]⟩
  · exact settlesNothing_of_eq rfl

theorem settlesNothing_advanceRefresh (x : Executor) (refresh : Refresh) (signal : Signal)
    (now : Instant) : x.SettlesNothing (x.advanceRefresh refresh signal now).1 := by
  cases refresh with
  | queued order observed =>
    unfold advanceRefresh
    cases signal with
    | granted =>
      dsimp only
      split
      · exact settlesNothing_of_eq rfl
      · exact settlesNothing_of_eq (x.events_refreshLocked order observed now)
    | lockTimedOut | resumed | head _ _ | body _ _ | expired _ => exact settlesNothing_of_eq rfl
  | sweeping sweep =>
    show x.SettlesNothing (x.advanceSweep sweep signal now).1
    obtain ⟨z, ⟨mailbox, cache, rfl⟩, hnext⟩ := x.advanceSweep_cases sweep signal now
    rcases hnext with ⟨flight, -, -, hadvance⟩ | ⟨reason, -, hadvance⟩ | ⟨topology, -, hadvance⟩
    · rw [hadvance]
      exact settlesNothing_of_eq rfl
    · rw [hadvance]
      exact settlesNothing_of_eq (events_ask _ _ _ _ _)
    · rw [hadvance]
      exact settlesNothing_install { x with mailbox, cache } topology

/-! ## Attempts -/

/-- A step adds to what listeners were told, and what it leaves under way is untold. -/
def Tells (x : Executor) (told : List Event) (next : Next β) : Prop :=
  ∃ new, next.1.events = new ++ x.events ∧
    ∀ phase, next.2.state? = some phase → phase.Untold (new ++ told)

theorem tells_done (h : ∃ new, y.events = new ++ x.events) (told : List Event)
    (result : Except ExecutorError (Executed β)) : x.Tells told (y, .done result) := by
  obtain ⟨new, hnew⟩ := h
  exact ⟨new, hnew, fun _ hphase => by cases hphase⟩

theorem Tells.of_events (new : List Event) {next : Next β} (h : y.Tells (new ++ told) next)
    (hnew : y.events = new ++ x.events) : x.Tells told next := by
  obtain ⟨newer, hnewer, hphase⟩ := h
  refine ⟨newer ++ new, ?_, ?_⟩
  · rw [hnewer, hnew, List.append_assoc]
  · rw [List.append_assoc]
    exact hphase

theorem tells_beginAttempt (x : Executor) {t : Trail} (e : Exchange β)
    (h : SettlesBefore t.attempt told) : x.Tells told (x.beginAttempt t e) := by
  unfold beginAttempt
  dsimp only
  split
  · rename_i z f hsend
    obtain ⟨⟨pool, rfl⟩, rfl⟩ := send_eq_ok hsend
    refine ⟨[.before e.request.url t.attempt], rfl, fun phase hphase => ?_⟩
    cases hphase
    exact ⟨rfl, h.cons rfl⟩
  · exact tells_done ⟨[_, _], rfl⟩ told _

theorem tells_attempt (x : Executor) {number : Nat} (failures : List NodeFailure)
    (nodes : List Node) (m : Moment) (h : SettlesBefore number told) :
    x.Tells told (x.attempt command options number failures nodes m) := by
  have hturn := x.turnsTo_attempt command options number failures nodes m
  generalize x.attempt command options number failures nodes m = next at hturn ⊢
  cases hturn with
  | noneLeft | noRequest _ | served _ _ _ _ | noDelay _ => exact tells_done ⟨[], rfl⟩ told _
  | begins _ => exact x.tells_beginAttempt _ h
  | pauses _ _ =>
    refine ⟨[], rfl, fun phase hphase => ?_⟩
    cases hphase
    exact h

theorem events_route (x : Executor) (command : Command β) (session : Option Int) :
    (x.route command session).1.events = x.events := by
  unfold route
  split
  · split <;> rfl
  · rfl

theorem tells_follow (x : Executor) (command : Command β) (options : Options) (m : Moment)
    (h : ∀ event ∈ told, event.settles? = none) : x.Tells told (x.follow command options m) := by
  have hroute := x.events_route command options.session
  unfold follow
  split
  · rename_i z e hrouted
    rw [hrouted] at hroute
    exact tells_done ⟨[], hroute⟩ told _
  · rename_i z nodes hrouted
    rw [hrouted] at hroute
    exact Tells.of_events [] (z.tells_attempt [] nodes m (settlesBefore_of_none h 1)) hroute

theorem tells_afterWish {next : Executor × Progress Refresh (Except ExecutorError Bool)}
    (hwish : x.SettlesNothing next.1) (command : Command β) (options : Options) (m : Moment)
    (isFirst : Bool) (h : ∀ event ∈ told, event.settles? = none) :
    x.Tells told (afterWish command options m isFirst next) := by
  obtain ⟨y, progress⟩ := next
  obtain ⟨new, hnew, hnothing⟩ := hwish
  have htold : ∀ event ∈ new ++ told, event.settles? = none := fun event hevent =>
    (List.mem_append.mp hevent).elim (hnothing event) (h event)
  cases progress with
  | waiting refresh =>
    refine ⟨new, hnew, fun phase hphase => ?_⟩
    cases hphase
    exact htold
  | done result =>
    unfold afterWish updateOf
    simp only [Progress.mapState, Progress.map]
    cases afterUpdate isFirst (y.judge isFirst result) with
    | error e => exact tells_done ⟨new, hnew⟩ told _
    | ok _ => exact Tells.of_events new (y.tells_follow command options m htold) hnew

theorem tells_execute (x : Executor) (command : Command β) (options : Options) (m : Moment) :
    x.Tells [] (x.execute command options m) := by
  rw [execute_prepared]
  split
  · exact tells_done ⟨[], rfl⟩ [] _
  · exact x.tells_follow command options m (by simp)
  · exact tells_afterWish (settlesNothing_of_eq (x.events_refresh _ m.now))
      command options m _ (by simp)

theorem tells_concludeAttempt (x : Executor) (c : Execution β) {t : Trail} (e : Exchange β)
    (outcome : Outcome β) (m : Moment) (h : SettlesBefore t.attempt told) :
    x.Tells told (x.concludeAttempt c t e outcome m) := by
  unfold concludeAttempt
  cases outcome with
  | answered _ _ _ => exact tells_done ⟨[_], rfl⟩ told _
  | ended _ => exact tells_done ⟨[_], rfl⟩ told _
  | failed reason =>
    have hnext : SettlesBefore (t.attempt + 1) (.failed e.request.url t.attempt reason :: told) :=
      h.next rfl (Nat.le_refl _)
    exact Tells.of_events [_] (tells_attempt _ _ _ m hnext) rfl

theorem tells_advanceExecution (x : Executor) {c : Execution β} (h : c.phase.Untold told)
    (signal : Signal) (m : Moment) : x.Tells told (x.advanceExecution c signal m) := by
  obtain ⟨command, options, phase⟩ := c
  have hstays : ∀ y : Executor, y.events = x.events → x.Tells told (y, .waiting phase) := by
    intro y hevents
    refine ⟨[], hevents, fun phase' hphase => ?_⟩
    cases hphase
    exact h
  cases phase with
  | ensuring update =>
    exact tells_afterWish (x.settlesNothing_advanceRefresh update.refresh signal m.now) command
      options m _ h
  | pausing trail e pause =>
    cases signal with
    | resumed => exact x.tells_beginAttempt e h
    | granted | lockTimedOut | head _ _ | body _ _ | expired _ => exact hstays x rfl
  | flying trail flight =>
    obtain ⟨mailbox, cache, hfst⟩ := x.advanceFlight_fst flight signal m.now
    unfold advanceExecution
    dsimp only
    cases hadvance : x.advanceFlight flight signal m.now with
    | mk y progress =>
      rw [hadvance] at hfst
      obtain rfl : y = { x with mailbox, cache } := hfst
      cases progress with
      | waiting flight' =>
        have hwaiting : (x.advanceFlight flight signal m.now).2 = .waiting flight' := by
          rw [hadvance]
        obtain ⟨head, rfl⟩ := advanceFlight_waiting hwaiting
        refine ⟨[], rfl, fun phase hphase => ?_⟩
        cases hphase
        exact h
      | done outcome => exact tells_concludeAttempt { x with mailbox, cache } _ _ outcome m h.2

end Executor

end ClusterClient
