import ClusterClient.Proofs.Executor.Mail
import ClusterClient.Proofs.Executor.Overflows
import ClusterClient.Proofs.Executor.Timers
import ClusterClient.Proofs.System.LastSweeps

/-!
# The background

The background of an executor sets two timers and then works off what is put to it.
It comes to that, and goes on with it, exactly as long as the clock reaches as far as
its timers: from then on it is deaf, and calls are as good as without it.
-/

namespace ClusterClient

variable {α : Type}

/-! ## What may happen -/

/-- What may happen to an executor with a background. -/
inductive Occurrence (α : Type) where
  | act (m : Moment) (action : Action α)
  /-- The background looks at its timers. -/
  | look (now : Instant)

namespace Occurrence

/-- The executor lives on, the clock is not at its end, and every attempt has its delay. -/
def Regular (c : Conventions) : Occurrence α → Prop
  | .act _ .dispose => False
  | .act m _ => m.now ≤ Timers.lastInstant ∧ c.backoff.Reaches m.jitter
  | .look _ => True

/-- When the timers were looked at that may be set anew: without updates of the topology, none
is. -/
def looks (updates : Bool) : List (Occurrence α) → List Instant
  | [] => []
  | .act _ _ :: before => looks updates before
  | .look now :: before => if updates then now :: looks updates before else looks updates before

end Occurrence

/-! ## Steps of calls and the background -/

namespace System

variable {s : System α} {m : Moment} {action : Action α}

def heard (s : System α) (caller : Caller) (signal : Signal) : List ResponseHead :=
  (s.call? caller).elim [] (·.heard signal)

/-- Which messages wait after an action if these waited before it: the background takes the first
one when it turns to it, and what heads of answers ask for comes behind the others while there is
room. -/
def waiting (s : System α) (before : List Message) : Action α → List Message
  | .attend => if s.isAttending then before else before.tail
  | .signal caller signal =>
    (before ++ (s.heard caller signal).flatMap fun head => s.executor.demands head.headers).take
      Executor.mailboxCapacity
  | .begin _ _ | .tick _ | .abandon _ | .dispose => before

def Measured (s : System α) : Prop := ∀ caller call, s.call? caller = some call → call.Measured

theorem measured_step (h : s.Measured) (hnow : m.now ≤ Timers.lastInstant) :
    (s.step m action).1.Measured := by
  intro caller call hcall
  rcases call?_step hcall with ⟨-, hold⟩ | ⟨x, order, -, -, hbegun⟩ |
    ⟨old, signal, -, hold, -, hadvanced⟩
  · exact h caller call hold
  · exact Executor.measured_begin hbegun
  · exact Executor.measured_advance hnow (h caller old hold) hadvanced

theorem executor_absorb_of_seen (s : System α) (caller : Caller) {step : Executor.Step α}
    (h : step.2.seen ExecutorError.overflow? = none) :
    (s.absorb caller step).1.executor = step.1 := by
  obtain ⟨x, progress⟩ := step
  cases progress with
  | waiting call => rfl
  | done ending =>
    unfold absorb afterEnding
    dsimp only
    split
    · cases h
    · rfl

theorem length_waiting_le {before : List Message} (h : before.length ≤ Executor.mailboxCapacity) :
    (s.waiting before action).length ≤ Executor.mailboxCapacity := by
  cases action with
  | attend =>
    dsimp only [waiting]
    split
    · exact h
    · rw [List.length_tail]
      exact (Nat.sub_le _ _).trans h
  | signal _ _ => exact List.length_take_le _ _
  | begin _ _ | tick _ | abandon _ | dispose => exact h

/-- The messages that wait when an action starts a call. -/
theorem waiting_of_opening {caller : Caller} {mailbox : List Message} {order : Order α}
    (h : s.opening? action = some (caller, { s.executor with mailbox }, order)) :
    s.waiting s.executor.mailbox action = mailbox := by
  unfold opening? at h
  cases action with
  | begin number order =>
    dsimp only at h
    split at h
    · cases h
    · exact congrArg (fun opening => opening.2.1.mailbox) (Option.some.inj h)
  | attend =>
    dsimp only at h
    split at h
    · rename_i message rest hidle hmailbox
      cases h
      rw [waiting, hidle, hmailbox]
      rfl
    · cases h
  | tick message =>
    dsimp only at h
    split at h
    · cases h
    · exact congrArg (fun opening => opening.2.1.mailbox) (Option.some.inj h)
  | signal _ _ | abandon _ | dispose => cases h

theorem waiting_of_no_opening (hopens : action.opens = true) (h : s.opening? action = none) :
    s.waiting s.executor.mailbox action = s.executor.mailbox := by
  unfold opening? at h
  cases action with
  | attend =>
    dsimp only at h
    split at h
    · cases h
    · rename_i hnone
      dsimp only [waiting]
      split
      · rfl
      · rename_i hidle
        cases hmailbox : s.executor.mailbox with
        | nil => rfl
        | cons message rest =>
          exact (hnone message rest (Bool.not_eq_true _ ▸ hidle) hmailbox).elim
  | begin _ _ | tick _ => rfl
  | signal _ _ | abandon _ | dispose => cases hopens

/-- A step leaves the background ready, with those messages waiting that should. -/
theorem ready_step (h : s.executor.Ready) (hmeasured : s.Measured)
    (hnow : m.now ≤ Timers.lastInstant)
    (hreaches : s.executor.conventions.backoff.Reaches m.jitter) (hlives : action ≠ .dispose) :
    (s.step m action).1.executor.Ready ∧
      (s.step m action).1.executor.mailbox = s.waiting s.executor.mailbox action := by
  have hhappens := s.happens_step m action
  generalize s.step m action = next at hhappens ⊢
  cases hhappens with
  | @begins _ caller mailbox order _ hopening _ =>
    have hbegun := Executor.overflow_begin (x := { s.executor with mailbox }) hreaches order
    have habides := ({ s.executor with mailbox } : Executor).abides_begin m order
    have hmailbox := waiting_of_opening hopening
    dsimp only
    rw [s.executor_absorb_of_seen caller hbegun]
    have hsame := (Executor.mailbox_begin { s.executor with mailbox } m order).trans hmailbox.symm
    exact ⟨⟨habides.listening.trans h.listening, hsame ▸ length_waiting_le h.room⟩, hsame⟩
  | opensNothing hopens hopening => exact ⟨h, (waiting_of_no_opening hopens hopening).symm⟩
  | @goesOn caller signal call hcall =>
    have hadvanced := Executor.overflow_advance hreaches hnow (hmeasured caller call hcall) signal
    have habides := s.executor.abides_advance m signal call
    have hmailbox := h.mailbox_advance m signal call
    have hheard : s.heard caller signal = call.heard signal := by rw [heard, hcall]; rfl
    rw [s.executor_absorb_of_seen caller hadvanced, waiting, hheard]
    exact ⟨.of_mailbox (habides.listening.trans h.listening) hmailbox, hmailbox⟩
  | @findsNothing caller signal hidle =>
    refine ⟨h, ?_⟩
    rw [waiting, heard, hidle]
    exact h.mailAfter_nil.symm
  | abandons caller =>
    dsimp only
    rw [executor_abandon]
    exact ⟨⟨h.listening, h.room⟩, rfl⟩
  | disposes _ | disposedAlready _ => exact (hlives rfl).elim

theorem deaf_step (h : s.executor.listening = false) :
    (s.step m action).1.executor.listening = false := by
  have habsorb : ∀ (caller : Caller) {step : Executor.Step α}, step.1.listening = false →
      (s.absorb caller step).1.executor.listening = false := by
    rintro caller ⟨x, progress⟩ hdeaf
    cases progress with
    | waiting call => exact hdeaf
    | done ending =>
      unfold absorb afterEnding
      dsimp only
      split
      · rfl
      · exact hdeaf
  have hhappens := s.happens_step m action
  generalize s.step m action = next at hhappens ⊢
  cases hhappens with
  | @begins _ caller mailbox order _ _ _ =>
    exact habsorb caller
      (({ s.executor with mailbox } : Executor).abides_begin m order |>.listening.trans h)
  | @goesOn caller signal call _ =>
    exact habsorb caller ((s.executor.abides_advance m signal call).listening.trans h)
  | abandons caller =>
    dsimp only
    rw [executor_abandon]
    exact h
  | disposes _ =>
    dsimp only
    unfold Executor.dispose
    split
    · rw [executor_abandon]
      exact h
    · rfl
  | opensNothing _ _ | findsNothing _ | disposedAlready _ => exact h

end System

/-! ## Executors with a background -/

/-- A system with the timers of its background, as long as it has any. What they ask for, the
background turns to at some later time. -/
structure Manned (α : Type) where
  system : System α
  timers : Option Timers

namespace Manned

def start (s : System α) (now : Instant) : Manned α :=
  let (executor, timers) := s.executor.startBackground now
  { system := { s with executor }, timers }

def step (u : Manned α) : Occurrence α → Manned α
  | .act m action => { u with system := (u.system.step m action).1 }
  | .look now =>
    match u.timers with
    | none => u
    | some timers =>
      let (executor, timers, _) := u.system.executor.fireTimers timers now
      { system := { u.system with executor }, timers }

def after (u : Manned α) : List (Occurrence α) → Manned α
  | [] => u
  | o :: before => (u.after before).step o

def owed (u : Manned α) (first : List Message) : List (Occurrence α) → List Message
  | [] => first
  | .act _ action :: before => (u.after before).system.waiting (u.owed first before) action
  | .look _ :: before => u.owed first before

/-- The background is in its loop. These messages wait for it, and it turns to the first of them
when it is free. -/
structure Attends (u : Manned α) (messages : List Message) : Prop where
  listening : u.system.executor.listening = true
  timed : u.timers.isSome = true
  mailbox : u.system.executor.mailbox = messages
  turns : ∀ message rest, messages = message :: rest → u.system.isAttending = false →
    ∀ m, u.system.step m .attend = u.system.absorb .background
      (({ u.system.executor with mailbox := rest } : Executor).begin m message.order)

/-- All that is kept of the background while the clock reaches as far as its timers. -/
structure Keeps (u : Manned α) (start : Instant) (c : Conventions) (looks : List Instant)
    (messages : List Message) : Prop where
  ready : u.system.executor.Ready
  conventions : u.system.executor.conventions = c
  measured : u.system.Measured
  timers : u.timers = some (.looked start c looks)
  mailbox : u.system.executor.mailbox = messages

variable {u : Manned α} {start now : Instant} {c : Conventions} {looks : List Instant}
  {messages : List Message}

theorem Keeps.attends (h : u.Keeps start c looks messages) : u.Attends messages where
  listening := h.ready.listening
  timed := by rw [h.timers]; rfl
  mailbox := h.mailbox
  turns message rest hmessages hidle m := by
    rw [System.step, hidle, h.mailbox, hmessages]

theorem Keeps.act (h : u.Keeps start c looks messages) {m : Moment} {action : Action α}
    (hregular : (Occurrence.act m action).Regular c) :
    (u.step (.act m action)).Keeps start c looks (u.system.waiting messages action) := by
  obtain ⟨hlives, hnow, hreaches⟩ : action ≠ .dispose ∧ m.now ≤ Timers.lastInstant ∧
      c.backoff.Reaches m.jitter := by
    cases action with
    | dispose => exact hregular.elim
    | begin _ _ | attend | tick _ | signal _ _ | abandon _ => exact ⟨nofun, hregular⟩
  obtain ⟨hready, hmailbox⟩ := System.ready_step (m := m) h.ready h.measured hnow
    (h.conventions ▸ hreaches) hlives
  exact
    { ready := hready
      conventions := (System.conventions_after u.system [(m, action)]).trans h.conventions
      measured := System.measured_step h.measured hnow
      timers := h.timers
      mailbox := h.mailbox ▸ hmailbox }

theorem Keeps.step_look_of_ok {due : List Message} {timers : Timers}
    (h : u.Keeps start c looks messages)
    (hfire : (Timers.looked start c looks).fire now c = .ok (due, timers)) :
    u.step (.look now) = { u with timers := some timers } := by
  simp only [step, h.timers, Executor.fireTimers, h.ready.listening, h.conventions, hfire,
    Bool.not_true, Bool.false_eq_true, if_false]

theorem Keeps.step_look_of_error {overflow : TimeError} (h : u.Keeps start c looks messages)
    (hfire : (Timers.looked start c looks).fire now c = .error overflow) :
    u.step (.look now) =
      { system := { u.system with executor := u.system.executor.deafen }, timers := none } := by
  simp only [step, h.timers, Executor.fireTimers, h.ready.listening, h.conventions, hfire,
    Bool.not_true, Bool.false_eq_true, if_false]

theorem Keeps.look (h : u.Keeps start c looks messages) (hupdates : c.updatesTopology = true)
    (hclock : Timers.BothOnClock start c looks) :
    (Timers.BothOnClock start c (now :: looks) →
      (u.step (.look now)).Keeps start c (now :: looks) messages) ∧
    (¬Timers.BothOnClock start c (now :: looks) →
      (u.step (.look now)).system.executor.listening = false) := by
  refine ⟨fun hlater => ?_, fun hend => ?_⟩
  · obtain ⟨due, hfire⟩ := (Timers.fire_eq_ok_iff hupdates hclock).mpr ⟨hlater, rfl⟩
    rw [h.step_look_of_ok hfire]
    exact { h with timers := rfl }
  · cases hfire : (Timers.looked start c looks).fire now c with
    | ok fired => exact (hend ((Timers.fire_eq_ok_iff hupdates hclock).mp ⟨fired.1, hfire⟩).1).elim
    | error _ => rw [h.step_look_of_error hfire]; rfl

theorem Keeps.look_of_no_updates (h : u.Keeps start c looks messages)
    (hupdates : c.updatesTopology = false) : (u.step (.look now)).Keeps start c looks messages := by
  have hfire : (Timers.looked start c looks).fire now c = .ok ([], .looked start c looks) := by
    simp [Timers.fire, hupdates]
  rw [h.step_look_of_ok hfire]
  exact { h with timers := rfl }

theorem deaf_step (h : u.system.executor.listening = false) (o : Occurrence α) :
    (u.step o).system.executor.listening = false := by
  cases o with
  | act m action => exact System.deaf_step h
  | look now =>
    unfold step
    cases u.timers with
    | none => exact h
    | some timers =>
      have hfire : u.system.executor.fireTimers timers now = (u.system.executor, none, []) := by
        simp [Executor.fireTimers, h]
      dsimp only
      rw [hfire]
      exact h

theorem keeps_or_deaf_start {s : System α} (hready : s.executor.Ready) (hmeasured : s.Measured)
    (start : Instant) :
    (Timers.BothOnClock start s.executor.conventions [] →
      (Manned.start s start).Keeps start s.executor.conventions [] s.executor.mailbox) ∧
    (¬Timers.BothOnClock start s.executor.conventions [] →
      (Manned.start s start).system.executor.listening = false) := by
  unfold Manned.start Executor.startBackground
  refine ⟨fun hclock => ?_, fun hend => ?_⟩
  · rw [Timers.start_eq_ok_iff.mpr ⟨hclock, rfl⟩]
    exact ⟨hready, rfl, hmeasured, rfl, rfl⟩
  · cases hstart : Timers.start start s.executor.conventions with
    | ok timers => exact (hend (Timers.start_eq_ok_iff.mp hstart).1).elim
    | error _ => rfl

/-- Along a run either all is kept, or the background has ended. -/
theorem keeps_or_deaf {s : System α} (hready : s.executor.Ready) (hmeasured : s.Measured)
    (start : Instant) {run : List (Occurrence α)}
    (hregular : ∀ o ∈ run, o.Regular s.executor.conventions) :
    (Timers.BothOnClock start s.executor.conventions
      (Occurrence.looks s.executor.conventions.updatesTopology run) →
      ((Manned.start s start).after run).Keeps start s.executor.conventions
        (Occurrence.looks s.executor.conventions.updatesTopology run)
        ((Manned.start s start).owed s.executor.mailbox run)) ∧
    (¬Timers.BothOnClock start s.executor.conventions
        (Occurrence.looks s.executor.conventions.updatesTopology run) →
      ((Manned.start s start).after run).system.executor.listening = false) := by
  induction run with
  | nil => exact keeps_or_deaf_start hready hmeasured start
  | cons o before ih =>
    obtain ⟨ho, hbefore⟩ := List.forall_mem_cons.mp hregular
    obtain ⟨hkeeps, hdeaf⟩ := ih hbefore
    cases o with
    | act m action =>
      exact ⟨fun hclock => (hkeeps hclock).act ho, fun hend => deaf_step (hdeaf hend) _⟩
    | look now =>
      cases hupdates : s.executor.conventions.updatesTopology with
      | false =>
        rw [hupdates] at hkeeps hdeaf
        exact ⟨fun hclock => (hkeeps hclock).look_of_no_updates hupdates,
          fun hend => deaf_step (hdeaf hend) _⟩
      | true =>
        rw [hupdates] at hkeeps hdeaf
        rw [Occurrence.looks, if_pos rfl]
        by_cases hclock : Timers.BothOnClock start s.executor.conventions
            (Occurrence.looks true before)
        · exact (hkeeps hclock).look hupdates hclock
        · refine ⟨fun hlater => ?_, fun _ => deaf_step (hdeaf hclock) _⟩
          exact (hclock ⟨(Timers.onClock_cons.mp hlater.1).1,
            (Timers.onClock_cons.mp hlater.2).1⟩).elim

end Manned

namespace System

/-! ## All intervals -/

theorem ready_new (scope : Scope) (applicationId : String) (seeds : List Url) (c : Conventions)
    (proxy : Option String) :
    (new scope applicationId seeds c proxy : System α).executor.Ready ∧
      (new scope applicationId seeds c proxy : System α).executor.conventions = c ∧
      (new scope applicationId seeds c proxy : System α).executor.mailbox =
        if c.updatesTopology then [.firstUpdate] else [] := by
  unfold new Executor.new
  dsimp only
  split
  all_goals exact ⟨⟨rfl, Nat.le_of_ble_eq_true rfl⟩, rfl, rfl⟩

/-- Whatever intervals the timers of an executor are given, its background works off all messages
that it was put, in their order and with the first topology first, exactly as long as the clock
reaches as far as the timers were set.  Both are set before it comes to its first message. -/
theorem background_attends_iff (scope : Scope) (applicationId : String) (seeds : List Url)
    (c : Conventions) (proxy : Option String) (refresh speed : Duration) (start : Instant)
    (run : List (Occurrence α)) (hregular : ∀ o ∈ run, o.Regular c) :
    let conventions := (c.withTopologyRefreshInterval refresh).withSpeedTestInterval speed
    let u : Manned α := .start (.new scope applicationId seeds conventions proxy) start
    (u.after run).Attends (u.owed (if c.updatesTopology then [.firstUpdate] else []) run) ↔
      Timers.OnClock start (max refresh Conventions.minTimerInterval)
        (Occurrence.looks c.updatesTopology run) ∧
        Timers.OnClock start (max speed Conventions.minTimerInterval)
          (Occurrence.looks c.updatesTopology run) := by
  intro conventions u
  obtain ⟨hready, hconventions, hmailbox⟩ :=
    ready_new (α := α) scope applicationId seeds conventions proxy
  have hmeasured : (new scope applicationId seeds conventions proxy : System α).Measured :=
    fun _ _ hcall => (Option.some_ne_none _ hcall.symm).elim
  have hperiods : Timers.refreshPeriod conventions = max refresh Conventions.minTimerInterval ∧
      Timers.speedTestPeriod conventions = max speed Conventions.minTimerInterval :=
    ⟨Timers.max_minTimerInterval refresh, Timers.max_minTimerInterval speed⟩
  have hrun : ∀ o ∈ run,
      o.Regular
        (new scope applicationId seeds conventions proxy : System α).executor.conventions := by
    rw [hconventions]
    exact hregular
  obtain ⟨hkeeps, hdeaf⟩ := Manned.keeps_or_deaf hready hmeasured start hrun
  rw [hconventions, Timers.BothOnClock, hperiods.1, hperiods.2] at hkeeps hdeaf
  rw [hmailbox] at hkeeps
  refine ⟨fun hattends => ?_, fun hclock => (hkeeps hclock).attends⟩
  by_contra hend
  exact Bool.false_ne_true ((hdeaf hend).symm.trans hattends.listening)

theorem background_attends_iff_longest :
    let run : List (Occurrence Unit) := [.act ⟨0, Duration.half⟩ .attend]
    let started := fun (refresh speed : Duration) =>
      let c := (({} : Conventions).withTopologyRefreshInterval refresh).withSpeedTestInterval speed
      (Manned.start (.new (.database "db") "" [] c none) 0 : Manned Unit)
    (∀ o ∈ run, o.Regular {}) ∧
      ((started .zero .zero).after run).Attends ((started .zero .zero).owed [.firstUpdate] run) ∧
      ¬((started .zero .longest).after run).Attends
        ((started .zero .longest).owed [.firstUpdate] run) := by
  have hregular : ∀ o ∈ ([.act ⟨0, Duration.half⟩ .attend] : List (Occurrence Unit)),
      o.Regular {} := by
    intro o ho
    rw [List.mem_singleton.mp ho]
    exact ⟨Nat.zero_le _, Backoff.reaches_exponential (by decide) fun d => Nat.div_le_self _ _⟩
  have hiff := fun speed =>
    background_attends_iff (.database "db") "" [] {} none .zero speed 0 _ hregular
  refine ⟨hregular, (hiff .zero).mpr ?_, fun hattends => ?_⟩
  · exact ⟨Timers.onClock_nil.mpr (by decide), Timers.onClock_nil.mpr (by decide)⟩
  · exact absurd (Timers.onClock_nil.mp ((hiff .longest).mp hattends).2) (by decide)

end System

end ClusterClient
