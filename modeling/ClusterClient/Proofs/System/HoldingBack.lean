import ClusterClient.Proofs.System.Restraint

/-!
# Holding back after a failed sweep

After a sweep failed, calls on commands begin no other one for a while, whether
they start then or waited for the lock meanwhile.  They go by what the failed
sweep left: its failures, or the topology from before.
-/

namespace ClusterClient

variable {α : Type} {now : Instant} {r : Report}

namespace System

variable {s : System α} {m : Moment} {action : Action α}

theorem advances_step (s : System α) (m : Moment) (action : Action α) :
    s.executor.knowledge.Advances (s.step m action).1.executor.knowledge := by
  cases hreport : s.report? m action with
  | none =>
    rw [(step_rests hreport).knowledge]
    exact ⟨rfl, id, Nat.le_refl _, fun _ => rfl⟩
  | some r => exact (step_moves hreport).takes.advances

/-- Every call on a command that waits for the lock holds back. -/
def Restrained (s : System α) (now : Instant) : Prop :=
  ∀ c call, s.call? c = some call → call.Restrained s.executor.knowledge now

theorem Restrained.step (h : s.Restrained now) (hle : now ≤ m.now) (action : Action α) :
    (s.step m action).1.Restrained m.now := by
  intro c call hcall
  rcases call?_step hcall with ⟨-, hsame⟩ | ⟨x, order, -, hstep, hwaiting⟩ |
    ⟨old, signal, -, hold, hstep, hwaiting⟩
  · exact (h c call hsame).mono (s.advances_step m action) hle
  · rw [hstep, (s.aside_absorb c _).knowledge]
    exact Executor.restrained_begin hwaiting
  · rw [hstep, (s.aside_absorb c _).knowledge]
    have hnow := (h c old hold).mono ⟨rfl, id, Nat.le_refl _, fun _ => rfl⟩ hle
    exact Executor.restrained_advance hnow hwaiting

/-- Time never goes back, and it is not earlier now than at the last event. -/
def Chronological (run : Run α) (now : Instant) : Prop :=
  (now :: run.map fun event => event.1.now).Pairwise (· ≥ ·)

instance (run : Run α) (now : Instant) : Decidable (Chronological run now) :=
  inferInstanceAs (Decidable ((now :: run.map fun event => event.1.now).Pairwise (· ≥ ·)))

theorem restrained_after (hidle : s.calls = []) {run : Run α} (hclock : Chronological run now) :
    (s.after run).Restrained now := by
  induction run generalizing now with
  | nil =>
    intro c call hcall
    rw [after, call?, hidle] at hcall
    cases hcall
  | cons event before ih =>
    obtain ⟨m, action⟩ := event
    unfold Chronological at hclock
    rw [List.map_cons, List.pairwise_cons] at hclock
    have hle : m.now ≤ now := hclock.1 m.now List.mem_cons_self
    have hstep := (ih hclock.2).step (Nat.le_refl m.now) action
    exact fun c call hcall => (hstep c call hcall).mono ⟨rfl, id, Nat.le_refl _, fun _ => rfl⟩ hle

def isOnCommand (s : System α) (action : Action α) : Bool :=
  match s.opening? action with
  | some (_, _, order) => order.isOnCommand
  | none =>
    match action with
    | .signal c _ => (s.call? c).any Call.isOnCommand
    | .begin _ _ | .attend | .tick _ | .abandon _ | .dispose => false

/-- What calls on commands do while the last sweep failed only just now. -/
structure HoldsBack (s : System α) (m : Moment) (failures : List NodeFailure) : Prop where
  noSweep : ∀ action r, s.isOnCommand action = true → s.report? m action = some r → r.began = none
  /-- A call that starts without a topology reports the failures of that sweep. -/
  refused : ∀ action c x command options,
    s.opening? action = some (c, x, .execute command options) →
    x.disposed = false → s.executor.initialized = false →
    s.step m action = s.absorb c (x, .done (.error (.topologyUnavailable failures)))
  /-- A call that starts with a topology goes to the nodes that this has. -/
  follows : ∀ action c x command options,
    s.opening? action = some (c, x, .execute command options) →
    x.disposed = false → s.executor.initialized = true →
    s.step m action =
      s.absorb c (Executor.executed command options (x.follow command options m))
  /-- The same holds of calls that waited for the lock. -/
  waited : ∀ c e update order observed, s.call? c = some (.executing e) →
    e.phase = .ensuring update → update.refresh = .queued order observed →
    s.executor.lockHeld = false →
    s.step m (.signal c .granted) =
      if s.executor.initialized then
        s.absorb c (Executor.executed e.command e.options (s.executor.follow e.command e.options m))
      else s.absorb c (s.executor, .done (.error (.topologyUnavailable failures)))

theorem noSweep_of_recent {failures : List NodeFailure} (h : s.Restrained m.now)
    (hrecent : s.executor.recentFailure? m.now = some failures)
    (hcommand : s.isOnCommand action = true) (hreport : s.report? m action = some r) :
    r.began = none := by
  have hnever : s.executor.recentFailure? m.now ≠ none := by
    rw [hrecent]
    exact Option.some_ne_none _
  cases hbegan : r.began with
  | none => rfl
  | some wish =>
    have hdue := (step_moves hreport).takes.due_of_began hbegan
    unfold isOnCommand at hcommand
    rcases report?_cases hreport with ⟨caller, mailbox, order, wish', hopening, hwish, rfl⟩ |
      ⟨caller, signal, refresh, rfl, hrefresh, rfl⟩ | ⟨caller, refresh, -, rfl, -⟩
    · rw [hopening] at hcommand
      obtain ⟨isFirst, nodes, hprepared, -⟩ := Executor.preparation_of_wish? hcommand hwish
      exact (hnever (Executor.recentFailure?_of_preparation hprepared)).elim
    · obtain ⟨call, hcall, hcalled⟩ := Option.bind_eq_some_iff.mp hrefresh
      have honCommand : call.isOnCommand = true := by
        have hany : (s.call? caller).any Call.isOnCommand = true := hcommand
        rwa [hcall] at hany
      rcases hdue.place with ⟨hnone, -⟩ | ⟨observed, hqueued, -, hseen⟩
      · cases hrefresh.symm.trans hnone
      · have hwaits := hcalled.trans (hrefresh.symm.trans hqueued)
        obtain ⟨isFirst, hrestrained⟩ := (h caller call hcall).of_queued honCommand hwaits
        have hcurrent := (hseen hrestrained.unforced).symm
        exact (hnever (hrestrained.recent hcurrent)).elim
    · cases hbegan

/-- Whoever waited for the lock while a sweep failed is content with that. -/
theorem step_of_waited {failures : List NodeFailure} {c : Caller} {e : Execution α}
    {update : Update} {order : SweepOrder} {observed : Nat} (h : s.Restrained m.now)
    (hrecent : s.executor.recentFailure? m.now = some failures)
    (hcall : s.call? c = some (.executing e)) (hphase : e.phase = .ensuring update)
    (hqueued : update.refresh = .queued order observed) (hfree : s.executor.lockHeld = false) :
    s.step m (.signal c .granted) =
      if s.executor.initialized then
        s.absorb c (Executor.executed e.command e.options (s.executor.follow e.command e.options m))
      else s.absorb c (s.executor, .done (.error (.topologyUnavailable failures))) := by
  obtain ⟨isFirst, refresh⟩ := update
  obtain rfl : refresh = .queued order observed := hqueued
  have hrestrained : ClusterClient.Restrained s.executor.knowledge m.now isFirst order observed :=
    h c _ hcall isFirst order observed hphase
  have hadvance : s.executor.advanceExecution e .granted m =
      Executor.afterWish e.command e.options m isFirst
        (s.executor.refreshLocked order observed m.now) := by
    obtain ⟨command, options, phase⟩ := e
    obtain rfl : phase = .ensuring ⟨isFirst, .queued order observed⟩ := hphase
    have hrefresh : s.executor.advanceRefresh (.queued order observed) .granted m.now =
        s.executor.refreshLocked order observed m.now := by
      simp [Executor.advanceRefresh, hfree]
    rw [← hrefresh]
    rfl
  have hstep : s.step m (.signal c .granted) =
      s.absorb c (Executor.executed e.command e.options
        (s.executor.advanceExecution e .granted m)) := step_signal hcall
  rw [hstep, hadvance, Executor.refreshLocked_of_restrained hrestrained hrecent,
    Executor.afterWish_done]
  cases hinitialized : s.executor.initialized with
  | true =>
    rw [if_pos rfl]
    cases isFirst <;> simp [Executor.judge, Executor.afterUpdate, Except.bind, hinitialized]
  | false =>
    have hfirst : isFirst = true := by
      by_contra hlater
      have hknown := hrestrained.known (by simpa using hlater)
      rw [Executor.knowledge_initialized, hinitialized] at hknown
      cases hknown
    subst hfirst
    rfl

theorem holdsBack_of_recent {failures : List NodeFailure} (h : s.Restrained m.now)
    (hrecent : s.executor.recentFailure? m.now = some failures) : s.HoldsBack m failures := by
  refine
    { noSweep := fun action r hcommand hreport => noSweep_of_recent h hrecent hcommand hreport
      refused := ?_, follows := ?_
      waited := fun c e update order observed => step_of_waited h hrecent }
  · intro action c x command options hopening hopen hfirst
    obtain ⟨hstep, -, mailbox, rfl⟩ := step_of_opening (m := m) hopening
    have hrefused : ({ s.executor with mailbox } : Executor).preparation m.now =
        .refused (.topologyUnavailable failures) :=
      Executor.preparation_of_recent_failure hopen hfirst hrecent
    have hexecute := ({ s.executor with mailbox } : Executor).execute_prepared command options m
    rw [hrefused] at hexecute
    rw [hstep, Executor.begin, hexecute]
    rfl
  · intro action c x command options hopening hopen hknown
    obtain ⟨hstep, -, mailbox, rfl⟩ := step_of_opening (m := m) hopening
    have hsetsOut : ({ s.executor with mailbox } : Executor).preparation m.now = .known :=
      Executor.preparation_of_known hopen hknown hrecent
    have hexecute := ({ s.executor with mailbox } : Executor).execute_prepared command options m
    rw [hsetsOut] at hexecute
    rw [hstep, Executor.begin, hexecute]

/-- After a failed sweep, and until another one ends, calls on commands begin no sweep for as long
as the executor is set to wait.  Without a topology they report the failures of that sweep, with one
they go by what it says. -/
theorem holdsBack_new (scope : Scope) (applicationId : String) (seeds : List Url)
    (conventions : Conventions) (proxy : Option String) (run : Run α) (m : Moment)
    (failures : List NodeFailure) (hclock : Chronological run m.now)
    (hfailed : (new scope applicationId seeds conventions proxy : System α).FailedJustNow run m.now
      failures) :
    HoldsBack ((new scope applicationId seeds conventions proxy : System α).after run) m
      failures := by
  have hnone : (new scope applicationId seeds conventions proxy : System α).executor.lastSweep =
      none :=
    congrArg Knowledge.lastSweep (knowledge_new scope applicationId seeds conventions proxy)
  exact holdsBack_of_recent (restrained_after rfl hclock)
    ((recentFailure?_after_iff hnone).mpr hfailed)

/-- The first sweep fails while a call waits for the lock.  That call begins none when it has the
lock, and one that starts a moment later reports the same failure at once. -/
theorem holdsBack_new_two_calls :
    let host := fun name => ⟨"http", some ⟨"", "", .name name, some 8080⟩, "/", none, none⟩
    let start : System Bytes := System.new (.database "db") "app" [host "a"] {} none
    let order : Order Bytes := .execute
      { request := fun node => .ok (.get node.url), parse := fun body _ => .ok body,
        isRead := true } {}
    let run : Run Bytes :=
      [(⟨1000, Duration.half⟩, .signal .background (.head 0 (.error .connectionFailed))),
      (⟨0, Duration.half⟩, .begin 1 order), (⟨0, Duration.half⟩, .attend)]
    let m : Moment := ⟨999999999, Duration.half⟩
    let failures : List NodeFailure := [⟨host "a", .transport .connectionFailed⟩]
    Chronological run m.now ∧ start.FailedJustNow run m.now failures ∧
      (∃ r, (start.after run).report? m (.signal (.outside 1) .granted) = some r ∧ r.began = none) ∧
      ((start.after run).step m (.begin 2 order)).2 =
        some (.outside 2, .error (.topologyUnavailable failures)) := by
  intro host start order run m failures
  have hclock : Chronological run m.now := by decide
  have hnone : start.executor.lastSweep = none := rfl
  have hfacts : (start.after run).executor.recentFailure? m.now = some failures ∧
      (start.after run).isOnCommand (.signal (.outside 1) .granted) = true ∧
      ((start.after run).report? m (.signal (.outside 1) .granted)).isSome ∧
      ((start.after run).call? (.outside 2)).isSome = false ∧
      (start.after run).executor.disposed = false ∧
      (start.after run).executor.initialized = false := by decide +kernel
  obtain ⟨hrecent, hcommand, hreported, hfree, hopen, hfirst⟩ := hfacts
  have hfailed : start.FailedJustNow run m.now failures :=
    (recentFailure?_after_iff hnone).mp hrecent
  have holds : (start.after run).HoldsBack m failures :=
    holdsBack_new (.database "db") "app" [host "a"] {} none run m failures hclock hfailed
  clear_value start run m failures
  obtain ⟨r, hreport⟩ := Option.isSome_iff_exists.mp hreported
  have hopening : (start.after run).opening? (.begin 2 order) =
      some (.outside 2, (start.after run).executor, order) := by
    simp [opening?, hfree]
  refine ⟨hclock, hfailed, ⟨r, hreport, holds.noSweep _ r hcommand hreport⟩, ?_⟩
  rw [holds.refused _ _ _ _ _ hopening hopen hfirst]
  rfl

end System

end ClusterClient
