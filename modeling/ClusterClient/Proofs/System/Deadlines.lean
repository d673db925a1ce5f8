import ClusterClient.Proofs.Executor.Tellings
import ClusterClient.Proofs.System.Locks
import ClusterClient.Proofs.System.Tickets

/-!
# Deadlines

A call that takes longer than its caller allows is given up wherever it waits: for
the lock, for a node in a sweep, for the end of a pause, for the head or the body of
an answer.  It leaves behind what came to its end before, and no trace of what it
waited for.
-/

namespace ClusterClient

variable {α : Type}

namespace System

variable {s : System α} {m : Moment} {action : Action α} {c : Caller} {e : Execution α}

/-! ## What listeners are told by a call -/

def tells (s : System α) (m : Moment) (action : Action α) : List Event :=
  let events := (s.step m action).1.executor.events
  events.take (events.length - s.executor.events.length)

/-- What listeners were told by a call since it began, the last event first. -/
def told (s : System α) (c : Caller) : Run α → List Event
  | [] => []
  | (m, action) :: before =>
    let t := s.after before
    if t.actor? action = some c then
      t.tells m action ++ if (t.opening? action).isSome then [] else s.told c before
    else s.told c before

theorem tells_eq {new : List Event}
    (h : (s.step m action).1.executor.events = new ++ s.executor.events) :
    s.tells m action = new := by
  unfold tells
  rw [h]
  simp

theorem events_absorb (s : System α) (caller : Caller) (step : Executor.Step α) :
    (s.absorb caller step).1.executor.events = step.1.events := by
  obtain ⟨listening, mailbox, habsorbed⟩ := s.executor_absorb caller step
  rw [habsorbed]

theorem tells_absorb {command : Command α} {options : Options} {next : Executor.Next α}
    {new : List Event}
    (hstep : s.step m action = s.absorb c (Executor.executed command options next))
    (hnew : next.1.events = new ++ s.executor.events) : s.tells m action = new := by
  refine tells_eq ?_
  rw [hstep, events_absorb, (Executor.executed_spec command options next).1, hnew]

/-- Nothing is told of how the attempt ends that a call waits with. -/
theorem untold_after (hidle : ∀ c, s.call? c = none) (run : Run α)
    (h : (s.after run).call? c = some (.executing e)) : e.phase.Untold (s.told c run) := by
  induction run generalizing e with
  | nil => cases (hidle c).symm.trans h
  | cons event before ih =>
    obtain ⟨m, action⟩ := event
    rw [told]
    rcases call?_step h with ⟨hother, hold⟩ | ⟨x, order, hopening, hstep, hbegun⟩ |
      ⟨old, signal, rfl, hold, hstep, hadvanced⟩
    · rw [if_neg hother]
      exact ih hold
    · obtain ⟨-, -, mailbox, hx⟩ := step_of_opening (m := m) hopening
      obtain ⟨rfl, hphase⟩ := order_of_executing hbegun
      obtain ⟨new, hnew, huntold⟩ := x.tells_execute e.command e.options m
      have hactor : (s.after before).actor? action = some c := by
        unfold actor?
        rw [hopening]
      have hevents : x.events = (s.after before).executor.events := by rw [hx]
      rw [if_pos hactor, tells_absorb hstep (hnew.trans (by rw [hevents])), hopening]
      exact huntold e.phase hphase
    · obtain ⟨phase, rfl, hphase⟩ := execution_of_advanced hadvanced
      obtain ⟨new, hnew, huntold⟩ :=
        (s.after before).executor.tells_advanceExecution (ih hold) signal m
      have hactor : (s.after before).actor? (.signal c signal) = some c := rfl
      rw [if_pos hactor, tells_absorb hstep hnew]
      exact huntold e.phase hphase

/-! ## Calls that are given up -/

def deadline? (s : System α) (c : Caller) : Option Duration :=
  match s.call? c with
  | some (.executing e) => e.options.deadline
  | _ => none

theorem call?_of_deadline? {limit : Duration} (h : s.deadline? c = some limit) :
    ∃ e, s.call? c = some (.executing e) ∧ e.options.deadline = some limit := by
  unfold deadline? at h
  split at h
  · rename_i e hcall
    exact ⟨e, hcall, h⟩
  · cases h

/-- What a call that took too long leaves behind, when this is what happened before. -/
structure LeavesNoTrace (start : System α) (run : Run α) (c : Caller) (e : Execution α)
    (t : System α) : Prop where
  /-- Only the lock is given back if the call had it. -/
  executor : t.executor = { (start.after run).executor with lockHeld := t.executor.lockHeld }
  calls : ∀ d, t.call? d = if d = c then none else (start.after run).call? d
  /-- What the executor goes by was left by what came to its end before. -/
  ledger : t.executor.ledger =
    (start.completions run).foldr (fun (now, completion) l => l.after now completion)
      start.executor.ledger
  /-- The attempt under way is not among that. -/
  unsettled : ∀ trail f, e.phase = .flying trail f →
    ∀ event ∈ start.completions run, event.2.ticket? ≠ some f.ticket
  /-- Nobody was told that it succeeded or failed. -/
  untold : e.phase.Untold (start.told c run)
  /-- The lock is free unless another caller has it. -/
  lock : t.executor.lockHeld = true ↔
    ∃ d, d ≠ c ∧ ((start.after run).refresh? d).any Refresh.isSweeping = true
  released : ((start.after run).refresh? c).any Refresh.isSweeping = true →
    t.executor.lockHeld = false
  /-- What was waited for does not reach the call any more. -/
  deaf : ∀ m signal, t.step m (.signal c signal) = (t, none)

theorem leavesNoTrace_abandon {start : System α} (hquiet : start.Quiet)
    (hidle : ∀ c, start.call? c = none) {run : Run α}
    (hcall : (start.after run).call? c = some (.executing e)) :
    start.LeavesNoTrace run c e ((start.after run).abandon c) := by
  have hfits : start.Fits := fits_of_idle hidle
  have hheld : Held ((start.after run).abandon c).executor.knowledge
      ((start.after run).abandon c).refresh? _ :=
    hquiet.held_after ((⟨0, id⟩, .abandon c) :: run)
  have hlock : ((start.after run).abandon c).executor.lockHeld = true ↔
      ∃ d, d ≠ c ∧ ((start.after run).refresh? d).any Refresh.isSweeping = true := by
    have hsome : ((start.after run).abandon c).executor.lockHeld = _ := hheld.lock
    rw [hsome, Option.isSome_iff_exists]
    refine exists_congr fun d => ?_
    rw [← hheld.sweeping, refresh?_abandon]
    split <;> simp_all
  have hexecutor := (start.after run).executor_abandon c
  refine
    { executor := hexecutor
      calls := (start.after run).call?_abandon c
      ledger := ?_
      unsettled := ?_
      untold := untold_after hidle run hcall
      lock := hlock
      released := ?_
      deaf := ?_ }
  · rw [hexecutor]
    exact hfits.ledger_after run
  · intro trail f hphase event hevent hticket
    have hticketed := (ticketed_of_idle hidle).after hfits run
    refine (hticketed.settled event hevent _ hticket).2 c ?_
    rw [ticket?, hcall]
    show e.phase.ticket? = some f.ticket
    rw [hphase]
    rfl
  · intro hsweeping
    rw [Bool.eq_false_iff, ne_eq, hlock]
    rintro ⟨d, hd, hother⟩
    exact hd ((hquiet.held_after run).eq_of_sweeping hother hsweeping)
  · intro m signal
    refine step_signal_of_none ?_
    rw [call?_abandon, if_pos rfl]

/-- A call that takes longer than its caller allows ends with that, wherever it waits, and leaves
no trace of what it waited for. -/
theorem expire_new (scope : Scope) (applicationId : String) (seeds : List Url)
    (conventions : Conventions) (proxy : Option String) (run : Run α) (c : Caller)
    (e : Execution α) (limit : Duration)
    (hcall : ((new scope applicationId seeds conventions proxy : System α).after run).call? c =
      some (.executing e))
    (hlimit : e.options.deadline = some limit) :
    ∃ t, ((new scope applicationId seeds conventions proxy : System α).after run).expire c =
        (t, some (c, .error (.timeout limit))) ∧
      LeavesNoTrace (new scope applicationId seeds conventions proxy) run c e t := by
  refine ⟨_, ?_, leavesNoTrace_abandon (quiet_new scope applicationId seeds conventions proxy)
    (fun _ => rfl) hcall⟩
  unfold expire
  rw [hcall]
  dsimp only
  rw [hlimit]

/-- The first of two nodes failed, and the second one has sent the head of an answer when the time
is up: the first node is marked, of the second one there is only word that it was turned to. -/
theorem expire_new_before_body :
    let host := fun name => ⟨"http", some ⟨"", "", .name name, some 8080⟩, "/", none, none⟩
    let start : System Bytes := System.new (.database "db") "app" [host "a", host "b"]
      { disableTopologyUpdates := true } none
    let order : Order Bytes := .execute
      { request := fun node => .ok (.get node.url), parse := fun body _ => .ok body,
        isRead := true }
      { deadline := some (.ofMillis 5000) }
    let moment : Nat → Moment := fun now => ⟨now, Duration.half⟩
    let run : Run Bytes :=
      [(moment 3, .signal (.outside 1) (.head 1 (.ok { status := 200 }))),
        (moment 2, .signal (.outside 1) .resumed),
        (moment 1, .signal (.outside 1) (.head 0 (.error .connectionFailed))),
        (moment 0, .begin 1 order)]
    ∃ t, (start.after run).expire (.outside 1) =
        (t, some (.outside 1, .error (.timeout (.ofMillis 5000)))) ∧
      t.executor.selector.failed = (start.executor.selector.nodes.take 1).map (·.key) ∧
      t.executor.events.head? = some (.before (host "b") 2) ∧ t.executor.lockHeld = false := by
  intro host start order moment run
  have hlimit : (start.after run).deadline? (.outside 1) = some (.ofMillis 5000) := by
    decide +kernel
  have hfacts : (start.after run).executor.selector.failed =
        (start.executor.selector.nodes.take 1).map (·.key) ∧
      (start.after run).executor.events.head? = some (.before (host "b") 2) ∧
      (start.after run).executor.lockHeld = false := by decide +kernel
  have hquiet : start.Quiet := quiet_new _ _ _ _ _
  obtain ⟨e, hcall, hdeadline⟩ := call?_of_deadline? hlimit
  have hleaves : ∃ t, (start.after run).expire (.outside 1) =
      (t, some (.outside 1, .error (.timeout (.ofMillis 5000)))) ∧
      start.LeavesNoTrace run (.outside 1) e t :=
    expire_new (.database "db") "app" [host "a", host "b"] { disableTopologyUpdates := true }
      none run (.outside 1) e _ hcall hdeadline
  clear_value start run
  obtain ⟨t, hexpire, hleft⟩ := hleaves
  refine ⟨t, hexpire, ?_, ?_, ?_⟩
  · rw [hleft.executor]
    exact hfacts.1
  · rw [hleft.executor]
    exact hfacts.2.1
  · rw [Bool.eq_false_iff, ne_eq, hleft.lock]
    rintro ⟨d, -, hsweeping⟩
    cases ((hquiet.held_after run).idle_of_free hfacts.2.2 d).symm.trans hsweeping

end System

end ClusterClient
