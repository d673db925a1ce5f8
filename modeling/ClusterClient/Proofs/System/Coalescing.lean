import ClusterClient.Proofs.System.Sharing

/-!
# Coalescing

Sweeps never overlap, and callers that want the topology at the same time share
one sweep, in whatever order their steps come.
-/

namespace ClusterClient

open Report

variable {α : Type} {sweeper : Caller} {reports : List Report} {seen : Nat}

namespace System

variable {s : System α}

theorem patient_after {run : Run α} (hstart : Patient s.executor.knowledge s.refresh?)
    (hcalm : ∀ r ∈ s.reports run, r.Calm) :
    Patient (s.after run).executor.knowledge (s.after run).refresh? := by
  refine along_run (P := fun k wishes reports => (∀ r ∈ reports, r.Calm) → Patient k wishes)
    (fun _ => hstart) (fun ih htakes hcalm => ?_) run hcalm
  exact (ih fun r hr => hcalm r (List.mem_cons_of_mem _ hr)).step
    (hcalm _ List.mem_cons_self) htakes

theorem shares_after (run : Run α) (hstart : Patient s.executor.knowledge s.refresh?)
    (hidle : Held s.executor.knowledge s.refresh? none)
    (hcalm : ∀ r ∈ s.reports run, r.Calm) (htogether : Together (s.reports run)) :
    Patient (s.after run).executor.knowledge (s.after run).refresh? ∧
      Shares (s.after run).executor.knowledge (s.after run).refresh? (s.reports run)
        s.executor.knowledge.sweeps := by
  -- `Shares` is not kept alone: that a new wish is due, or an old one spared, needs `Patient`
  -- before.
  refine along_run
    (P := fun k wishes reports => (∀ r ∈ reports, r.Calm) → Together reports →
      Patient k wishes ∧ Shares k wishes reports s.executor.knowledge.sweeps)
    (fun _ _ => ⟨hstart, .before ⟨hidle, rfl, by simp⟩⟩) ?_ run hcalm htogether
  intro k k' wishes caller after now r reports ih htakes hcalm htogether
  obtain ⟨hpatient, hshares⟩ := ih (fun r hr => hcalm r (List.mem_cons_of_mem _ hr)) htogether.2
  have hr := hcalm r List.mem_cons_self
  exact ⟨hpatient.step hr htakes, hshares.step hpatient hr htogether.1 htakes⟩

/-- Sweeps never overlap, and callers that want the topology at the same time share one. -/
structure Coalesces (start : System α) : Prop where
  /-- At most one sweep is in progress at a time. -/
  exclusive : ∀ (run : Run α) (c d : Caller),
    ((start.after run).refresh? c).any Refresh.isSweeping = true →
    ((start.after run).refresh? d).any Refresh.isSweeping = true → c = d
  /-- Only those who sweep contact a node. -/
  asked : ∀ run : Run α,
    (start.after run).executor.asked = (start.reports run).flatMap (·.asked.reverse)
  sweeping : ∀ (run : Run α) (m : Moment) (action : Action α) (r : Report),
    (start.after run).report? m action = some r → r.asked ≠ [] →
    r.began.isSome ∨ ((start.after run).refresh? r.caller).any Refresh.isSweeping = true
  /-- A sweep is begun for the last wish of its caller while nobody sweeps, and only if no sweep
  ended since the wish was made. -/
  current : ∀ (run : Run α) (m : Moment) (action : Action α) (r : Report) (order : SweepOrder),
    (start.after run).report? m action = some r → r.began = some order →
    lastWish? r.caller (r :: start.reports run) = some order ∧
      (∀ c, ((start.after run).refresh? c).any Refresh.isSweeping = false) ∧
      (order.force = false → r.entered.isSome ∨ endedSince r.caller (start.reports run) = 0)
  /-- Of the callers that make a wish while nobody sweeps, or until the first sweep among them ends,
  exactly one sweeps, and all get what its sweep comes to. -/
  shared : ∀ later before : Run α, (∀ r ∈ start.reports (later ++ before), r.Calm) →
    (∀ c, ((start.after before).refresh? c).any Refresh.isSweeping = false) →
    Together ((start.after before).reports later) →
    (∃ r ∈ (start.after before).reports later, r.entered.isSome) →
    ∃ sweeper, OneSweeps sweeper ((start.after before).reports later) ∧
      ((outcomes ((start.after before).reports later) = [] ∧
          results ((start.after before).reports later) = [] ∧
          ((start.after (later ++ before)).refresh? sweeper).any Refresh.isSweeping = true) ∨
        ∃ outcome, outcomes ((start.after before).reports later) = [outcome] ∧
          (∀ result ∈ results ((start.after before).reports later),
            result = sweepResult outcome) ∧
          ∀ c, isInside c ((start.after before).reports later) = true → ∀ m : Moment,
            ((start.after (later ++ before)).report? m (.signal c .granted)).bind (·.returned) =
              some (sweepResult outcome))

theorem returned_of_afterwards {outcome : Except (List NodeFailure) Topology} {c : Caller}
    (h : Afterwards s.executor.knowledge s.refresh? reports seen sweeper outcome)
    (hpatient : Patient s.executor.knowledge s.refresh?) (hinside : isInside c reports = true)
    (m : Moment) :
    (s.report? m (.signal c .granted)).bind (·.returned) = some (sweepResult outcome) := by
  obtain ⟨order, hqueued, -⟩ := h.waiting c hinside
  have hfree : s.executor.lockHeld = false := h.held.lock
  have hspared := h.spared hpatient hinside hqueued
  have hcarry : s.executor.carryOut m.now (.under (.queued order seen) .granted) =
      (s.executor, .done (sweepResult outcome)) := by
    rw [Executor.carryOut, Executor.advanceRefresh, hfree]
    exact Executor.refreshLocked_of_spared hspared m.now
  rw [report?, opening?, hqueued]
  simp only [Option.map_some, Option.bind_some]
  rw [Executor.report_of_no_sweep hcarry rfl]
  rfl

theorem Quiet.patient (h : s.Quiet) : Patient s.executor.knowledge s.refresh? := by
  intro c order observed hqueued
  rw [h.wishes c] at hqueued
  cases hqueued

/-- A group that starts while nobody sweeps shares a sweep, whatever came before. -/
theorem Quiet.shares_after (h : s.Quiet) (later before : Run α)
    (hcalm : ∀ r ∈ s.reports (later ++ before), r.Calm)
    (hidle : ∀ c, ((s.after before).refresh? c).any Refresh.isSweeping = false)
    (htogether : Together ((s.after before).reports later)) :
    Patient (s.after (later ++ before)).executor.knowledge (s.after (later ++ before)).refresh? ∧
      Shares (s.after (later ++ before)).executor.knowledge (s.after (later ++ before)).refresh?
        ((s.after before).reports later) (s.after before).executor.knowledge.sweeps := by
  rw [reports_append] at hcalm
  have hpatient := patient_after h.patient fun r hr => hcalm r (List.mem_append_right _ hr)
  have hheld := h.held_after before
  rw [hheld.eq_none_of_idle hidle] at hheld
  rw [after_append]
  exact System.shares_after later hpatient hheld
    (fun r hr => hcalm r (List.mem_append_left _ hr)) htogether

theorem coalesces_new (scope : Scope) (applicationId : String) (seeds : List Url)
    (conventions : Conventions) (proxy : Option String) :
    Coalesces (new scope applicationId seeds conventions proxy : System α) := by
  have hquiet := quiet_new (α := α) scope applicationId seeds conventions proxy
  have hasked := asked_new (α := α) scope applicationId seeds conventions proxy
  generalize (new scope applicationId seeds conventions proxy : System α) = start at hquiet hasked
  refine ⟨fun run c d => (hquiet.held_after run).eq_of_sweeping, fun run => ?_,
    fun run m action r hreport hr => (step_moves hreport).takes.sweeps_of_asked hr,
    fun run m action r order hreport hbegan => ?_,
    fun later before hcalm hidle htogether hentered => ?_⟩
  · rw [asked_after, hasked, List.append_nil]
  · have htakes := (step_moves hreport).takes
    have hfree : (start.after run).executor.knowledge.lockHeld = false :=
      (htakes.due_of_began hbegan).free
    obtain ⟨hwish, hcurrent⟩ := (hquiet.watched_after run).of_began htakes hbegan
    exact ⟨hwish, (hquiet.held_after run).idle_of_free hfree, hcurrent⟩
  · obtain ⟨hpatient, hshares⟩ := hquiet.shares_after later before hcalm hidle htogether
    cases hshares with
    | before h =>
      obtain ⟨r, hr, hwish⟩ := hentered
      rw [(h.still r hr).entered] at hwish
      cases hwish
    | during sweeper h =>
      exact ⟨sweeper, h.one, .inl ⟨h.outcomes, h.results, (h.held.sweeping sweeper).mpr rfl⟩⟩
    | afterwards sweeper outcome h =>
      exact ⟨sweeper, h.one, .inr ⟨outcome, h.outcomes, h.results, fun c hinside m =>
        returned_of_afterwards h hpatient hinside m⟩⟩

/-- Three callers want the topology of a cluster whose only node cannot be reached: one of them asks
it, and all three learn that it failed. -/
theorem coalesces_new_three_callers :
    let host := fun name => ⟨"http", some ⟨"", "", .name name, some 8080⟩, "/", none, none⟩
    let start : System Bytes := System.new .cluster "app" [host "a"] {} none
    let command : Command Bytes :=
      { request := fun node => .ok (.get node.url), parse := fun body _ => .ok body,
        isRead := true }
    let run : Run Bytes :=
      [ .signal (.outside 2) .granted, .signal .background .granted,
        .signal (.outside 1) (.head 0 (.error .connectionFailed)), .attend,
        .begin 2 (.updateTopology (Executor.seedNode .cluster (host "b")) false none),
        .begin 1 (.execute command {})].map fun action => (⟨0, Duration.half⟩, action)
    (results (start.reports run)).length = 3 ∧
      ∃ sweeper outcome, OneSweeps sweeper (start.reports run) ∧
        outcomes (start.reports run) = [outcome] ∧
        ∀ result ∈ results (start.reports run), result = sweepResult outcome := by
  intro host start command run
  have hcoalesces : Coalesces start := coalesces_new .cluster "app" [host "a"] {} none
  have hrun : (∀ r ∈ start.reports (run ++ []), r.Calm) ∧ Together (start.reports run) ∧
      (∃ r ∈ start.reports run, r.entered.isSome) ∧
      (results (start.reports run)).length = 3 := by decide +kernel
  have hidle : ∀ c, ((start.after []).refresh? c).any Refresh.isSweeping = false := fun _ => rfl
  clear_value start run
  obtain ⟨sweeper, hone, hshared⟩ := hcoalesces.shared run [] hrun.1 hidle hrun.2.1 hrun.2.2.1
  refine ⟨hrun.2.2.2, sweeper, ?_⟩
  rcases hshared with ⟨-, hnone, -⟩ | ⟨outcome, houtcome, hresults, -⟩
  · have hthree := hrun.2.2.2
    rw [show results (start.reports run) = [] from hnone] at hthree
    cases hthree
  · exact ⟨outcome, hone, houtcome, hresults⟩

end System

end ClusterClient
